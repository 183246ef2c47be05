import DocPress.Path
import DocPress.Proofs.Text.Pieces

namespace DocPress

namespace Path

theorem isAbsolute_normalize (p : Path) : p.normalize.isAbsolute = p.isAbsolute := rfl

theorem join_of_isAbsolute (base : Path) {p : Path} (h : p.isAbsolute = true) :
    base.join p = p := by
  simp [join, h]

theorem absolute_of_isAbsolute (base : Path) {p : Path} (h : p.isAbsolute = true) :
    base.absolute p = p.normalize := by
  rw [absolute, join_of_isAbsolute base h]

theorem isAbsolute_absolute {base : Path} (h : base.isAbsolute = true) (p : Path) :
    (base.absolute p).isAbsolute = true := by
  by_cases hp : p.isAbsolute = true
  · rw [absolute_of_isAbsolute base hp, isAbsolute_normalize, hp]
  · simp only [absolute, join, hp, isAbsolute_normalize]
    exact h

theorem foldl_push_normalize (p : Path) :
    p.normalize.parts.foldl (push p.isAbsolute) [] = p.parts.foldl (push p.isAbsolute) [] :=
  settled_foldl_push _ _ _ rfl

/-- It makes no difference to what is meant from a directory that `..` has gone from its path. -/
theorem absolute_normalize (base p : Path) : base.normalize.absolute p = base.absolute p := by
  by_cases hp : p.isAbsolute = true
  · rw [absolute_of_isAbsolute _ hp, absolute_of_isAbsolute _ hp]
  · have h : ((base.normalize.parts ++ p.parts).foldl (push base.isAbsolute) []) =
        (base.parts ++ p.parts).foldl (push base.isAbsolute) [] := by
      rw [List.foldl_append, foldl_push_normalize, List.foldl_append]
    simp only [absolute, join, hp, Bool.false_eq_true, if_false]
    exact congrArg (fun stack => { base with parts := stack.reverse }) h

theorem foldl_push_of_dotDot_notMem (absolute : Bool) {parts : List Text} (h : dotDot ∉ parts)
    (stack : List Text) : parts.foldl (push absolute) stack = parts.reverse ++ stack := by
  induction parts generalizing stack with
  | nil => rfl
  | cons part rest ih =>
    obtain ⟨hp, hr⟩ := not_or.1 (mt List.mem_cons.2 h)
    rw [List.foldl_cons, ih hr]
    simp [push, Ne.symm hp]

theorem normalize_of_dotDot_notMem {p : Path} (h : dotDot ∉ p.parts) : p.normalize = p := by
  rw [normalize, foldl_push_of_dotDot_notMem _ h]
  simp

theorem mem_push {absolute : Bool} {stack : List Text} {part q : Text}
    (h : q ∈ push absolute stack part) : q ∈ stack ∨ q = part := by
  unfold push at h
  split at h
  · rename_i hp
    split at h
    · split at h <;> simp_all
    · split at h <;> simp_all
  · simpa [or_comm] using h

theorem mem_foldl_push {absolute : Bool} {parts stack : List Text} {q : Text}
    (h : q ∈ parts.foldl (push absolute) stack) : q ∈ stack ∨ q ∈ parts := by
  induction parts generalizing stack with
  | nil => exact .inl h
  | cons part rest ih =>
    rcases ih h with h | h
    · rcases mem_push h with h | rfl
      · exact .inl h
      · exact .inr (List.mem_cons_self ..)
    · exact .inr (List.mem_cons_of_mem _ h)

theorem mem_of_mem_normalize {p : Path} {q : Text} (h : q ∈ p.normalize.parts) : q ∈ p.parts := by
  simpa using mem_foldl_push (List.mem_reverse.1 h)

theorem isUnicode_root (r : Root) : (Root.toText r).isUnicode = true := by
  cases r <;> decide

theorem isUnicode_toText_iff {p : Path} :
    p.toText.isUnicode = true ↔ ∀ part ∈ p.parts, part.isUnicode = true := by
  unfold toText
  split
  · rename_i h
    simp only [h.2, List.not_mem_nil, false_imp_iff, implies_true, iff_true]
    decide
  · rw [Text.isUnicode_append, isUnicode_root, Bool.true_and,
      Text.isUnicode_join (by decide : Text.isUnicode [slash] = true)]

theorem isUnicode_toText_normalize {p : Path} (h : p.toText.isUnicode = true) :
    p.normalize.toText.isUnicode = true :=
  isUnicode_toText_iff.2 fun part hp => isUnicode_toText_iff.1 h part (mem_of_mem_normalize hp)

theorem isUnicode_toText_parent {p : Path} (h : p.toText.isUnicode = true) :
    p.parent.toText.isUnicode = true :=
  isUnicode_toText_iff.2 fun part hp => isUnicode_toText_iff.1 h part (List.dropLast_subset _ hp)

theorem parts_eq_of_name_ne_nil {p : Path} (h : p.name ≠ []) :
    p.parts = p.parent.parts ++ [p.name] := by
  have hp : p.parts ≠ [] := by
    intro hp
    exact h (by simp [name, hp])
  rw [parent, name, List.getLastD_eq_getLast?, List.getLast?_eq_some_getLast hp,
    Option.getD_some, List.dropLast_concat_getLast]

theorem isUnicode_name {p : Path} (hn : p.name ≠ []) (h : p.toText.isUnicode = true) :
    p.name.isUnicode = true :=
  isUnicode_toText_iff.1 h _ (by rw [parts_eq_of_name_ne_nil hn]; simp)

theorem splitSuffix_fst_subset (name : Text) : (splitSuffix name).1 ⊆ name := by
  unfold splitSuffix
  dsimp only
  split
  · exact List.Subset.refl _
  · exact List.take_subset _ _

theorem splitSuffix_fst_ne_nil {name : Text} (h : name ≠ []) : (splitSuffix name).1 ≠ [] := by
  unfold splitSuffix
  dsimp only
  split
  · exact h
  · rename_i hs
    exact (not_or.1 (not_or.1 hs).2).2

theorem withSuffix?_eq_some {suffix : Text} {p q : Path} :
    withSuffix? suffix p = some q ↔
      p.name ≠ [] ∧ q = ⟨p.root, p.parts.dropLast ++ [(splitSuffix p.name).1 ++ suffix]⟩ := by
  by_cases hn : p.name = []
  · simp [withSuffix?, hn]
  · simp only [withSuffix?, if_neg hn, Option.some.injEq, @eq_comm _ _ q]
    exact ⟨fun h => ⟨hn, h⟩, And.right⟩

theorem name_of_withSuffix? {suffix : Text} {p q : Path} (h : withSuffix? suffix p = some q) :
    q.name = (splitSuffix p.name).1 ++ suffix := by
  simp [(withSuffix?_eq_some.1 h).2, name]

theorem parent_of_withSuffix? {suffix : Text} {p q : Path} (h : withSuffix? suffix p = some q) :
    q.parent = p.parent := by
  simp [(withSuffix?_eq_some.1 h).2, parent]

theorem length_name_of_withSuffix? {suffix : Text} {p q : Path}
    (h : withSuffix? suffix p = some q) : suffix.length < q.name.length := by
  have hs := List.length_pos_iff.2 (splitSuffix_fst_ne_nil (withSuffix?_eq_some.1 h).1)
  rw [name_of_withSuffix? h, List.length_append]
  omega

theorem isUnicode_of_withSuffix? {suffix : Text} {p q : Path} (h : withSuffix? suffix p = some q)
    (hs : suffix.isUnicode = true) (hp : p.toText.isUnicode = true) :
    q.toText.isUnicode = true := by
  obtain ⟨hn, hq⟩ := withSuffix?_eq_some.1 h
  have hstem : (splitSuffix p.name).1.isUnicode = true :=
    Text.isUnicode_of_subset (splitSuffix_fst_subset _) (isUnicode_name hn hp)
  rw [hq, isUnicode_toText_iff]
  intro part hpart
  rcases List.mem_append.1 hpart with hpart | hpart
  · exact isUnicode_toText_iff.1 hp part (List.dropLast_subset _ hpart)
  · rw [List.mem_singleton.1 hpart, Text.isUnicode_append, hstem, hs]
    rfl

end Path

end DocPress
