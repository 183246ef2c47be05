import DocPress.Annotations.Scan
import DocPress.Proofs.Text.Search
import Mathlib.Data.List.Basic
import Mathlib.Data.List.TakeWhile

namespace DocPress.Annotations

theorem nameOf_of_startsWith {terminator t : Text} (hm : terminator ∈ nameTerminators)
    (h : terminator <+: t) : nameOf t = [] := by
  cases t with
  | nil => rfl
  | cons c r =>
    have hany : nameTerminators.any (·.isPrefixOf (c :: r)) = true :=
      List.any_eq_true.2 ⟨terminator, hm, List.isPrefixOf_iff_prefix.2 h⟩
    rw [nameOf, if_pos (.inr hany)]

theorem nameOf_of_isBlank {c : CodePoint} (h : c.isBlank = true) (r : Text) :
    nameOf (c :: r) = [] := by
  rw [nameOf, if_pos (.inl h)]

theorem nameOf_cons {c : CodePoint} {r : Text} (hb : c.isBlank = false)
    (ht : ∀ terminator ∈ nameTerminators, ¬terminator <+: c :: r) :
    nameOf (c :: r) = c :: nameOf r := by
  have hany : ¬nameTerminators.any (·.isPrefixOf (c :: r)) = true := by
    intro h
    obtain ⟨terminator, hm, hp⟩ := List.any_eq_true.1 h
    exact ht terminator hm (List.isPrefixOf_iff_prefix.1 hp)
  rw [nameOf, if_neg (not_or.2 ⟨by simp [hb], hany⟩)]

theorem nameOf_cons_ne_nil {c : CodePoint} {r : Text} (h : nameOf (c :: r) ≠ []) :
    c.isBlank = false ∧ ∀ terminator ∈ nameTerminators, ¬terminator <+: c :: r := by
  constructor
  · cases hb : c.isBlank with
    | false => rfl
    | true => exact absurd (nameOf_of_isBlank hb r) h
  · exact fun terminator hm hp => h (nameOf_of_startsWith hm hp)

/-- What goes on over the code points of a name goes on over the name. -/
theorem eq_nameOf_append {f : Text → Text}
    (h : ∀ c r, nameOf (c :: r) ≠ [] → f (c :: r) = c :: f r) (t : Text) :
    f t = nameOf t ++ f (afterName t) := by
  induction t with
  | nil => rfl
  | cons c r ih =>
    by_cases hn : nameOf (c :: r) = []
    · rw [afterName, hn]
      rfl
    · obtain ⟨hb, ht⟩ := nameOf_cons_ne_nil hn
      have hafter : afterName (c :: r) = afterName r := by
        rw [afterName, nameOf_cons hb ht, List.length_cons, List.drop_succ_cons, ← afterName]
      rw [h c r hn, nameOf_cons hb ht, hafter, ih, List.cons_append]

/-- Where a first one of some markers begins in a text; its length where there is none. -/
def firstOf (markers : List Text) (t : Text) : Nat :=
  (markers.filterMap (Text.find? · t)).foldl min t.length

theorem tagName_eq_take (word : Text) : tagName word = word.take (firstOf nameTerminators word) :=
  rfl

theorem foldl_min_le {n : Nat} {l : List Nat} : ∀ {k : Nat}, k = n ∨ k ∈ l → l.foldl min n ≤ k := by
  induction l generalizing n with
  | nil =>
    rintro k (rfl | h)
    · exact Nat.le_refl _
    · exact absurd h List.not_mem_nil
  | cons a l ih =>
    rintro k (rfl | h)
    · exact Nat.le_trans (ih (.inl rfl)) (Nat.min_le_left _ _)
    · rcases List.mem_cons.1 h with rfl | h
      · exact Nat.le_trans (ih (.inl rfl)) (Nat.min_le_right _ _)
      · exact ih (.inr h)

theorem foldl_min_map_succ (l : List Nat) (n : Nat) :
    (l.map (· + 1)).foldl min (n + 1) = l.foldl min n + 1 := by
  rw [List.foldl_map]
  exact List.foldl_hom (· + 1) fun x y => (Nat.add_min_add_right x y 1)

theorem firstOf_of_startsWith {markers : List Text} {marker t : Text} (hm : marker ∈ markers)
    (h : marker <+: t) : firstOf markers t = 0 := by
  have hfind : Text.find? marker t = some 0 := by
    obtain ⟨rest, rfl⟩ := h
    cases marker with
    | nil => cases rest <;> rfl
    | cons c r => rw [Text.find?, Text.breakOn_append (List.cons_ne_nil _ _)]; rfl
  exact Nat.le_zero.1 (foldl_min_le (.inr (List.mem_filterMap.2 ⟨marker, hm, hfind⟩)))

theorem firstOf_cons {markers : List Text} {c : CodePoint} {r : Text}
    (h : ∀ marker ∈ markers, ¬marker <+: c :: r) :
    firstOf markers (c :: r) = firstOf markers r + 1 := by
  have hfind : ∀ marker ∈ markers,
      Text.find? marker (c :: r) = (Text.find? marker r).map (· + 1) := by
    intro marker hm
    rw [Text.find?, Text.find?, Text.breakOn_cons (h marker hm)]
    simp only [Option.map_map]
    rfl
  rw [firstOf, firstOf, List.filterMap_congr hfind, List.length_cons, ← foldl_min_map_succ,
    List.map_filterMap]

theorem tagName_eq_nameOf {word : Text} (h : ∀ c ∈ word, c.isBlank = false) :
    tagName word = nameOf word := by
  induction word with
  | nil => rfl
  | cons c r ih =>
    rw [tagName_eq_take]
    by_cases ht : ∀ terminator ∈ nameTerminators, ¬terminator <+: c :: r
    · have hr : tagName r = nameOf r := ih fun d hd => h d (List.mem_cons_of_mem _ hd)
      rw [firstOf_cons ht, List.take_succ_cons, ← tagName_eq_take, hr,
        nameOf_cons (h c List.mem_cons_self) ht]
    · simp only [not_forall, not_not] at ht
      obtain ⟨terminator, hm, hp⟩ := ht
      rw [firstOf_of_startsWith hm hp, List.take_zero, nameOf_of_startsWith hm hp]

theorem not_isBlank_of_mem_nameTerminators {terminator : Text} (hm : terminator ∈ nameTerminators) :
    ∀ c ∈ terminator, c.isBlank = false := by
  have h : ∀ terminator ∈ nameTerminators, terminator.all (!·.isBlank) = true := by decide
  simpa using h terminator hm

theorem prefix_takeWhile_iff {p : CodePoint → Bool} {a t : Text} (h : ∀ c ∈ a, p c = true) :
    a <+: t.takeWhile p ↔ a <+: t := by
  constructor
  · exact fun ha => ha.trans (List.takeWhile_prefix p)
  · rintro ⟨rest, rfl⟩
    rw [List.takeWhile_append_of_pos h]
    exact List.prefix_append _ _

theorem nameOf_takeWhile (t : Text) : nameOf (t.takeWhile (!·.isBlank)) = nameOf t := by
  induction t with
  | nil => rfl
  | cons c r ih =>
    cases hb : c.isBlank with
    | true => rw [nameOf_of_isBlank hb, List.takeWhile_cons_of_neg (by simp [hb])]; rfl
    | false =>
      have hpre : ∀ terminator ∈ nameTerminators,
          (terminator <+: (c :: r).takeWhile (!·.isBlank) ↔ terminator <+: c :: r) := by
        intro terminator hm
        apply prefix_takeWhile_iff
        simpa using not_isBlank_of_mem_nameTerminators hm
      have hw : (c :: r).takeWhile (!·.isBlank) = c :: r.takeWhile (!·.isBlank) :=
        List.takeWhile_cons_of_pos (by simp [hb])
      by_cases ht : ∀ terminator ∈ nameTerminators, ¬terminator <+: c :: r
      · rw [nameOf_cons hb ht, hw, nameOf_cons hb, ih]
        exact fun terminator hm hp => ht terminator hm ((hpre terminator hm).1 (hw ▸ hp))
      · simp only [not_forall, not_not] at ht
        obtain ⟨terminator, hm, hp⟩ := ht
        rw [nameOf_of_startsWith hm hp, nameOf_of_startsWith hm ((hpre terminator hm).2 hp)]

theorem tagName_takeWhile (t : Text) : tagName (t.takeWhile (!·.isBlank)) = nameOf t := by
  rw [tagName_eq_nameOf, nameOf_takeWhile]
  intro c hc
  simpa using List.mem_takeWhile_imp hc

end DocPress.Annotations
