import DocPress.Proofs.Path.Components
import Mathlib.Data.List.Induction

namespace DocPress

namespace Path

theorem foldl_push_reduced (stack parts : List Text) :
    (parts.foldl (push false) []).reverse.foldl (push true) stack =
      parts.foldl (push true) stack := by
  induction parts using List.reverseRecOn with
  | nil => rfl
  | append_singleton parts part ih =>
    rw [List.foldl_append, List.foldl_append, ← ih]
    generalize parts.foldl (push false) [] = reduced
    simp only [List.foldl_cons, List.foldl_nil]
    by_cases hp : part = dotDot
    · cases reduced with
      | nil => simp [push, hp]
      | cons top rest =>
        by_cases ht : top = dotDot
        · simp [push, hp, ht, List.foldl_append]
        · simp [push, hp, ht, List.foldl_append]
    · simp [push, hp, List.foldl_append]

theorem isAbsolute_join (p q : Path) : (p.join q).isAbsolute = (p.isAbsolute || q.isAbsolute) := by
  cases hq : q.isAbsolute with
  | true => rw [join_of_isAbsolute p hq, hq, Bool.or_true]
  | false =>
    rw [join, hq, Bool.or_false]
    rfl

theorem join_of_relative (p : Path) {q : Path} (h : q.isAbsolute = false) :
    p.join q = { p with parts := p.parts ++ q.parts } := by
  rw [join, h]
  rfl

theorem join_assoc (top base p : Path) : (top.join base).join p = top.join (base.join p) := by
  cases hp : p.isAbsolute with
  | true => rw [join_of_isAbsolute _ hp, join_of_isAbsolute _ hp, join_of_isAbsolute _ hp]
  | false =>
    cases hb : base.isAbsolute with
    | true =>
      have hbp : (base.join p).isAbsolute = true := by rw [isAbsolute_join, hb, Bool.true_or]
      rw [join_of_isAbsolute _ hb, join_of_isAbsolute _ hbp]
    | false =>
      have hbp : (base.join p).isAbsolute = false := by rw [isAbsolute_join, hb, hp, Bool.false_or]
      rw [join_of_relative _ hp, join_of_relative _ hbp, join_of_relative _ hb,
        join_of_relative _ hp, List.append_assoc]

/-- What is meant from a directory may be said from there first and then absolutely. -/
theorem absolute_absolute {top : Path} (ht : top.isAbsolute = true) (base p : Path) :
    top.absolute (base.absolute p) = (top.join base).absolute p := by
  rw [absolute, absolute, absolute, join_assoc]
  generalize base.join p = q
  cases hq : q.isAbsolute with
  | true =>
    have hn : q.normalize.isAbsolute = true := hq
    rw [join_of_isAbsolute _ hq, join_of_isAbsolute _ hn, normalize_normalize]
  | false =>
    have hn : q.normalize.isAbsolute = false := hq
    have hparts : ∀ parts, (top.parts ++ parts).foldl (push top.isAbsolute) [] =
        parts.foldl (push true) (top.parts.foldl (push true) []) := by
      intro parts
      rw [ht, List.foldl_append]
    have hreduced : q.normalize.parts = (q.parts.foldl (push false) []).reverse := by
      rw [normalize, hq]
    rw [join_of_relative _ hq, join_of_relative _ hn]
    refine congrArg (fun stack : List Text => (⟨top.root, stack.reverse⟩ : Path)) ?_
    change (top.parts ++ q.normalize.parts).foldl (push top.isAbsolute) [] =
      (top.parts ++ q.parts).foldl (push top.isAbsolute) []
    rw [hparts, hparts, hreduced, foldl_push_reduced]

/-- What is left of a relative path goes up as often as it can, and then down. -/
theorem exists_parts_eq_replicate {p : Path} (ha : p.isAbsolute = false) (h : p.normalize = p) :
    ∃ n down, p.parts = List.replicate n dotDot ++ down ∧ dotDot ∉ down := by
  -- The stack holds the components in reverse, so those that go up are at its bottom.
  have hstack : ∀ parts : List Text, ∃ n down,
      parts.foldl (push false) [] = down ++ List.replicate n dotDot ∧ dotDot ∉ down := by
    intro parts
    induction parts using List.reverseRecOn with
    | nil => exact ⟨0, [], rfl, List.not_mem_nil⟩
    | append_singleton parts part ih =>
      obtain ⟨n, down, he, hd⟩ := ih
      rw [List.foldl_append, he, List.foldl_cons, List.foldl_nil]
      by_cases hp : part = dotDot
      · subst hp
        cases down with
        | nil =>
          refine ⟨n + 1, [], ?_, List.not_mem_nil⟩
          cases n <;> simp [push, List.replicate_succ]
        | cons top rest =>
          obtain ⟨ht, hr⟩ := not_or.1 (mt List.mem_cons.2 hd)
          exact ⟨n, rest, by simp [push, Ne.symm ht], hr⟩
      · refine ⟨n, part :: down, by simp [push, hp], ?_⟩
        rw [List.mem_cons, not_or]
        exact ⟨Ne.symm hp, hd⟩
  obtain ⟨n, down, he, hd⟩ := hstack p.parts
  refine ⟨n, down.reverse, ?_, fun hm => hd (List.mem_reverse.1 hm)⟩
  have hparts : p.normalize.parts = p.parts := by rw [h]
  rw [← hparts, normalize, ha]
  change (p.parts.foldl (push false) []).reverse = _
  rw [he, List.reverse_append, List.reverse_replicate]

theorem normalize_absolute (base p : Path) : (base.absolute p).normalize = base.absolute p :=
  normalize_normalize _

theorem absolute_current (p : Path) : (⟨.relative, []⟩ : Path).absolute p = p.normalize := by
  cases ha : p.isAbsolute with
  | true => rw [absolute_of_isAbsolute _ ha]
  | false =>
    have hr : p.root = .relative := by simpa [isAbsolute] using ha
    obtain ⟨root, parts⟩ := p
    obtain rfl : root = .relative := hr
    rw [absolute, join_of_relative _ ha]
    rfl

/-- With a name at its end, a path is without `..` where the directory above it is. -/
theorem normalize_eq_iff_parent {p : Path} (hn : p.name ≠ []) (hd : p.name ≠ dotDot) :
    p.normalize = p ↔ p.parent.normalize = p.parent := by
  have hconcat := absolute_eq_concat hn hd ⟨.relative, []⟩
  rw [absolute_current, absolute_current] at hconcat
  constructor
  · intro h
    have hparent := parent_absolute hn hd ⟨.relative, []⟩
    rwa [absolute_current, absolute_current, h, eq_comm] at hparent
  · intro h
    rw [hconcat, h]
    exact congrArg (fun parts => (⟨p.root, parts⟩ : Path)) (parts_eq_of_name_ne_nil hn).symm

/-- The suffix may be changed before or after a path is made absolute. -/
theorem withSuffix?_absolute {suffix : Text} {p q : Path} (hd : p.name ≠ dotDot)
    (hq : q.name ≠ dotDot) (h : p.withSuffix? suffix = some q) (top : Path) :
    (top.absolute p).withSuffix? suffix = some (top.absolute q) := by
  have hn : p.name ≠ [] := (withSuffix?_eq_some.1 h).1
  have hqn : q.name ≠ [] := by
    have hlength := length_name_of_withSuffix? h
    exact fun he => by simp [he] at hlength
  rw [withSuffix?_eq_some, name_absolute hn hd, absolute_eq_concat hqn hq, absolute_eq_concat hn hd,
    parent_of_withSuffix? h, name_of_withSuffix? h, List.dropLast_concat]
  exact ⟨hn, rfl⟩

end Path

end DocPress
