import DocPress.Text.Basic

namespace DocPress.Text

theorem isUnicode_append {a b : Text} : (a ++ b).isUnicode = (a.isUnicode && b.isUnicode) := by
  simp [isUnicode]

theorem isUnicode_iff {t : Text} : t.isUnicode = true ↔ ∀ c ∈ t, c.isSurrogate = false := by
  simp [isUnicode]

theorem isUnicode_of_subset {a b : Text} (h : a ⊆ b) (hb : b.isUnicode = true) :
    a.isUnicode = true :=
  isUnicode_iff.2 fun c hc => isUnicode_iff.1 hb c (h hc)

theorem join_cons_cons (sep a b : Text) (rest : List Text) :
    join sep (a :: b :: rest) = a ++ sep ++ join sep (b :: rest) := by
  simp [join, List.intercalate_cons_cons]

theorem join_singleton (sep a : Text) : join sep [a] = a := List.intercalate_singleton

theorem join_cons (sep a : Text) {rest : List Text} (h : rest ≠ []) :
    join sep (a :: rest) = a ++ sep ++ join sep rest := by
  obtain ⟨b, rest, rfl⟩ := List.exists_cons_of_ne_nil h
  exact join_cons_cons sep a b rest

theorem join_append (sep : Text) {a b : List Text} (ha : a ≠ []) (hb : b ≠ []) :
    join sep (a ++ b) = join sep a ++ sep ++ join sep b := by
  induction a with
  | nil => exact absurd rfl ha
  | cons p rest ih =>
    cases rest with
    | nil => rw [List.singleton_append, join_cons _ _ hb, join_singleton]
    | cons q rest =>
      have h : q :: rest ++ b ≠ [] := List.append_ne_nil_of_right_ne_nil _ hb
      rw [List.cons_append, join_cons _ _ h, ih (List.cons_ne_nil q rest), join_cons_cons]
      simp only [List.append_assoc]

theorem isUnicode_join {sep : Text} (hs : sep.isUnicode = true) (ps : List Text) :
    (join sep ps).isUnicode = true ↔ ∀ p ∈ ps, p.isUnicode = true := by
  induction ps with
  | nil => simp [join, isUnicode]
  | cons p rest ih =>
    cases rest with
    | nil => simp [join_singleton]
    | cons q rest =>
      rw [join_cons_cons, isUnicode_append, isUnicode_append, hs, List.forall_mem_cons, ← ih]
      simp

theorem splitAt_ne_nil (sep : CodePoint) (t : Text) : splitAt sep t ≠ [] := by
  cases t with
  | nil => simp [splitAt]
  | cons c r =>
    unfold splitAt
    split
    · exact List.cons_ne_nil _ _
    · split <;> exact List.cons_ne_nil _ _

theorem splitAt_append (sep : CodePoint) (a b : Text) :
    splitAt sep (a ++ sep :: b) = splitAt sep a ++ splitAt sep b := by
  induction a with
  | nil => simp [splitAt]
  | cons c r ih =>
    obtain ⟨p, ps, hp⟩ := List.exists_cons_of_ne_nil (splitAt_ne_nil sep r)
    by_cases hc : c = sep
    · simp [splitAt, hc, ih]
    · simp [splitAt, hc, ih, hp]

theorem splitAt_of_notMem {sep : CodePoint} {t : Text} (h : sep ∉ t) : splitAt sep t = [t] := by
  induction t with
  | nil => rfl
  | cons c r ih =>
    have hc : c ≠ sep := fun hc => h (hc ▸ List.mem_cons_self)
    simp [splitAt, hc, ih (mt (List.mem_cons_of_mem c) h)]

theorem splitAt_append_of_notMem {sep : CodePoint} {a b first : Text} {rest : List Text}
    (ha : sep ∉ a) (hb : splitAt sep b = first :: rest) :
    splitAt sep (a ++ b) = (a ++ first) :: rest := by
  induction a with
  | nil => exact hb
  | cons c r ih =>
    obtain ⟨hc, hr⟩ := not_or.1 (mt List.mem_cons.2 ha)
    simp [splitAt, Ne.symm hc, ih hr]

theorem splitAt_join {sep : CodePoint} {ps : List Text} (hn : ps ≠ []) (h : ∀ p ∈ ps, sep ∉ p) :
    splitAt sep (join [sep] ps) = ps := by
  induction ps with
  | nil => exact absurd rfl hn
  | cons p rest ih =>
    have hp : splitAt sep p = [p] := splitAt_of_notMem (h p List.mem_cons_self)
    by_cases hr : rest = []
    · rw [hr, join_singleton, hp]
    · rw [join_cons _ _ hr, List.append_assoc, List.singleton_append, splitAt_append, hp,
        ih hr fun q hq => h q (List.mem_cons_of_mem p hq)]
      rfl

theorem sep_notMem_of_mem_splitAt {sep : CodePoint} {t p : Text} (h : p ∈ splitAt sep t) :
    sep ∉ p := by
  induction t generalizing p with
  | nil => simp_all [splitAt]
  | cons c r ih =>
    obtain ⟨q, qs, hq⟩ := List.exists_cons_of_ne_nil (splitAt_ne_nil sep r)
    by_cases hc : c = sep
    · rw [splitAt, if_pos hc] at h
      rcases List.mem_cons.1 h with rfl | h
      · exact List.not_mem_nil
      · exact ih h
    · rw [splitAt, if_neg hc, hq] at h
      rcases List.mem_cons.1 h with rfl | h
      · have hsep : sep ∉ q := ih (hq ▸ List.mem_cons_self)
        simp [Ne.symm hc, hsep]
      · exact ih (hq ▸ List.mem_cons_of_mem q h)

theorem subset_of_mem_splitAt {sep : CodePoint} {t p : Text} (h : p ∈ splitAt sep t) : p ⊆ t := by
  induction t generalizing p with
  | nil => simp_all [splitAt]
  | cons c r ih =>
    obtain ⟨q, qs, hq⟩ := List.exists_cons_of_ne_nil (splitAt_ne_nil sep r)
    by_cases hc : c = sep
    · rw [splitAt, if_pos hc] at h
      rcases List.mem_cons.1 h with rfl | h
      · exact List.nil_subset _
      · exact List.subset_cons_of_subset c (ih h)
    · rw [splitAt, if_neg hc, hq] at h
      rcases List.mem_cons.1 h with rfl | h
      · exact List.cons_subset_cons c (ih (hq ▸ List.mem_cons_self))
      · exact List.subset_cons_of_subset c (ih (hq ▸ List.mem_cons_of_mem q h))

end DocPress.Text
