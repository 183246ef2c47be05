import DocPress.Text.Blank

namespace DocPress.Text

variable {marker : Text}

theorem after?_append (marker rest : Text) : after? marker (marker ++ rest) = some rest :=
  after?_eq_some.2 rfl

theorem after?_eq_none_iff {t : Text} : after? marker t = none ↔ ¬marker <+: t := by
  constructor
  · rintro h ⟨rest, rfl⟩
    rw [after?_append] at h
    cases h
  · intro h
    cases ha : after? marker t with
    | none => rfl
    | some rest => exact absurd ⟨rest, (after?_eq_some.1 ha).symm⟩ h

theorem after?_isSome_iff {t : Text} : (after? marker t).isSome = true ↔ marker <+: t := by
  rw [Option.isSome_iff_exists]
  exact exists_congr fun rest => after?_eq_some.trans eq_comm

theorem breakOn_nil (h : marker ≠ []) : breakOn marker [] = none := by
  rw [breakOn, if_neg h]

theorem breakOn_append (h : marker ≠ []) (rest : Text) :
    breakOn marker (marker ++ rest) = some ([], rest) := by
  obtain ⟨c, r, rfl⟩ := List.exists_cons_of_ne_nil h
  have ha := after?_append (c :: r) rest
  rw [List.cons_append] at ha ⊢
  simp only [breakOn, ha]

theorem breakOn_cons {c : CodePoint} {r : Text} (h : ¬marker <+: c :: r) :
    breakOn marker (c :: r) =
      (breakOn marker r).map fun (before, after) => (c :: before, after) := by
  simp only [breakOn, after?_eq_none_iff.2 h]

/-- A marker without `c` that stands before `c` ends there. -/
theorem prefix_of_prefix_append_cons {c : CodePoint} {a x : Text} (hc : c ∉ marker)
    (h : marker <+: a ++ c :: x) : marker <+: a := by
  obtain ⟨rest, h⟩ := h
  rcases List.append_eq_append_iff.1 h with ⟨b, rfl, -⟩ | ⟨b, rfl, hb⟩
  · exact List.prefix_append _ _
  · cases b with
    | nil => simp
    | cons d b =>
      have hd : c = d := (List.cons.inj hb).1
      exact absurd (by simp [hd]) hc

theorem not_infix_append_cons {c : CodePoint} {a b : Text} (hm : marker ≠ []) (hc : c ∉ marker)
    (ha : ¬marker <:+: a) (hb : ¬marker <:+: b) : ¬marker <:+: a ++ c :: b := by
  induction a with
  | nil =>
    rw [List.nil_append, List.infix_cons_iff]
    rintro (hp | hi)
    · obtain ⟨d, m, rfl⟩ := List.exists_cons_of_ne_nil hm
      exact hc ((List.cons_prefix_cons.1 hp).1 ▸ List.mem_cons_self)
    · exact hb hi
  | cons d a ih =>
    rw [List.cons_append, List.infix_cons_iff]
    rintro (hp | hi)
    · exact ha (prefix_of_prefix_append_cons (a := d :: a) hc hp).isInfix
    · exact ih (fun hi => ha (hi.trans (List.suffix_cons d a).isInfix)) hi

theorem length_lt_of_breakOn (hm : marker ≠ []) {t before after : Text}
    (h : breakOn marker t = some (before, after)) : after.length < t.length := by
  have hlen := congrArg List.length (breakOn_eq_some h)
  have hpos := List.length_pos_iff.2 hm
  simp only [List.length_append] at hlen
  omega

theorem piecesFuel_eq (hm : marker ≠ []) {n m : Nat} {t : Text} (hn : t.length ≤ n)
    (hk : t.length ≤ m) : piecesFuel marker n t = piecesFuel marker m t := by
  induction n generalizing m t with
  | zero =>
    obtain rfl := List.length_eq_zero_iff.1 (Nat.le_zero.1 hn)
    cases m <;> simp [piecesFuel, breakOn_nil hm]
  | succ n ih =>
    cases m with
    | zero =>
      obtain rfl := List.length_eq_zero_iff.1 (Nat.le_zero.1 hk)
      simp [piecesFuel, breakOn_nil hm]
    | succ m =>
      rw [piecesFuel, piecesFuel]
      cases hb : breakOn marker t with
      | none => rfl
      | some p =>
        have hlt := length_lt_of_breakOn hm hb
        simp only [ih (t := p.2) (m := m) (by omega) (by omega)]

theorem pieces_of_breakOn_eq_none {t : Text} (h : breakOn marker t = none) :
    pieces marker t = [t] := by
  unfold pieces
  cases t.length <;> simp [piecesFuel, h]

theorem pieces_of_breakOn (hm : marker ≠ []) {t before after : Text}
    (h : breakOn marker t = some (before, after)) :
    pieces marker t = before :: pieces marker after := by
  have hlt := length_lt_of_breakOn hm h
  obtain ⟨n, hn⟩ : ∃ n, t.length = n + 1 := ⟨t.length - 1, by omega⟩
  rw [pieces, hn, piecesFuel, h]
  exact congrArg _ (piecesFuel_eq hm (by omega) (Nat.le_refl _))

theorem pieces_ne_nil (marker t : Text) : pieces marker t ≠ [] := by
  unfold pieces
  cases t.length with
  | zero => exact List.cons_ne_nil _ _
  | succ n =>
    rw [piecesFuel]
    split <;> exact List.cons_ne_nil _ _

theorem pieces_append (hm : marker ≠ []) (rest : Text) :
    pieces marker (marker ++ rest) = [] :: pieces marker rest :=
  pieces_of_breakOn hm (breakOn_append hm rest)

theorem pieces_cons (hm : marker ≠ []) {c : CodePoint} {r first : Text} {rest : List Text}
    (h : ¬marker <+: c :: r) (hr : pieces marker r = first :: rest) :
    pieces marker (c :: r) = (c :: first) :: rest := by
  have hb := breakOn_cons h
  cases hbr : breakOn marker r with
  | none =>
    rw [hbr, Option.map_none] at hb
    rw [pieces_of_breakOn_eq_none hbr] at hr
    rw [pieces_of_breakOn_eq_none hb]
    cases hr
    rfl
  | some p =>
    obtain ⟨before, after⟩ := p
    rw [hbr, Option.map_some] at hb
    rw [pieces_of_breakOn hm hbr] at hr
    rw [pieces_of_breakOn hm hb]
    cases hr
    rfl

theorem breakOn_eq_none_of_absent {t : Text} (h : ¬marker <:+: t) :
    breakOn marker t = none := by
  cases hb : breakOn marker t with
  | none => rfl
  | some p => exact absurd ⟨p.1, p.2, (breakOn_eq_some hb).symm⟩ h

theorem not_infix_of_breakOn_eq_none (hm : marker ≠ []) {t : Text} (h : breakOn marker t = none) :
    ¬marker <:+: t := by
  induction t with
  | nil => exact fun hi => hm (List.infix_nil.1 hi)
  | cons c r ih =>
    rw [breakOn] at h
    split at h
    · cases h
    · rename_i hafter
      rw [List.infix_cons_iff, not_or]
      exact ⟨after?_eq_none_iff.1 hafter, ih (Option.map_eq_none_iff.1 h)⟩

theorem trim_eq_self {t : Text} (hhead : ∀ c ∈ t.head?, c.isBlank = false)
    (hlast : ∀ c ∈ t.getLast?, c.isBlank = false) : t.trim = t := by
  have hdrop : ∀ u : Text, (∀ c ∈ u.head?, c.isBlank = false) →
      u.dropWhile CodePoint.isBlank = u := by
    intro u hu
    cases u with
    | nil => rfl
    | cons c r => simp [hu c rfl]
  have hstart : t.trimStart = t := hdrop t hhead
  have hend : t.reverse.dropWhile CodePoint.isBlank = t.reverse :=
    hdrop t.reverse (by rwa [List.head?_reverse])
  rw [trim, hstart, trimEnd, hend, List.reverse_reverse]

theorem trim_between {u t v : Text} (hu : ∀ c ∈ u, c.isBlank = true)
    (hv : ∀ c ∈ v, c.isBlank = true)
    (hne : t ≠ []) (hhead : ∀ c ∈ t.head?, c.isBlank = false)
    (hlast : ∀ c ∈ t.getLast?, c.isBlank = false) : trim (u ++ t ++ v) = t := by
  have hstart : trimStart (u ++ t ++ v) = t ++ v := by
    obtain ⟨c, r, rfl⟩ := List.exists_cons_of_ne_nil hne
    rw [trimStart, List.append_assoc, List.dropWhile_append_of_pos hu, List.cons_append,
      List.dropWhile_cons_of_neg (by simp [hhead c rfl])]
  have hend : t.reverse.dropWhile CodePoint.isBlank = t.reverse := by
    obtain ⟨c, r, hr⟩ := List.exists_cons_of_ne_nil (mt List.reverse_eq_nil_iff.1 hne)
    have hc : c.isBlank = false := hlast c (by rw [← List.head?_reverse, hr]; rfl)
    rw [hr, List.dropWhile_cons_of_neg (by simp [hc])]
  rw [trim, hstart, trimEnd, List.reverse_append,
    List.dropWhile_append_of_pos fun c hc => hv c (List.mem_reverse.1 hc), hend,
    List.reverse_reverse]

theorem exists_trim_cons {c : CodePoint} (h : c.isBlank = false) (t : Text) :
    ∃ u, trim (c :: t) = c :: u := by
  have hstart : trimStart (c :: t) = c :: t := by
    rw [trimStart, List.dropWhile_cons_of_neg (by simp [h])]
  rw [trim, hstart, trimEnd, List.reverse_cons, List.dropWhile_append]
  split
  · exact ⟨[], by rw [List.dropWhile_cons_of_neg (by simp [h])]; rfl⟩
  · exact ⟨(t.reverse.dropWhile CodePoint.isBlank).reverse, by rw [List.reverse_append]; rfl⟩

theorem breakOn_append_cons {d : CodePoint} {a : Text} (h : d ∉ a) (b : Text) :
    breakOn [d] (a ++ d :: b) = some (a, b) := by
  induction a with
  | nil => exact breakOn_append (List.cons_ne_nil d []) b
  | cons c r ih =>
    obtain ⟨hc, hr⟩ := not_or.1 (mt List.mem_cons.2 h)
    have hnot : ¬[d] <+: c :: (r ++ d :: b) := fun hp => hc (List.cons_prefix_cons.1 hp).1
    rw [List.cons_append, breakOn_cons hnot, ih hr]
    rfl

theorem firstWord?_append {w rest : Text} (hne : w ≠ []) (hw : ∀ c ∈ w, c.isBlank = false) :
    firstWord? (w ++ rest) = some (w ++ rest.takeWhile (!·.isBlank)) := by
  have hword : (w ++ rest).takeWhile (!·.isBlank) = w ++ rest.takeWhile (!·.isBlank) :=
    List.takeWhile_append_of_pos fun c hc => by simp [hw c hc]
  obtain ⟨c, w, rfl⟩ := List.exists_cons_of_ne_nil hne
  have hstart : trimStart (c :: w ++ rest) = c :: w ++ rest :=
    List.dropWhile_cons_of_neg (by simp [hw c List.mem_cons_self])
  rw [firstWord?, hstart]
  exact congrArg some hword

end DocPress.Text
