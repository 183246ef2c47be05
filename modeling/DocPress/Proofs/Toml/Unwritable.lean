import DocPress.Proofs.Toml.StoredString
import Mathlib.Data.List.Infix

namespace DocPress.Toml

open Text

variable {c : CodePoint} {t u : Text} {pieces : List Text}

/-- Neither printable nor a tab or a line end, and so small that two digits are enough. -/
def IsTwoDigit (c : CodePoint) : Bool := !c.isPrintable && c.val < 0x100 && c ∉ text "\t\n\r"

theorem second_spell_iff : (spell c)[1]? = some ('x' : CodePoint) ↔ IsTwoDigit c = true := by
  simp only [IsTwoDigit, Bool.and_eq_true, Bool.not_eq_true', decide_eq_true_eq]
  constructor
  · intro h
    have hshort : ∀ d ∈ text "\t\n\r", (spell d)[1]? ≠ some ('x' : CodePoint) := by decide
    rcases of_second_escapePoint h with hx | hx | ⟨hp, hx⟩
    · exact absurd hx (by decide)
    · exact absurd hx (by decide)
    · refine ⟨⟨hp, ?_⟩, fun hc => hshort c hc h⟩
      by_contra hbig
      rw [numericLetter, if_neg hbig] at hx
      revert hx
      split <;> decide
  · rintro ⟨⟨hp, hsmall⟩, hc⟩
    obtain ⟨u, hu, hspelling⟩ := exists_spelling doubleQuote c
    rw [spell, hu]
    cases hspelling with
    | plain hquote hslash hshown =>
      rw [hp] at hshown
      cases hshown
    | pair letter hl =>
      have hall : ∀ p ∈ (doubleQuote, doubleQuote) :: shortEscapes,
          p.1.isPrintable = true ∨ p.1 ∈ text "\t\n\r" := by decide +kernel
      rcases hall _ hl with h | h
      · rw [hp] at h
        cases h
      · exact absurd h hc
    | numeric =>
      rw [numericEscape_eq, numericLetter, if_pos hsmall]
      rfl

theorem spell_of_isTwoDigit (h : IsTwoDigit c = true) : spell c = text "\\x" ++ hex 2 c.val := by
  obtain ⟨⟨hp, hsmall⟩, -⟩ : (c.isPrintable = false ∧ c.val < 0x100) ∧ c ∉ text "\t\n\r" := by
    simpa only [IsTwoDigit, Bool.and_eq_true, Bool.not_eq_true', decide_eq_true_eq] using h
  have hsecond := second_spell_iff.2 h
  obtain ⟨u, hu, hspelling⟩ := exists_spelling doubleQuote c
  rw [spell, hu] at hsecond ⊢
  cases hspelling with
  | plain => cases hsecond
  | pair letter hl =>
    have hall : ∀ p ∈ (doubleQuote, doubleQuote) :: shortEscapes, p.2 ≠ 'x' := by decide
    exact absurd (Option.some.inj hsecond) (hall _ hl)
  | numeric => rw [numericEscape, if_pos hsmall]

/-- The string begins with a code point that is escaped with two digits; there is no other one in it,
nor what looks like one. -/
def IsUnwritable (t : Text) : Prop :=
  ∃ c rest, t = c :: rest ∧ IsTwoDigit c = true ∧ (∀ d ∈ rest, IsTwoDigit d = false) ∧
    ¬text "\\x" <:+: rest

theorem not_isUnwritable_nil : ¬IsUnwritable [] := by
  rintro ⟨c, rest, h, -⟩
  cases h

theorem isUnwritable_cons : IsUnwritable (c :: t) ↔
    IsTwoDigit c = true ∧ (∀ d ∈ t, IsTwoDigit d = false) ∧ ¬text "\\x" <:+: t := by
  constructor
  · rintro ⟨c', rest, h, hc⟩
    cases h
    exact hc
  · exact fun h => ⟨c, t, rfl, h⟩

instance : (t : Text) → Decidable (IsUnwritable t)
  | [] => isFalse not_isUnwritable_nil
  | _ :: _ => decidable_of_iff _ isUnwritable_cons.symm

theorem marker_infix_iff : text "\\x" <:+: t.flatMap spell ↔
    (∃ d ∈ t, IsTwoDigit d = true) ∨ text "\\x" <:+: t := by
  constructor
  · intro h
    by_contra hnot
    rw [not_or, not_exists] at hnot
    refine noMarker_flatMap_spell (fun d hd hx => ?_) hnot.2 h
    exact hnot.1 d ⟨hd, second_spell_iff.1 hx⟩
  · rintro (⟨d, hd, htwo⟩ | ⟨a, b, rfl⟩)
    · obtain ⟨a, b, rfl⟩ := List.append_of_mem hd
      rw [List.flatMap_append, List.flatMap_cons, spell_of_isTwoDigit htwo]
      exact ⟨a.flatMap spell, hex 2 d.val ++ b.flatMap spell, by simp⟩
    · have hmarker : (text "\\x").flatMap spell = text "\\" ++ text "\\x" := by decide +kernel
      rw [List.flatMap_append, List.flatMap_append, hmarker]
      exact ⟨a.flatMap spell ++ text "\\", b.flatMap spell, by simp⟩

theorem gluing_ne_nil (t : Text) : gluing t ≠ [] := by
  have hend : ∀ q : Prop, [Decidable q] → (if q then text "x" else text "u00") ≠ [] := by
    intro q _
    split <;> decide
  exact List.append_ne_nil_of_right_ne_nil _ (hend _)

theorem exists_joinEscapes (h : t ≠ []) : ∃ joined, joinEscapes t pieces = .ok joined := by
  fun_induction joinEscapes t pieces with
  | case1 t => exact ⟨t, rfl⟩
  | case2 => exact absurd rfl h
  | case3 => exact absurd rfl h
  | case4 => exact absurd rfl h
  | case5 c t next rest ih => exact ih (List.append_ne_nil_of_left_ne_nil (gluing_ne_nil _) _)

theorem writeString_of_pieces {first : Text} {rest : List Text}
    (h : Text.pieces (text "\\x") (escapedBody t) = first :: rest) :
    writeString t = joinEscapes first rest >>= fun joined =>
      pure (text "\x22" ++ joined ++ text "\x22") := by
  unfold writeString
  rw [h]
  rfl

theorem exists_writeString {first : Text} {rest : List Text}
    (h : Text.pieces (text "\\x") (escapedBody t) = first :: rest)
    (hjoin : ∃ joined, joinEscapes first rest = .ok joined) :
    ∃ written, writeString t = .ok written := by
  obtain ⟨joined, hjoined⟩ := hjoin
  rw [writeString_of_pieces h, hjoined]
  exact ⟨_, rfl⟩

theorem exists_pieces_of_not_isTwoDigit (hc : IsTwoDigit c = false) (t : Text) :
    ∃ first rest, Text.pieces (text "\\x") ((c :: t).flatMap spell) = first :: rest ∧ first ≠ [] := by
  have hsecond : (spell c)[1]? ≠ some ('x' : CodePoint) := by
    rw [Ne, second_spell_iff, hc]
    decide
  rw [List.flatMap_cons]
  obtain ⟨d, u, hspell, hnot⟩ : ∃ d u, spell c = d :: u ∧
      ¬text "\\x" <+: d :: (u ++ t.flatMap spell) := by
    obtain ⟨v, hv, hspelling⟩ := exists_spelling doubleQuote c
    rw [spell, hv] at hsecond ⊢
    cases hspelling with
    | plain hquote hslash =>
      exact ⟨c, [], rfl, fun h => hslash (List.cons_prefix_cons.1 h).1.symm⟩
    | pair letter => exact ⟨_, _, rfl, not_begins_pair hsecond⟩
    | numeric =>
      rw [numericEscape_eq] at hsecond ⊢
      exact ⟨_, _, rfl, not_begins_pair hsecond⟩
  obtain ⟨first, rest, hpieces⟩ :=
    List.exists_cons_of_ne_nil (pieces_ne_nil (text "\\x") (u ++ t.flatMap spell))
  rw [hspell]
  exact ⟨_, _, pieces_cons (by decide) hnot hpieces, List.cons_ne_nil _ _⟩

theorem pieces_of_isTwoDigit (hc : IsTwoDigit c = true) {first : Text} {rest : List Text}
    (h : Text.pieces (text "\\x") (t.flatMap spell) = first :: rest) :
    Text.pieces (text "\\x") (escapedBody (c :: t)) = [] :: (hex 2 c.val ++ first) :: rest := by
  have hdigits : ('\\' : CodePoint) ∉ hex 2 c.val := fun hm =>
    forall_mem_hex (p := (· ≠ '\\')) (by decide) _ _ _ hm rfl
  rw [escapedBody_eq, List.flatMap_cons, spell_of_isTwoDigit hc, List.append_assoc,
    pieces_append (by decide)]
  exact congrArg _ ((avoids_of_notMem hdigits).pieces (by decide) h)

theorem exists_writeString_of_marker (hc : IsTwoDigit c = true)
    (h : text "\\x" <:+: t.flatMap spell) : ∃ written, writeString (c :: t) = .ok written := by
  cases hbreak : breakOn (text "\\x") (t.flatMap spell) with
  | none => exact absurd h (not_infix_of_breakOn_eq_none (by decide) hbreak)
  | some parts =>
    obtain ⟨before, after⟩ := parts
    obtain ⟨third, rest, hafter⟩ := List.exists_cons_of_ne_nil (pieces_ne_nil (text "\\x") after)
    have hpieces := pieces_of_breakOn (by decide) hbreak
    rw [hafter] at hpieces
    have hne : hex 2 c.val ++ before ≠ [] :=
      List.append_ne_nil_of_left_ne_nil (List.cons_ne_nil _ _) _
    refine exists_writeString (pieces_of_isTwoDigit hc hpieces) ?_
    rw [joinEscapes, if_neg hne]
    exact exists_joinEscapes (List.append_ne_nil_of_left_ne_nil (gluing_ne_nil _) _)

/-- A string cannot be written if it begins with the only escape of two digits in it, and can be
written otherwise. -/
theorem writeString_cases (t : Text) :
    (IsUnwritable t ∧ writeString t = .error .noMember) ∨
      (¬IsUnwritable t ∧ ∃ written, writeString t = .ok written) := by
  cases t with
  | nil =>
    have hone : Text.pieces (text "\\x") (escapedBody []) = [[]] := rfl
    exact .inr ⟨not_isUnwritable_nil, exists_writeString hone ⟨[], rfl⟩⟩
  | cons c t =>
    by_cases hc : IsTwoDigit c = true
    · by_cases hmarker : text "\\x" <:+: t.flatMap spell
      · refine .inr ⟨fun h => ?_, exists_writeString_of_marker hc hmarker⟩
        obtain ⟨-, hpoints, hnone⟩ := isUnwritable_cons.1 h
        rcases marker_infix_iff.1 hmarker with ⟨d, hd, htwo⟩ | hinfix
        · rw [hpoints d hd] at htwo
          cases htwo
        · exact hnone hinfix
      · have hone := pieces_of_breakOn_eq_none (breakOn_eq_none_of_absent hmarker)
        rw [marker_infix_iff, not_or, not_exists] at hmarker
        refine .inl ⟨isUnwritable_cons.2 ⟨hc, fun d hd => ?_, hmarker.2⟩, ?_⟩
        · exact Bool.eq_false_iff.2 fun htwo => hmarker.1 d ⟨hd, htwo⟩
        · rw [writeString_of_pieces (pieces_of_isTwoDigit hc hone)]
          rfl
    · rw [Bool.not_eq_true] at hc
      obtain ⟨first, rest, hpieces, hfirst⟩ := exists_pieces_of_not_isTwoDigit hc t
      rw [← escapedBody_eq] at hpieces
      refine .inr ⟨fun h => ?_, exists_writeString hpieces (exists_joinEscapes hfirst)⟩
      rw [(isUnwritable_cons.1 h).1] at hc
      cases hc

example : IsUnwritable (text "\x7f") ∧ ¬IsUnwritable (text "a\x7f") := by decide +kernel

end DocPress.Toml
