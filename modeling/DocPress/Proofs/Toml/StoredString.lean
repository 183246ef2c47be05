import DocPress.Proofs.Text.Spelling
import DocPress.Toml.StringItem
import DocPress.Toml.Writer

namespace DocPress.Toml

open Text

variable {c : CodePoint} {t p : Text}

/-- How a code point stands in a string of a settings file. -/
abbrev spell (c : CodePoint) : Text := escapePoint doubleQuote c

theorem substitute_singleQuote (t : Text) :
    substitute (text "\\\x27") (text "\x27") (t.flatMap (escapePoint singleQuote)) =
      t.flatMap fun c => if c = singleQuote then [c] else escapePoint singleQuote c := by
  induction t with
  | nil => rfl
  | cons c r ih =>
    rw [List.flatMap_cons, List.flatMap_cons]
    by_cases hc : c = singleQuote
    · subst hc
      have hunit : escapePoint singleQuote singleQuote = text "\\\x27" := by decide
      rw [hunit, if_pos rfl, ← ih]
      rfl
    · rw [if_neg hc, ← ih]
      refine Avoids.substitute _ (avoids_escapePoint ?_ fun _ => ?_)
      · intro h
        have hmem := List.mem_of_getElem? h
        rcases eq_or_of_mem_escapePoint hmem with h | h | h
        · exact hc h.symm
        · exact absurd h (by decide)
        · exact absurd h (by decide)
      · exact fun h => (head_flatMap_escapePoint (by decide) h).2 rfl

theorem substitute_single (d : CodePoint) (value t : Text) :
    substitute [d] value t = t.flatMap fun c => if c = d then value else [c] := by
  induction t with
  | nil => rfl
  | cons c r ih =>
    rw [List.flatMap_cons, ← ih]
    by_cases hc : c = d
    · simp [substitute, substituteFrom, hc]
    · simp [substitute, substituteFrom, hc, Ne.symm hc]

theorem doubleQuote_notMem_escapePoint {quote : CodePoint} (hc : c ≠ doubleQuote) :
    doubleQuote ∉ escapePoint quote c := by
  intro h
  rcases eq_or_of_mem_escapePoint h with h | h | h
  · exact hc h.symm
  · exact absurd h (by decide)
  · exact absurd h (by decide)

/-- With the quotes around it changed, a code point is spelled as between double ones. -/
theorem requote (c : CodePoint) :
    (if c = singleQuote then [c] else escapePoint singleQuote c).flatMap
      (fun d => if d = doubleQuote then text "\\\x22" else [d]) = spell c := by
  by_cases hs : c = singleQuote
  · subst hs
    decide +kernel
  by_cases hd : c = doubleQuote
  · subst hd
    decide +kernel
  have hsame : escapePoint singleQuote c = spell c := by
    rw [spell, escapePoint, escapePoint, if_neg hs, if_neg hd]
  have hnone : ∀ d ∈ spell c, (if d = doubleQuote then text "\\\x22" else [d]) = [d] := by
    intro d hmem
    rw [if_neg]
    rintro rfl
    exact doubleQuote_notMem_escapePoint hd hmem
  rw [if_neg hs, hsame, List.flatMap_def, List.map_congr_left hnone, ← List.flatMap_def,
    List.flatMap_singleton']

/-- Whichever quotes are put around a string first, it is spelled as between double ones. -/
theorem escapedBody_eq (t : Text) : escapedBody t = t.flatMap spell := by
  have hbody : (t.quoted.drop 1).dropLast = t.flatMap (escapePoint (quoteFor t)) := by
    rw [quoted, List.drop_one, List.tail_cons, List.dropLast_concat]
  unfold escapedBody
  rw [hbody]
  by_cases hq : quoteFor t = singleQuote
  · rw [if_pos hq, hq, substitute_singleQuote]
    refine (substitute_single doubleQuote _ _).trans ?_
    rw [List.flatMap_assoc]
    exact congrArg (t.flatMap ·) (funext requote)
  · have hd : quoteFor t = doubleQuote := by
      unfold quoteFor at hq ⊢
      split
      · rfl
      · rename_i h
        exact absurd (if_neg h) hq
    rw [if_neg hq, hd]

theorem newline_notMem_spell (c : CodePoint) : ('\n' : CodePoint) ∉ spell c := by
  intro h
  obtain ⟨u, hu, hspelling⟩ := exists_spelling doubleQuote c
  rw [spell, hu] at h
  cases hspelling with
  | plain hquote hslash hshown =>
    obtain rfl : (('\n' : Char) : CodePoint) = c := List.mem_singleton.1 h
    revert hshown
    decide +kernel
  | pair letter hl =>
    have hall : ∀ p ∈ (doubleQuote, doubleQuote) :: shortEscapes,
        ('\n' : CodePoint) ∉ [backslash, p.2] := by
      decide
    exact hall _ hl h
  | numeric =>
    rw [numericEscape_eq] at h
    rcases List.mem_cons.1 h with h | h
    · exact absurd h (by decide)
    · exact notMem_numeric (by decide) c h

/-- A code point that is written with four or eight digits, as it is not shown. -/
def IsWide (low high : Nat) (c : CodePoint) : Bool :=
  !c.isPrintable && (low ≤ c.val && c.val < high)

/-- After the first point that is spelled with `letter`, no backslash stands before that letter. -/
def IsQuietBehind (isSuch : CodePoint → Bool) (marker t : Text) : Prop :=
  ¬marker <:+: t.dropWhile (!isSuch ·)

/-- The strings that the writer and the reader of settings files keep. -/
structure IsKept (t : Text) : Prop where
  points : ∀ c ∈ t, c.isPrintable = true ∨ c ∈ text "\t\n\r" ∨
    0x100 ≤ c.val ∧ c.isSurrogate = false
  noMarker : ¬text "\\x" <:+: t
  noQuotes : t ≠ text "\x22" ∧ ¬text "\x22\x22" <+: t
  fourDigits : IsQuietBehind (IsWide 0x100 0x10000) (text "\\u") t
  eightDigits : IsQuietBehind (IsWide 0x10000 0x110000) (text "\\U") t

theorem second_spell_ne (hc : c.isPrintable = true ∨ c ∈ text "\t\n\r" ∨
    0x100 ≤ c.val ∧ c.isSurrogate = false) : (spell c)[1]? ≠ some ('x' : CodePoint) := by
  intro h
  rcases hc with hc | hc | hc
  · rcases of_second_escapePoint h with h | h | ⟨h, -⟩
    · exact absurd h (by decide)
    · exact absurd h (by decide)
    · rw [hc] at h
      cases h
  · have hall : ∀ d ∈ text "\t\n\r", (spell d)[1]? ≠ some ('x' : CodePoint) := by decide
    exact hall c hc h
  · rcases of_second_escapePoint h with h | h | ⟨-, h⟩
    · exact absurd h (by decide)
    · exact absurd h (by decide)
    · have hbig : ¬c.val < 0x100 := Nat.not_lt.2 hc.1
      rw [numericLetter, if_neg hbig] at h
      revert h
      split <;> decide

theorem noMarker_flatMap_spell {t : Text}
    (hpoints : ∀ c ∈ t, (spell c)[1]? ≠ some ('x' : CodePoint))
    (hmarker : ¬text "\\x" <:+: t) : ¬text "\\x" <:+: t.flatMap spell := by
  induction t with
  | nil => exact hmarker
  | cons c r ih =>
    obtain ⟨hc, hr⟩ := List.forall_mem_cons.1 hpoints
    have havoids : Avoids (text "\\x") (spell c) (r.flatMap spell) := by
      refine avoids_escapePoint hc fun hslash hhead => hmarker ?_
      obtain ⟨rest, rfl⟩ := List.head?_eq_some_iff.1 (head_flatMap_escapePoint (by decide) hhead).1
      exact ⟨[], rest, by rw [hslash]; rfl⟩
    rw [List.flatMap_cons, havoids.infix_iff]
    exact ih hr fun h => hmarker (h.trans (List.suffix_cons c r).isInfix)

/-- A string as it stands in a settings file, if it is kept. -/
def spelled (t : Text) : Text := text "\x22" ++ t.flatMap spell ++ text "\x22"

theorem writeString_of_isKept (h : IsKept t) : writeString t = .ok (spelled t) := by
  have hnone : ¬text "\\x" <:+: escapedBody t := by
    rw [escapedBody_eq]
    exact noMarker_flatMap_spell (fun c hc => second_spell_ne (h.points c hc)) h.noMarker
  unfold writeString spelled
  rw [pieces_of_breakOn_eq_none (breakOn_eq_none_of_absent hnone), escapedBody_eq]
  cases t.flatMap spell <;> rfl

end DocPress.Toml
