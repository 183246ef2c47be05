import DocPress.Proofs.Text.Pieces
import DocPress.Proofs.Toml.NumericEscapes

namespace DocPress.Toml

open Text

variable {c : CodePoint} {t u s : Text}

section Closing

/-- Between quotes the pieces end in an odd number of backslashes, all but the last one. -/
theorem splitAt_flatMap_spell (t : Text) :
    ∃ init last, splitAt doubleQuote (t.flatMap spell) = init ++ [last] ∧
      (∀ piece ∈ init, endsInOddBackslashes piece = true) ∧ endsInOddBackslashes last = false := by
  induction t with
  | nil => exact ⟨[], [], rfl, List.forall_mem_nil _, rfl⟩
  | cons c r ih =>
    obtain ⟨init, last, hsplit, hinit, hlast⟩ := ih
    rw [List.flatMap_cons]
    by_cases hc : c = doubleQuote
    · subst hc
      have hunit : spell doubleQuote = [backslash] ++ [doubleQuote] := by decide
      refine ⟨[backslash] :: init, last, ?_, List.forall_mem_cons.2 ⟨by decide, hinit⟩, hlast⟩
      rw [hunit]
      refine (splitAt_append doubleQuote [backslash] (r.flatMap spell)).trans ?_
      rw [hsplit]
      rfl
    · have hnone : doubleQuote ∉ spell c := doubleQuote_notMem_escapePoint hc
      have hodd := fun s => endsInOddBackslashes_append (endsInOddBackslashes_spell c) s
      cases init with
      | nil =>
        refine ⟨[], spell c ++ last, ?_, hinit, by rw [hodd, hlast]⟩
        exact splitAt_append_of_notMem hnone hsplit
      | cons first init =>
        rw [List.forall_mem_cons] at hinit
        refine ⟨(spell c ++ first) :: init, last, splitAt_append_of_notMem hnone hsplit, ?_, hlast⟩
        exact List.forall_mem_cons.2 ⟨by rw [hodd, hinit.1], hinit.2⟩

theorem closeStep_of_odd {piece : Text} (h : endsInOddBackslashes piece = true) (s : Closing) :
    closeStep false s piece = .ok s := by
  have hne : piece ≠ [] := by
    rintro rfl
    cases h
  rw [closeStep, if_neg hne, if_pos h]

theorem foldlM_closeStep {init : List Text} {last : Text}
    (hinit : ∀ piece ∈ init, endsInOddBackslashes piece = true)
    (hlast : endsInOddBackslashes last = false) :
    (init ++ [last, []]).foldlM (closeStep false) ⟨false, 0⟩ = .ok ⟨true, 0⟩ := by
  induction init with
  | nil =>
    have hstep : closeStep false ⟨false, 0⟩ last = .ok ⟨true, 0⟩ := by
      unfold closeStep
      split
      · rfl
      · simp [hlast]
    rw [List.nil_append, List.foldlM_cons, hstep]
    rfl
  | cons first init ih =>
    obtain ⟨hfirst, hinit⟩ := List.forall_mem_cons.1 hinit
    rw [List.cons_append, List.foldlM_cons, closeStep_of_odd hfirst]
    exact ih hinit

theorem checkClosing_spelled (t : Text) :
    checkClosing doubleQuote (text "\x22" ++ t.flatMap spell ++ text "\x22") = .ok () := by
  obtain ⟨init, last, hsplit, hinit, hlast⟩ := splitAt_flatMap_spell t
  have hpieces : splitAt doubleQuote ((text "\x22" ++ t.flatMap spell ++ text "\x22").drop 1) =
      init ++ [last, []] := by
    refine (splitAt_append doubleQuote (t.flatMap spell) []).trans ?_
    rw [hsplit, List.append_assoc]
    rfl
  unfold checkClosing
  rw [hpieces]
  split
  · rename_i pieces hp
    -- Two empty pieces come first only if there is nothing between the quotes.
    cases init with
    | nil =>
      cases hp
      rfl
    | cons first init =>
      obtain rfl : first = [] := (List.cons.inj hp).1
      cases hinit _ List.mem_cons_self
  · rw [foldlM_closeStep hinit hlast]
    rfl

end Closing

section Escapes

theorem splitAt_append_drop (h : backslash ∉ u) (s : Text) :
    (splitAt backslash (u ++ s)).drop 1 = (splitAt backslash s).drop 1 := by
  obtain ⟨first, rest, hs⟩ := List.exists_cons_of_ne_nil (splitAt_ne_nil backslash s)
  rw [splitAt_append_of_notMem h hs, hs]
  rfl

theorem splitAt_cons_self (s : Text) :
    splitAt backslash (backslash :: s) = [] :: splitAt backslash s :=
  splitAt_append backslash [] s

theorem checkEscapes_spell (hc : (spell c)[1]? ≠ some ('x' : CodePoint)) (s : Text) :
    checkEscapes false ((splitAt backslash (spell c ++ s)).drop 1) =
      checkEscapes false ((splitAt backslash s).drop 1) := by
  obtain ⟨first, rest, hs⟩ := List.exists_cons_of_ne_nil (splitAt_ne_nil backslash s)
  have hescape : ∀ (letter : CodePoint) (tail : Text), letter ≠ backslash → backslash ∉ tail →
      ((escapes.lookup letter).isSome = true ∨ letter = 'u' ∨ letter = 'U') →
      checkEscapes false ((splitAt backslash (backslash :: letter :: tail ++ s)).drop 1) =
        checkEscapes false ((splitAt backslash s).drop 1) := by
    intro letter tail hl ht hknown
    have hnone : backslash ∉ letter :: tail := by simp [Ne.symm hl, ht]
    rw [List.cons_append, splitAt_cons_self, splitAt_append_of_notMem hnone hs, hs]
    simp only [List.drop_one, List.tail_cons, List.cons_append, checkEscapes]
    rw [if_neg]
    rintro ⟨hnot, hu, hU, -⟩
    rcases hknown with h | h | h
    · rw [Option.isNone_iff_eq_none] at hnot
      rw [hnot] at h
      cases h
    · exact hu h
    · exact hU h
  obtain ⟨u, hu, hspelling⟩ := exists_spelling doubleQuote c
  rw [spell, hu] at hc ⊢
  cases hspelling with
  | plain hquote hslash =>
    rw [splitAt_append_drop fun h => hslash (List.mem_singleton.1 h).symm]
  | pair letter h =>
    by_cases hl : letter = backslash
    · subst hl
      -- The piece between the two backslashes is empty, so the one behind them counts for nothing.
      rw [List.cons_append, List.cons_append, List.nil_append]
      refine (congrArg (fun p => checkEscapes false (p.drop 1))
        ((splitAt_cons_self _).trans (congrArg _ (splitAt_cons_self s)))).trans ?_
      rw [hs]
      cases first with
      | nil => rfl
      | cons d r => simp [checkEscapes]
    · refine hescape letter [] hl List.not_mem_nil (.inl ?_)
      have hall : ∀ p ∈ (doubleQuote, doubleQuote) :: shortEscapes, p.2 ≠ backslash →
          (escapes.lookup p.2).isSome = true := by decide
      exact hall _ h hl
  | numeric =>
    rw [numericEscape_eq] at hc ⊢
    refine hescape _ _ ?_ (fun h => notMem_numeric (by decide) c (List.mem_cons_of_mem _ h))
      (.inr ?_)
    · exact fun h => notMem_numeric (d := backslash) (by decide) c (h ▸ List.mem_cons_self)
    · revert hc
      unfold numericLetter
      split
      · exact fun h => absurd rfl h
      · split
        · exact fun _ => .inl rfl
        · exact fun _ => .inr rfl

theorem checkEscapes_spelled (ht : ∀ c ∈ t, (spell c)[1]? ≠ some ('x' : CodePoint)) :
    checkEscapes false
      ((splitAt backslash (text "\x22" ++ t.flatMap spell ++ text "\x22")).drop 1) = .ok () := by
  rw [List.append_assoc, splitAt_append_drop (by decide)]
  induction t with
  | nil => rfl
  | cons c r ih =>
    obtain ⟨hc, hr⟩ := List.forall_mem_cons.1 ht
    rw [List.flatMap_cons, List.append_assoc, checkEscapes_spell hc]
    exact ih hr

end Escapes

section Item

def isNumbered (c : CodePoint) : Bool := IsWide 0x100 0x10000 c || IsWide 0x10000 0x110000 c

theorem isWide_iff {low high : Nat} :
    IsWide low high c = true ↔ c.isPrintable = false ∧ low ≤ c.val ∧ c.val < high := by
  simp [IsWide]

theorem spell_of_wide (hshown : c.isPrintable = false) (hlow : 0x100 ≤ c.val) :
    spell c = [backslash, numericLetter c] ++ hex (numericWidth c) c.val := by
  have hquote : c ≠ doubleQuote := by
    rintro rfl
    exact absurd hlow (by decide)
  have hshort : shortEscapes.lookup c = none := by
    have hall : ∀ p ∈ shortEscapes, p.1.val < 0x100 := by decide
    refine List.lookup_eq_none_iff.2 fun p hp => bne_iff_ne.2 ?_
    rintro rfl
    exact absurd (hall p hp) (Nat.not_lt.2 hlow)
  rw [spell, escapePoint, if_neg hquote, hshort]
  simp only [hshown]
  exact numericEscape_eq c

theorem isWide_of_second_u (h : (spell c)[1]? = some ('u' : CodePoint)) :
    IsWide 0x100 0x10000 c = true := by
  rcases of_second_escapePoint h with h | h | ⟨hshown, h⟩
  · exact absurd h (by decide)
  · exact absurd h (by decide)
  · refine isWide_iff.2 ⟨hshown, ?_⟩
    unfold numericLetter at h
    split at h
    · exact absurd h (by decide)
    · split at h
      · omega
      · exact absurd h (by decide)

theorem isWide_of_second_U (h : (spell c)[1]? = some ('U' : CodePoint)) :
    IsWide 0x10000 0x110000 c = true := by
  have hlt := c.lt
  rcases of_second_escapePoint h with h | h | ⟨hshown, h⟩
  · exact absurd h (by decide)
  · exact absurd h (by decide)
  · refine isWide_iff.2 ⟨hshown, ?_⟩
    unfold numericLetter at h
    split at h
    · exact absurd h (by decide)
    · split at h
      · exact absurd h (by decide)
      · omega

theorem isSurrogate_of_isKept (h : IsKept t) (hc : c ∈ t) (hshown : c.isPrintable = false)
    (hlow : 0x100 ≤ c.val) : c.isSurrogate = false := by
  rcases h.points c hc with hp | hp | hp
  · rw [hp] at hshown
    cases hshown
  · have hall : ∀ d ∈ text "\t\n\r", d.val < 0x100 := by decide
    exact absurd hlow (Nat.not_le.2 (hall c hp))
  · exact hp.2

theorem replaceNumeric_four (h : IsKept t) :
    replaceNumeric (text "\\u") 4 (text "\x22" ++ t.flatMap spell ++ text "\x22") =
      .ok (text "\x22" ++ t.flatMap (spellBut (IsWide 0x100 0x10000)) ++ text "\x22") := by
  have hdigits : ∀ c ∈ t, IsWide 0x100 0x10000 c = true →
      spell c = [backslash, 'u'] ++ hex 4 c.val ∧ escapedPoint (hex 4 c.val) = .ok c := by
    intro c hc hsuch
    obtain ⟨hshown, hlow, hhigh⟩ := isWide_iff.1 hsuch
    have hletter : numericLetter c = 'u' ∧ numericWidth c = 4 := by
      simp [numericLetter, numericWidth, Nat.not_lt.2 hlow, hhigh]
    refine ⟨?_, escapedPoint_hex_four hhigh (isSurrogate_of_isKept h hc hshown hlow)⟩
    rw [spell_of_wide hshown hlow, hletter.1, hletter.2]
  have hother : ∀ c ∈ t, IsWide 0x100 0x10000 c = false →
      (spell c)[1]? ≠ some ('u' : CodePoint) := by
    intro c _ hsuch hsecond
    rw [isWide_of_second_u hsecond] at hsuch
    cases hsuch
  have hpass : replaceNumeric [backslash, 'u'] 4
        (text "\x22" ++ t.flatMap (spellBut fun _ => false) ++ text "\x22") =
      .ok (text "\x22" ++ t.flatMap (spellBut fun c => false || IsWide 0x100 0x10000 c) ++
        text "\x22") :=
    replaceNumeric_flatMap (by decide) (by decide) rfl hdigits hother h.fourDigits
  exact hpass

theorem replaceNumeric_eight (h : IsKept t) :
    replaceNumeric (text "\\U") 8
        (text "\x22" ++ t.flatMap (spellBut (IsWide 0x100 0x10000)) ++ text "\x22") =
      .ok (text "\x22" ++ t.flatMap (spellBut isNumbered) ++ text "\x22") := by
  have hdigits : ∀ c ∈ t, IsWide 0x10000 0x110000 c = true →
      spellBut (IsWide 0x100 0x10000) c = [backslash, 'U'] ++ hex 8 c.val ∧
        escapedPoint (hex 8 c.val) = .ok c := by
    intro c _ hsuch
    obtain ⟨hshown, hlow, -⟩ := isWide_iff.1 hsuch
    have hletter : numericLetter c = 'U' ∧ numericWidth c = 8 := by
      have hbig : ¬c.val < 0x100 := by omega
      simp [numericLetter, numericWidth, hbig, Nat.not_lt.2 hlow]
    have hnot : ¬IsWide 0x100 0x10000 c = true := by
      rw [isWide_iff]
      omega
    refine ⟨?_, escapedPoint_hex_eight c⟩
    rw [spellBut, if_neg hnot, spell_of_wide hshown (by omega), hletter.1, hletter.2]
  have hother : ∀ c ∈ t, IsWide 0x10000 0x110000 c = false →
      (spellBut (IsWide 0x100 0x10000) c)[1]? ≠ some ('U' : CodePoint) := by
    intro c _ hsuch hsecond
    unfold spellBut at hsecond
    split at hsecond
    · cases hsecond
    · rw [isWide_of_second_U hsecond] at hsuch
      cases hsuch
  exact replaceNumeric_flatMap (by decide) (by decide) (by decide +kernel) hdigits hother
    h.eightDigits

theorem unescape_plain (hc : c ≠ backslash) (s : Text) :
    unescape (c :: s) = (unescape s).map (c :: ·) := by
  rw [unescape.eq_def]
  simp only [if_pos hc]

theorem unescape_pair {letter : CodePoint}
    (h : (c, letter) ∈ (doubleQuote, doubleQuote) :: shortEscapes)
    (s : Text) : unescape (backslash :: letter :: s) = (unescape s).map (c :: ·) := by
  have hall : ∀ p ∈ (doubleQuote, doubleQuote) :: shortEscapes, escapes.lookup p.2 = some p.1 ∨
      escapes.lookup p.2 = none ∧ p.1 = backslash ∧ p.2 = backslash := by decide
  rw [unescape.eq_def]
  simp only [if_neg (not_not_intro rfl : ¬backslash ≠ backslash)]
  rcases hall _ h with hc | ⟨hnone, hc, hl⟩
  · simp only [hc]
  · obtain rfl : letter = backslash := hl
    obtain rfl : c = backslash := hc
    simp only [hnone, if_true]

theorem unescape_spellBut (hc : (spell c)[1]? ≠ some ('x' : CodePoint)) (s : Text) :
    unescape (spellBut isNumbered c ++ s) = (unescape s).map (c :: ·) := by
  unfold spellBut
  by_cases hn : isNumbered c = true
  · rw [if_pos hn]
    refine unescape_plain ?_ s
    rintro rfl
    revert hn
    decide +kernel
  · rw [if_neg hn]
    obtain ⟨u, hu, hspelling⟩ := exists_spelling doubleQuote c
    rw [spell, hu] at hc ⊢
    cases hspelling with
    | plain hquote hslash => exact unescape_plain hslash s
    | pair letter h => exact unescape_pair h s
    | numeric hshown =>
      -- Only two digits are left, which are not read.
      refine absurd ?_ hc
      have hlow : c.val < 0x100 := by
        have hlt := c.lt
        simp only [isNumbered, Bool.or_eq_true, isWide_iff, hshown, true_and] at hn
        omega
      rw [numericEscape_eq, numericLetter, if_pos hlow]
      rfl

theorem unescape_flatMap (ht : ∀ c ∈ t, (spell c)[1]? ≠ some ('x' : CodePoint)) :
    unescape (text "\x22" ++ t.flatMap (spellBut isNumbered) ++ text "\x22") =
      .ok (text "\x22" ++ t ++ text "\x22") := by
  have hbody : unescape (t.flatMap (spellBut isNumbered) ++ text "\x22") =
      .ok (t ++ text "\x22") := by
    induction t with
    | nil => rfl
    | cons c r ih =>
      obtain ⟨hc, hr⟩ := List.forall_mem_cons.1 ht
      rw [List.flatMap_cons, List.append_assoc, unescape_spellBut hc, ih hr]
      rfl
  have hopening := unescape_plain (c := doubleQuote) (by decide)
    (t.flatMap (spellBut isNumbered) ++ text "\x22")
  rw [hbody] at hopening
  exact hopening

/-- The quotes are taken from a string, unless it begins with two more of them. -/
theorem inner_of_quotes (hone : t ≠ text "\x22") (htwo : ¬text "\x22\x22" <+: t) {whole : Text}
    (hwhole : whole = text "\x22" ++ t ++ text "\x22") :
    inner 1 (if whole[1]? = some doubleQuote ∧ (whole.length < 3 ∨ whole[2]? = whole[1]?) then
      inner 2 whole else whole) = t := by
  subst hwhole
  cases t with
  | nil => decide
  | cons c r =>
    have hinner : inner 1 (text "\x22" ++ (c :: r) ++ text "\x22") = c :: r := by
      simp [inner, text]
    rw [if_neg, hinner]
    rintro ⟨hc, hnext⟩
    obtain rfl : c = doubleQuote := Option.some.inj hc
    cases r with
    | nil => exact hone rfl
    | cons d r =>
      rcases hnext with hshort | hnext
      · have hlen : (text "\x22").length = 1 := rfl
        simp only [List.length_append, List.length_cons, hlen] at hshort
        omega
      · obtain rfl : d = doubleQuote := Option.some.inj hnext
        exact htwo ⟨r, rfl⟩

/-- A string that is kept is read as it was. -/
theorem stringItem_of_isKept (h : IsKept t) :
    stringItem doubleQuote (text "\x22" ++ t.flatMap spell ++ text "\x22") = .ok t := by
  have hpoints := fun c hc => second_spell_ne (h.points c hc)
  unfold stringItem
  rw [checkClosing_spelled, if_pos rfl, checkEscapes_spelled hpoints, replaceNumeric_four h]
  simp only [bind, Except.bind, pure, Except.pure, replaceNumeric_eight h, unescape_flatMap hpoints]
  exact congrArg _ (inner_of_quotes h.noQuotes.1 h.noQuotes.2 rfl)

end Item

end DocPress.Toml
