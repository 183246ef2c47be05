import DocPress.Proofs.Toml.StoredString

namespace DocPress.Toml

open Text

variable {c : CodePoint} {t u s : Text}

section Backslashes

theorem endsInOddBackslashes_of_getLast? (h : u.getLast? ≠ some backslash) :
    endsInOddBackslashes u = false := by
  rw [endsInOddBackslashes]
  rw [← List.head?_reverse] at h
  cases hr : u.reverse with
  | nil => rfl
  | cons c r =>
    rw [hr] at h
    have hc : c ≠ backslash := fun hc => h (congrArg some hc)
    simp [hc]

theorem endsInOddBackslashes_concat (t : Text) (c : CodePoint) :
    endsInOddBackslashes (t ++ [c]) = if c = backslash then !endsInOddBackslashes t else false := by
  unfold endsInOddBackslashes
  rw [List.reverse_append, List.reverse_singleton, List.singleton_append]
  by_cases hc : c = backslash
  · rw [List.takeWhile_cons_of_pos (by simp [hc]), if_pos hc, List.length_cons]
    rcases Nat.mod_two_eq_zero_or_one (t.reverse.takeWhile (· = backslash)).length with h | h
    · simp [Nat.add_mod, h]
    · simp [Nat.add_mod, h]
  · rw [List.takeWhile_cons_of_neg (by simp [hc]), if_neg hc]
    rfl

theorem endsInOddBackslashes_append (h : endsInOddBackslashes u = false) (s : Text) :
    endsInOddBackslashes (u ++ s) = endsInOddBackslashes s := by
  unfold endsInOddBackslashes at h ⊢
  rw [List.reverse_append, List.takeWhile_append]
  split
  · rename_i hall
    -- All of `s` are backslashes, and an even number of them stands before it.
    rw [List.length_append, hall]
    have heven : (u.reverse.takeWhile (· = backslash)).length % 2 = 0 := by
      have := beq_eq_false_iff_ne.1 h
      omega
    rw [Nat.add_mod, heven, Nat.add_zero, Nat.mod_mod]
  · rfl

theorem endsInOddBackslashes_spell (c : CodePoint) : endsInOddBackslashes (spell c) = false := by
  obtain ⟨u, hu, hspelling⟩ := exists_spelling doubleQuote c
  rw [spell, hu]
  cases hspelling with
  | plain hquote hslash =>
    exact endsInOddBackslashes_of_getLast? fun h => hslash (Option.some.inj h)
  | pair letter h =>
    by_cases hl : letter = backslash
    · subst hl
      decide
    · exact endsInOddBackslashes_of_getLast? fun h => hl (Option.some.inj h)
  | numeric =>
    refine endsInOddBackslashes_of_getLast? fun h => ?_
    rw [numericEscape_eq, List.getLast?_cons_cons] at h
    exact notMem_numeric (by decide) c (List.mem_of_getLast? h)

end Backslashes

section Numeric

theorem digitsValue_hex (width n : Nat) : digitsValue 16 (hex width n) = n % Nat.pow 16 width := by
  have hdigit : ∀ k < 16, (hexDigit k).hexValue?.getD 0 = k := by decide
  induction width generalizing n with
  | zero => exact (Nat.mod_one n).symm
  | succ width ih =>
    have hstep : digitsValue 16 (hex (width + 1) n) =
        digitsValue 16 (hex width (n / 16)) * 16 + n % 16 := by
      rw [hex, digitsValue, List.foldl_append, List.foldl_cons, List.foldl_nil,
        hdigit _ (Nat.mod_lt _ (by decide))]
      rfl
    have hpow : Nat.pow 16 (width + 1) = 16 * Nat.pow 16 width := Nat.mul_comm _ _
    rw [hstep, ih, hpow, Nat.mod_mul]
    omega

theorem stripHex_hex (width n : Nat) : stripHex (hex width n) = [] := by
  have hall := forall_mem_hex (p := fun c => (c.isHexDigit && !c.isUpper) = true) (by decide)
    width n
  have hdrop : (hex width n).dropWhile (fun c => c.isHexDigit && !c.isUpper) = [] := by
    rw [← List.append_nil (hex width n), List.dropWhile_append_of_pos hall, List.dropWhile_nil]
  unfold stripHex
  simp only [hdrop]
  rfl

/-- Four digits begin with `d` and then one from `8` on only for lone surrogates. -/
theorem escapedPoint_of_digitsValue {d e : CodePoint} {rest : Text}
    (hstrip : stripHex (d :: e :: rest) = []) (hvalue : digitsValue 16 (d :: e :: rest) = c.val)
    (hfirst : d = 'd' → e ∈ text "01234567") : escapedPoint (d :: e :: rest) = .ok c := by
  have hlow : ¬0x80000000 ≤ c.val := by
    have := c.lt
    omega
  have hpoint : CodePoint.ofNat? c.val = some c := dif_pos c.lt
  have hsecond : ¬(d = ('d' : CodePoint) ∧
      (!((e :: rest).head?.any fun x => decide (x ∈ text "01234567"))) = true) := by
    rintro ⟨hd, he⟩
    simp [hfirst hd] at he
  unfold escapedPoint
  rw [if_neg (not_not_intro hstrip)]
  simp only [hvalue, if_neg hlow, hpoint, if_neg hsecond]
  simp

theorem escapedPoint_hex_four (h : c.val < 0x10000) (hs : c.isSurrogate = false) :
    escapedPoint (hex 4 c.val) = .ok c := by
  have hd : ∀ k < 16, hexDigit k = 'd' → k = 13 := by decide
  have he : ∀ k < 8, hexDigit k ∈ text "01234567" := by decide
  have hbounds : ¬(0xD800 ≤ c.val ∧ c.val ≤ 0xDFFF) := by simpa [CodePoint.isSurrogate] using hs
  refine escapedPoint_of_digitsValue (stripHex_hex 4 c.val) ?_ fun hfirst => he _ ?_
  · exact (digitsValue_hex 4 c.val).trans (Nat.mod_eq_of_lt h)
  · have hthirteen := hd _ (Nat.mod_lt _ (by decide)) hfirst
    omega

theorem escapedPoint_hex_eight (c : CodePoint) : escapedPoint (hex 8 c.val) = .ok c := by
  have hd : ∀ k < 16, hexDigit k = 'd' → k = 13 := by decide
  have hlt := c.lt
  refine escapedPoint_of_digitsValue (stripHex_hex 8 c.val) ?_ fun hfirst => ?_
  · exact (digitsValue_hex 8 c.val).trans (Nat.mod_eq_of_lt (show c.val < 0x100000000 by omega))
  · have hthirteen := hd _ (Nat.mod_lt _ (by decide)) hfirst
    omega

end Numeric

section Resuming

variable {letter : CodePoint} {width : Nat}

/-- Replaces the numeric escapes in what is left of a text. A backslash before a marker counts as long
as `counts` says so. -/
def resume (letter : CodePoint) (width : Nat) (done : Text) (counts : Bool) (t : Text) :
    Except Fault Text :=
  let parts := pieces [backslash, letter] t
  numericEscapes [backslash, letter] width (done ++ parts.headD [])
    (counts && endsInOddBackslashes (parts.headD [])) (parts.drop 1)

theorem resume_of_pieces {first : Text} {rest : List Text}
    (h : pieces [backslash, letter] t = first :: rest) (done : Text) (counts : Bool) :
    resume letter width done counts t =
      numericEscapes [backslash, letter] width (done ++ first)
        (counts && endsInOddBackslashes first) rest := by
  rw [resume, h]
  rfl

theorem exists_pieces (letter : CodePoint) (t : Text) :
    ∃ first rest, pieces [backslash, letter] t = first :: rest :=
  List.exists_cons_of_ne_nil (pieces_ne_nil _ t)

theorem replaceNumeric_eq_resume (letter : CodePoint) (width : Nat) (t : Text) :
    replaceNumeric [backslash, letter] width t = resume letter width [] true t := by
  obtain ⟨first, rest, h⟩ := exists_pieces letter t
  rw [resume_of_pieces h]
  unfold replaceNumeric
  rw [h]
  cases rest with
  | nil =>
    -- A single piece is the whole text.
    cases hb : breakOn [backslash, letter] t with
    | none =>
      rw [pieces_of_breakOn_eq_none hb] at h
      cases h
      rfl
    | some p =>
      rw [pieces_of_breakOn (List.cons_ne_nil _ _) hb] at h
      exact absurd (List.cons.inj h).2 (pieces_ne_nil _ _)
  | cons second rest => rfl

theorem resume_append (h : Avoids [backslash, letter] u s) (hu : endsInOddBackslashes u = false)
    (done : Text) (counts : Bool) :
    resume letter width done counts (u ++ s) = resume letter width (done ++ u) counts s := by
  obtain ⟨first, rest, hs⟩ := exists_pieces letter s
  rw [resume_of_pieces hs, resume_of_pieces (h.pieces (List.cons_ne_nil _ _) hs),
    endsInOddBackslashes_append hu, List.append_assoc]

/-- An escaped backslash before the letter is no marker, as long as backslashes count. -/
theorem resume_backslashes (hletter : letter ≠ backslash)
    (h : (counts : Bool) = true ∨ s.head? ≠ some letter) (done : Text) :
    resume letter width done counts (backslash :: backslash :: s) =
      resume letter width (done ++ [backslash, backslash]) counts s := by
  by_cases hs : s.head? = some letter
  · obtain ⟨r, rfl⟩ := List.head?_eq_some_iff.1 hs
    obtain rfl := h.resolve_right (not_not_intro hs)
    obtain ⟨first, rest, hr⟩ := exists_pieces letter r
    have hmarker : pieces [backslash, letter] (backslash :: letter :: r) = [] :: first :: rest := by
      rw [← hr]
      exact pieces_append (List.cons_ne_nil _ _) r
    have hnot : ¬[backslash, letter] <+: backslash :: backslash :: letter :: r :=
      not_begins_pair fun h => hletter (Option.some.inj h).symm
    have hplain : Avoids [backslash, letter] [letter] r :=
      avoids_of_notMem (by simpa using hletter.symm)
    have hnext : pieces [backslash, letter] (letter :: r) = (letter :: first) :: rest :=
      hplain.pieces (List.cons_ne_nil _ _) hr
    have hodd : endsInOddBackslashes (letter :: first) = endsInOddBackslashes first :=
      endsInOddBackslashes_append (u := [letter])
        (endsInOddBackslashes_of_getLast? fun h => hletter (Option.some.inj h)) first
    have hslash : endsInOddBackslashes [backslash] = true := by decide
    rw [resume_of_pieces (pieces_cons (List.cons_ne_nil _ _) hnot hmarker), resume_of_pieces hnext,
      hodd, hslash, Bool.true_and, Bool.true_and, numericEscapes]
    simp
  · have hpair : Avoids [backslash, letter] [backslash, backslash] s := by
      refine avoids_cons.2 ⟨not_begins_pair fun h => hletter (Option.some.inj h).symm, ?_⟩
      exact avoids_cons.2 ⟨not_begins_pair hs, avoids_nil⟩
    exact resume_append hpair (by decide) done counts

/-- A numeric escape becomes its code point; after it, backslashes before a marker do not count. -/
theorem resume_numeric (hpoint : escapedPoint (hex width c.val) = .ok c) (done s : Text)
    (counts : Bool) :
    resume letter width done counts ([backslash, letter] ++ hex width c.val ++ s) =
      resume letter width (done ++ [c]) false s := by
  obtain ⟨first, rest, hs⟩ := exists_pieces letter s
  have hdigits : backslash ∉ hex width c.val := fun h =>
    forall_mem_hex (p := (· ≠ backslash)) (by decide) _ _ _ h rfl
  have hpieces : pieces [backslash, letter] ([backslash, letter] ++ hex width c.val ++ s) =
      [] :: (hex width c.val ++ first) :: rest := by
    rw [List.append_assoc, pieces_append (List.cons_ne_nil _ _)]
    exact congrArg _ ((avoids_of_notMem hdigits).pieces (List.cons_ne_nil _ _) hs)
  have htake : ((hex width c.val ++ first).take width).map CodePoint.toLower = hex width c.val := by
    rw [List.take_left' (length_hex width c.val)]
    refine (List.map_congr_left (forall_mem_hex ?_ _ _)).trans (List.map_id _)
    decide
  have hodd : endsInOddBackslashes [] = false := rfl
  rw [resume_of_pieces hpieces, resume_of_pieces hs, hodd, Bool.and_false, Bool.false_and,
    numericEscapes, htake, hpoint, List.drop_left, List.append_nil]
  rfl

/-- How a code point stands where those of some kind are read already. -/
def spellBut (isRead : CodePoint → Bool) (c : CodePoint) : Text := if isRead c then [c] else spell c

variable {isRead isSuch : CodePoint → Bool}

theorem endsInOddBackslashes_spellBut (hc : c ≠ backslash) :
    endsInOddBackslashes (spellBut isRead c) = false := by
  unfold spellBut
  split
  · exact endsInOddBackslashes_of_getLast? fun h => hc (Option.some.inj h)
  · exact endsInOddBackslashes_spell c

theorem head_flatMap_spellBut (hslash : letter ≠ backslash) (hquote : letter ≠ doubleQuote)
    (h : (t.flatMap (spellBut isRead) ++ text "\x22").head? = some letter) :
    t.head? = some letter := by
  cases t with
  | nil => exact absurd (Option.some.inj h).symm hquote
  | cons c r =>
    rw [List.flatMap_cons, List.append_assoc, List.head?_append] at h
    unfold spellBut at h
    split at h
    · exact h
    · rcases head_escapePoint doubleQuote c with hc | ⟨hc, -, -⟩
      · rw [hc] at h
        exact absurd (Option.some.inj h).symm hslash
      · rw [spell, hc] at h
        exact h

theorem avoids_spellBut (hc : c ≠ backslash)
    (hsecond : (spellBut isRead c)[1]? ≠ some letter) (s : Text) :
    Avoids [backslash, letter] (spellBut isRead c) s := by
  unfold spellBut at hsecond ⊢
  by_cases hread : isRead c = true
  · rw [if_pos hread]
    exact avoids_of_notMem fun h => hc (List.mem_singleton.1 h).symm
  · rw [if_neg hread] at hsecond ⊢
    exact avoids_escapePoint hsecond fun h => absurd h hc

/-- All numeric escapes with one letter are read at once. Behind the first of them an escaped backslash
must not stand before the letter. -/
theorem resume_flatMap (hslash : letter ≠ backslash) (hquote : letter ≠ doubleQuote)
    (hread : isRead backslash = false)
    (hdigits : ∀ c ∈ t, isSuch c = true →
      spellBut isRead c = [backslash, letter] ++ hex width c.val ∧
      escapedPoint (hex width c.val) = .ok c)
    (hother : ∀ c ∈ t, isSuch c = false → (spellBut isRead c)[1]? ≠ some letter)
    {counts : Bool} (h : counts = true ∧ IsQuietBehind isSuch [backslash, letter] t ∨
      ¬[backslash, letter] <:+: t) (done : Text) :
    resume letter width done counts (t.flatMap (spellBut isRead) ++ text "\x22") =
      .ok (done ++ t.flatMap (spellBut fun c => isRead c || isSuch c) ++ text "\x22") := by
  induction t generalizing done counts with
  | nil =>
    have hend : Avoids [backslash, letter] (text "\x22") [] := avoids_of_notMem (by decide)
    have hempty : pieces [backslash, letter] [] = [[]] := rfl
    rw [List.flatMap_nil, List.nil_append, ← List.append_nil (text "\x22"),
      resume_append hend (by decide), resume_of_pieces hempty]
    simp [numericEscapes]
  | cons c r ih =>
    rw [List.forall_mem_cons] at hdigits hother
    rw [List.flatMap_cons, List.flatMap_cons, List.append_assoc]
    have hnot : ¬[backslash, letter] <:+: c :: r → ¬[backslash, letter] <:+: r := fun h hr =>
      h (hr.trans (List.suffix_cons c r).isInfix)
    -- The first escape of the kind ends the counting of backslashes, so no marker may come behind it.
    by_cases hc : isSuch c = true
    · obtain ⟨hspell, hpoint⟩ := hdigits.1 hc
      have hbehind : ¬[backslash, letter] <:+: r := by
        rcases h with ⟨-, h⟩ | h
        · refine hnot ?_
          rw [IsQuietBehind, List.dropWhile_cons, hc] at h
          exact h
        · exact hnot h
      have hnow : spellBut (fun c => isRead c || isSuch c) c = [c] := by simp [spellBut, hc]
      rw [hspell, resume_numeric hpoint, ih hdigits.2 hother.2 (.inr hbehind), hnow]
      simp
    · rw [Bool.not_eq_true] at hc
      have hnext : counts = true ∧ IsQuietBehind isSuch [backslash, letter] r ∨
          ¬[backslash, letter] <:+: r := by
        refine h.imp (fun h => ⟨h.1, ?_⟩) hnot
        have hquiet := h.2
        rw [IsQuietBehind, List.dropWhile_cons, hc] at hquiet
        exact hquiet
      have hnow : spellBut (fun c => isRead c || isSuch c) c = spellBut isRead c := by
        simp [spellBut, hc]
      rw [hnow]
      -- Only a backslash can make a marker with what comes next.
      by_cases hb : c = backslash
      · subst hb
        have hpair : spellBut isRead backslash = [backslash, backslash] := by
          rw [spellBut, hread]
          decide
        have hguard : counts = true ∨
            (r.flatMap (spellBut isRead) ++ text "\x22").head? ≠ some letter := by
          refine h.imp (·.1) fun hmarker hhead => hmarker ?_
          obtain ⟨rest, rfl⟩ := List.head?_eq_some_iff.1 (head_flatMap_spellBut hslash hquote hhead)
          exact ⟨[], rest, rfl⟩
        rw [hpair]
        refine (resume_backslashes hslash hguard done).trans ?_
        rw [ih hdigits.2 hother.2 hnext]
        simp
      · rw [resume_append (avoids_spellBut hb (hother.1 hc) _) (endsInOddBackslashes_spellBut hb),
          ih hdigits.2 hother.2 hnext]
        simp

theorem replaceNumeric_flatMap (hslash : letter ≠ backslash) (hquote : letter ≠ doubleQuote)
    (hread : isRead backslash = false)
    (hdigits : ∀ c ∈ t, isSuch c = true →
      spellBut isRead c = [backslash, letter] ++ hex width c.val ∧
      escapedPoint (hex width c.val) = .ok c)
    (hother : ∀ c ∈ t, isSuch c = false → (spellBut isRead c)[1]? ≠ some letter)
    (h : IsQuietBehind isSuch [backslash, letter] t) :
    replaceNumeric [backslash, letter] width
        (text "\x22" ++ t.flatMap (spellBut isRead) ++ text "\x22") =
      .ok (text "\x22" ++ t.flatMap (spellBut fun c => isRead c || isSuch c) ++ text "\x22") := by
  have hopening : Avoids [backslash, letter] (text "\x22")
      (t.flatMap (spellBut isRead) ++ text "\x22") := avoids_of_notMem (by decide)
  rw [replaceNumeric_eq_resume, List.append_assoc, resume_append hopening (by decide),
    resume_flatMap hslash hquote hread hdigits hother (.inl ⟨rfl, h⟩), List.nil_append]

end Resuming

end DocPress.Toml
