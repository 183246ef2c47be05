import DocPress.Proofs.Text.Search
import DocPress.Text.Quoted

namespace DocPress.Text

variable {c quote : CodePoint} {t : Text}

theorem mem_hex {width n : Nat} (h : c ∈ hex width n) : ∃ k < 16, c = hexDigit k := by
  induction width generalizing n with
  | zero => cases h
  | succ width ih =>
    rw [hex, List.mem_append, List.mem_singleton] at h
    rcases h with h | rfl
    · exact ih h
    · exact ⟨n % 16, Nat.mod_lt _ (by decide), rfl⟩

theorem length_hex (width n : Nat) : (hex width n).length = width := by
  induction width generalizing n with
  | zero => rfl
  | succ width ih => rw [hex, List.length_append, ih]; rfl

theorem forall_mem_hex {p : CodePoint → Prop} (h : ∀ k < 16, p (hexDigit k)) (width n : Nat) :
    ∀ c ∈ hex width n, p c := by
  intro c hc
  obtain ⟨k, hk, rfl⟩ := mem_hex hc
  exact h k hk

/-- The marker begins nowhere in `u`, also where it would reach into what comes after. -/
def Avoids (marker u s : Text) : Prop := ∀ b, b <:+ u → b ≠ [] → ¬marker <+: b ++ s

section

variable {marker u s : Text}

theorem avoids_nil : Avoids marker [] s := fun _ hb hne _ => hne (List.suffix_nil.1 hb)

theorem avoids_cons : Avoids marker (c :: u) s ↔ ¬marker <+: c :: (u ++ s) ∧ Avoids marker u s := by
  constructor
  · intro h
    exact ⟨h _ List.suffix_rfl (List.cons_ne_nil c u),
      fun b hb => h b (hb.trans (List.suffix_cons c u))⟩
  · rintro ⟨hc, hu⟩ b hb hne
    rcases List.suffix_cons_iff.1 hb with rfl | hb
    · exact hc
    · exact hu b hb hne

theorem Avoids.substitute (value : Text) (h : Avoids marker u s) :
    substitute marker value (u ++ s) = u ++ substitute marker value s := by
  induction u with
  | nil => rfl
  | cons c u ih =>
    obtain ⟨hc, hu⟩ := avoids_cons.1 h
    have hne : ¬(marker ≠ [] ∧ marker.isPrefixOf (c :: (u ++ s)) = true) := by
      simp only [List.isPrefixOf_iff_prefix, not_and]
      exact fun _ => hc
    simp only [List.cons_append, Text.substitute, substituteFrom, if_neg hne]
    exact congrArg _ (ih hu)

theorem Avoids.pieces (hm : marker ≠ []) (h : Avoids marker u s) {first : Text} {rest : List Text}
    (hs : pieces marker s = first :: rest) : pieces marker (u ++ s) = (u ++ first) :: rest := by
  induction u with
  | nil => exact hs
  | cons c u ih =>
    obtain ⟨hc, hu⟩ := avoids_cons.1 h
    exact pieces_cons hm hc (ih hu)

theorem Avoids.infix_iff (h : Avoids marker u s) : marker <:+: u ++ s ↔ marker <:+: s := by
  induction u with
  | nil => rfl
  | cons c u ih =>
    obtain ⟨hc, hu⟩ := avoids_cons.1 h
    rw [List.cons_append, List.infix_cons_iff, ih hu]
    exact or_iff_right hc

theorem avoids_of_notMem {a : CodePoint} {rest : Text} (h : a ∉ u) : Avoids (a :: rest) u s := by
  intro b hb hne hpre
  obtain ⟨c, b, rfl⟩ := List.exists_cons_of_ne_nil hne
  exact h (hb.subset ((List.cons_prefix_cons.1 hpre).1 ▸ List.mem_cons_self))

end

/-- The ways a code point is spelled between quotes. -/
inductive Spelling (quote c : CodePoint) : Text → Prop where
  | plain (hquote : c ≠ quote) (hslash : c ≠ '\\') (hshown : c.isPrintable = true) :
      Spelling quote c [c]
  | pair (letter : CodePoint) (h : (c, letter) ∈ (quote, quote) :: shortEscapes) :
      Spelling quote c ['\\', letter]
  | numeric (hshown : c.isPrintable = false) : Spelling quote c (numericEscape c)

theorem spelling_escapePoint (quote c : CodePoint) : Spelling quote c (escapePoint quote c) := by
  unfold escapePoint
  split
  · rename_i hc
    exact .pair c (by simp [hc])
  · rename_i hc
    split
    · rename_i letter hl
      obtain ⟨l₁, l₂, hmem, -⟩ := List.lookup_eq_some_iff.1 hl
      exact .pair letter (List.mem_cons_of_mem _ (hmem ▸ by simp))
    · rename_i hl
      have hslash : c ≠ '\\' := by
        rintro rfl
        exact absurd hl (by decide)
      by_cases hp : c.isPrintable = true
      · rw [if_pos hp]
        exact .plain hc hslash hp
      · rw [if_neg hp]
        exact .numeric (Bool.eq_false_iff.2 hp)

theorem exists_spelling (quote c : CodePoint) : ∃ u, escapePoint quote c = u ∧ Spelling quote c u :=
  ⟨_, rfl, spelling_escapePoint quote c⟩

/-- The letter of a numeric escape, and how many digits there are after it. -/
def numericLetter (c : CodePoint) : CodePoint :=
  if c.val < 0x100 then 'x' else if c.val < 0x10000 then 'u' else 'U'

def numericWidth (c : CodePoint) : Nat :=
  if c.val < 0x100 then 2 else if c.val < 0x10000 then 4 else 8

theorem numericEscape_eq (c : CodePoint) :
    numericEscape c = ('\\' : CodePoint) :: numericLetter c :: hex (numericWidth c) c.val := by
  unfold numericEscape numericLetter numericWidth
  split
  · rfl
  · split <;> rfl

theorem notMem_numeric {d : CodePoint} (h : d.isAlphanumeric = false) (c : CodePoint) :
    d ∉ numericLetter c :: hex (numericWidth c) c.val := by
  have hletter : (numericLetter c).isAlphanumeric = true := by
    unfold numericLetter
    split
    · rfl
    · split <;> rfl
  have hall : ∀ e ∈ numericLetter c :: hex (numericWidth c) c.val, e.isAlphanumeric = true :=
    List.forall_mem_cons.2 ⟨hletter, forall_mem_hex (by decide) _ _⟩
  intro hd
  rw [hall d hd] at h
  cases h

theorem not_begins_pair {a b d : CodePoint} {r : Text} (h : r.head? ≠ some b) :
    ¬[a, b] <+: d :: r := by
  intro hp
  obtain ⟨rest, hr⟩ := (List.cons_prefix_cons.1 hp).2
  rw [← hr] at h
  exact h rfl

/-- A backslash with a letter begins nowhere in a spelling that does not have that letter second, if
no escaped backslash stands before the letter. -/
theorem avoids_escapePoint {letter : CodePoint} {s : Text}
    (hsecond : (escapePoint quote c)[1]? ≠ some letter)
    (hslash : c = '\\' → s.head? ≠ some letter) :
    Avoids [('\\' : CodePoint), letter] (escapePoint quote c) s := by
  obtain ⟨u, hu, hspelling⟩ := exists_spelling quote c
  rw [hu] at hsecond ⊢
  cases hspelling with
  | plain hquote hc hshown => exact avoids_of_notMem (by simpa using Ne.symm hc)
  | pair d h =>
    refine avoids_cons.2 ⟨not_begins_pair hsecond, ?_⟩
    by_cases hd : d = '\\'
    · -- Only an escaped backslash has two of them.
      have hc : c = '\\' := by
        rcases List.mem_cons.1 h with h | h
        · rw [Prod.mk.injEq] at h
          rw [h.1, ← h.2, hd]
        · subst hd
          revert h
          simp only [shortEscapes, List.mem_cons, Prod.mk.injEq]
          rintro (⟨h, -⟩ | ⟨-, h⟩ | ⟨-, h⟩ | ⟨-, h⟩ | h)
          · exact h
          · exact absurd h (by decide)
          · exact absurd h (by decide)
          · exact absurd h (by decide)
          · cases h
      exact avoids_cons.2 ⟨not_begins_pair (hslash hc), avoids_nil⟩
    · exact avoids_of_notMem (by simpa using Ne.symm hd)
  | numeric hshown =>
    rw [numericEscape_eq] at hsecond ⊢
    exact avoids_cons.2 ⟨not_begins_pair hsecond,
      avoids_of_notMem (notMem_numeric (by decide) c)⟩


/-- What stands in a spelling: the code point itself, a backslash, letters and digits. -/
theorem eq_or_of_mem_escapePoint {d : CodePoint} (h : d ∈ escapePoint quote c) :
    d = c ∨ d = '\\' ∨ d.isAlphanumeric = true := by
  obtain ⟨u, hu, hspelling⟩ := exists_spelling quote c
  rw [hu] at h
  cases hspelling with
  | plain => exact .inl (List.mem_singleton.1 h)
  | pair letter hl =>
    rcases List.mem_cons.1 h with rfl | h
    · exact .inr (.inl rfl)
    · obtain rfl := List.mem_singleton.1 h
      rcases List.mem_cons.1 hl with hl | hl
      · rw [Prod.mk.injEq] at hl
        exact .inl (hl.2.trans hl.1.symm)
      · have hall : ∀ p ∈ shortEscapes, p.2 = '\\' ∨ p.2.isAlphanumeric = true := by decide
        exact .inr (hall _ hl)
  | numeric =>
    rw [numericEscape_eq] at h
    rcases List.mem_cons.1 h with rfl | h
    · exact .inr (.inl rfl)
    · exact .inr (.inr (Bool.of_not_eq_false fun hd => notMem_numeric hd c h))

theorem of_second_escapePoint {letter : CodePoint} (h : (escapePoint quote c)[1]? = some letter) :
    letter = quote ∨ letter ∈ shortEscapes.map (·.2) ∨
      c.isPrintable = false ∧ letter = numericLetter c := by
  obtain ⟨u, hu, hspelling⟩ := exists_spelling quote c
  rw [hu] at h
  cases hspelling with
  | plain => cases h
  | pair d hd =>
    obtain rfl : d = letter := Option.some.inj h
    rcases List.mem_cons.1 hd with hd | hd
    · exact .inl (Prod.mk.inj hd).2
    · exact .inr (.inl (List.mem_map.2 ⟨_, hd, rfl⟩))
  | numeric hshown =>
    rw [numericEscape_eq] at h
    exact .inr (.inr ⟨hshown, (Option.some.inj h).symm⟩)

theorem head_escapePoint (quote c : CodePoint) :
    (escapePoint quote c).head? = some ('\\' : CodePoint) ∨
      escapePoint quote c = [c] ∧ c ≠ quote ∧ c ≠ '\\' := by
  obtain ⟨u, hu, hspelling⟩ := exists_spelling quote c
  rw [hu]
  cases hspelling with
  | plain hquote hslash => exact .inr ⟨rfl, hquote, hslash⟩
  | pair => exact .inl rfl
  | numeric => exact .inl (by rw [numericEscape_eq]; rfl)

theorem head_flatMap_escapePoint {d : CodePoint} (hslash : d ≠ '\\')
    (h : (t.flatMap (escapePoint quote)).head? = some d) : t.head? = some d ∧ d ≠ quote := by
  cases t with
  | nil => cases h
  | cons c r =>
    rw [List.flatMap_cons] at h
    rcases head_escapePoint quote c with hc | ⟨hc, hquote, -⟩
    · rw [List.head?_append, hc] at h
      exact absurd (Option.some.inj h).symm hslash
    · rw [hc] at h
      obtain rfl : c = d := Option.some.inj h
      exact ⟨rfl, hquote⟩

end DocPress.Text
