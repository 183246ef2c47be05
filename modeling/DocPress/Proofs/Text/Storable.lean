import DocPress.Text.Blank
import DocPress.Text.Quoted

namespace DocPress.Text

def NoReturn (t : Text) : Prop := ('\r' : CodePoint) ∉ t

theorem noReturn_cons {t : Text} {c : CodePoint} : NoReturn (c :: t) ↔ c ≠ '\r' ∧ NoReturn t := by
  simp [NoReturn, eq_comm]

theorem unifyNewlines_append {a : Text} (h : NoReturn a) (rest : Text) :
    unifyNewlines (a ++ rest) = a ++ unifyNewlines rest := by
  induction a with
  | nil => rfl
  | cons c a ih =>
    obtain ⟨hc, ha⟩ := noReturn_cons.1 h
    rw [List.cons_append, unifyNewlines.eq_def]
    simp only [if_neg hc, ih ha, List.cons_append]

theorem unifyNewlines_of_noReturn {t : Text} (h : NoReturn t) : unifyNewlines t = t := by
  have ht := unifyNewlines_append h []
  rw [List.append_nil] at ht
  rw [ht]
  exact List.append_nil t

end Text

def CodePoint.isStorable (c : CodePoint) : Bool := c ≠ '\r' && !c.isSurrogate

theorem isStorable_iff {c : CodePoint} :
    c.isStorable = true ↔ c ≠ '\r' ∧ ¬(0xD800 ≤ c.val ∧ c.val ≤ 0xDFFF) := by
  simp only [CodePoint.isStorable, CodePoint.isSurrogate, ne_eq, Bool.and_eq_true, decide_eq_true_eq,
    Bool.not_eq_true', Bool.and_eq_false_iff, decide_eq_false_iff_not, Decidable.not_and_iff_not_or_not]

theorem isStorable_of_isPrintable {c : CodePoint} (h : c.isPrintable = true) :
    c.isStorable = true := by
  have hranges : unprintableRanges.contains c = false := by
    simpa [CodePoint.isPrintable] using h
  have hnone : ∀ range ∈ unprintableRanges, ¬(range.1 ≤ c.val ∧ c.val ≤ range.2) := by
    simpa [Ranges.contains] using hranges
  have hlow : (0x0, 0x1f) ∈ unprintableRanges := by decide +kernel
  have hhigh : (0xd7fc, 0xf8ff) ∈ unprintableRanges := by decide +kernel
  have hsurrogate : ¬(0xD800 ≤ c.val ∧ c.val ≤ 0xDFFF) := fun hs => hnone _ hhigh (by dsimp only; omega)
  have hreturn : c ≠ '\r' := by
    rintro rfl
    exact hnone _ hlow (by decide)
  exact isStorable_iff.2 ⟨hreturn, hsurrogate⟩

namespace Text

/-- A file gives the text back as it was written there. -/
def IsStorable (t : Text) : Prop := ∀ c ∈ t, c.isStorable = true

instance (t : Text) : Decidable (IsStorable t) := inferInstanceAs (Decidable (∀ c ∈ t, _))

variable {t marker value : Text} {c : CodePoint}

theorem IsStorable.noReturn (h : IsStorable t) : NoReturn t := by
  intro hm
  exact absurd (h _ hm) (by decide)

theorem IsStorable.isUnicode (h : IsStorable t) : t.isUnicode = true := by
  refine List.all_eq_true.2 fun c hc => ?_
  have hstorable := h c hc
  simp only [CodePoint.isStorable, Bool.and_eq_true] at hstorable
  exact hstorable.2

theorem storable_nil : IsStorable [] := List.forall_mem_nil _

theorem storable_cons : IsStorable (c :: t) ↔ c.isStorable = true ∧ IsStorable t :=
  List.forall_mem_cons

theorem storable_append {a b : Text} : IsStorable (a ++ b) ↔ IsStorable a ∧ IsStorable b :=
  List.forall_mem_append

theorem storable_ite {p : Prop} [Decidable p] {a b : Text} (ha : IsStorable a) (hb : IsStorable b) :
    IsStorable (if p then a else b) := by
  split
  · exact ha
  · exact hb

theorem storable_flatten {ts : List Text} (h : ∀ t ∈ ts, IsStorable t) : IsStorable ts.flatten := by
  intro c hc
  obtain ⟨t, ht, hc⟩ := List.mem_flatten.1 hc
  exact h t ht c hc

theorem IsStorable.of_subset {a b : Text} (h : IsStorable b) (hab : a ⊆ b) : IsStorable a :=
  fun c hc => h c (hab hc)

theorem storable_replicate (n : Nat) (hc : c.isStorable = true) : IsStorable (List.replicate n c) :=
  fun _ hd => List.eq_of_mem_replicate hd ▸ hc

theorem storable_digit : ∀ k < 16, (hexDigit k).isStorable = true := by decide

theorem storable_decimalDigits (fuel n : Nat) (h : IsStorable t) :
    IsStorable (decimalDigits fuel n t) := by
  induction fuel generalizing n t with
  | zero => exact h
  | succ fuel ih =>
    have hdigit : ∀ k < 10, (CodePoint.ofNat (0x30 + k)).isStorable = true := by decide
    have hcons : IsStorable (CodePoint.ofNat (0x30 + n % 10) :: t) :=
      storable_cons.2 ⟨hdigit _ (Nat.mod_lt _ (by decide)), h⟩
    rw [decimalDigits]
    split
    · exact hcons
    · exact ih _ hcons

theorem storable_ofNat (n : Nat) : IsStorable (ofNat n) := storable_decimalDigits _ _ storable_nil

theorem storable_ofInt (i : Int) : IsStorable (ofInt i) := by
  unfold ofInt
  split
  · exact storable_cons.2 ⟨by decide, storable_ofNat _⟩
  · exact storable_ofNat _

theorem storable_hex (width n : Nat) : IsStorable (hex width n) := by
  induction width generalizing n with
  | zero => exact storable_nil
  | succ width ih =>
    rw [hex, storable_append]
    exact ⟨ih _, storable_cons.2 ⟨storable_digit _ (Nat.mod_lt _ (by decide)), storable_nil⟩⟩

theorem storable_numericEscape (c : CodePoint) : IsStorable (numericEscape c) := by
  unfold numericEscape
  split
  · exact storable_append.2 ⟨by decide, storable_hex _ _⟩
  · split <;> exact storable_append.2 ⟨by decide, storable_hex _ _⟩

theorem storable_quoteFor (t : Text) : (quoteFor t).isStorable = true := by
  unfold quoteFor
  split <;> decide

theorem storable_escapePoint {quote : CodePoint} (hq : quote.isStorable = true) (c : CodePoint) :
    IsStorable (escapePoint quote c) := by
  have hpair : ∀ d : CodePoint, d.isStorable = true → IsStorable ['\\', d] := fun d hd =>
    storable_cons.2 ⟨by decide, storable_cons.2 ⟨hd, storable_nil⟩⟩
  unfold escapePoint
  split
  · rename_i hc
    exact hpair c (hc ▸ hq)
  · split
    · rename_i letter hl
      obtain ⟨l₁, l₂, hmem, -⟩ := List.lookup_eq_some_iff.1 hl
      have hletters : ∀ p ∈ shortEscapes, p.2.isStorable = true := by decide
      exact hpair letter (hletters (c, letter) (hmem ▸ by simp))
    · split
      · rename_i hp
        exact storable_cons.2 ⟨isStorable_of_isPrintable hp, storable_nil⟩
      · exact storable_numericEscape c

theorem storable_quoted (t : Text) : IsStorable (quoted t) := by
  have hq := storable_quoteFor t
  have hbody : IsStorable (t.flatMap (escapePoint (quoteFor t))) := by
    intro d hd
    obtain ⟨c, -, hd⟩ := List.mem_flatMap.1 hd
    exact storable_escapePoint hq c d hd
  have hend : IsStorable [quoteFor t] := storable_cons.2 ⟨hq, storable_nil⟩
  exact storable_cons.2 ⟨hq, storable_append.2 ⟨hbody, hend⟩⟩

theorem storable_substitute (hv : IsStorable value) (ht : IsStorable t) :
    IsStorable (substitute marker value t) := by
  suffices h : ∀ skip, IsStorable (substituteFrom marker value skip t) from h 0
  intro skip
  induction t generalizing skip with
  | nil => exact storable_nil
  | cons c r ih =>
    obtain ⟨hc, hr⟩ := storable_cons.1 ht
    cases skip with
    | succ skip => exact ih hr skip
    | zero =>
      rw [substituteFrom]
      split
      · exact storable_append.2 ⟨hv, ih hr _⟩
      · exact storable_cons.2 ⟨hc, ih hr 0⟩

theorem storable_of_mem_pieces (h : IsStorable t) : ∀ p ∈ pieces marker t, IsStorable p := by
  suffices hfuel : ∀ fuel t, IsStorable t → ∀ p ∈ piecesFuel marker fuel t, IsStorable p from hfuel _ t h
  intro fuel
  induction fuel with
  | zero =>
    intro t ht p hp
    exact List.mem_singleton.1 hp ▸ ht
  | succ fuel ih =>
    intro t ht p hp
    rw [piecesFuel] at hp
    split at hp
    · rename_i before after hbreak
      rw [breakOn_eq_some hbreak, storable_append, storable_append] at ht
      rcases List.mem_cons.1 hp with rfl | hp
      · exact ht.1.1
      · exact ih after ht.2 p hp
    · exact List.mem_singleton.1 hp ▸ ht

end DocPress.Text
