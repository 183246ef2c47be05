import DocPress.Proofs.Yields
import DocPress.Toml.Line

namespace DocPress.Toml

namespace Scan

variable {before after : Array CodePoint} {s : Scan} {i : Nat} {c : CodePoint}

/-- The same scan as part of one of more text. -/
def within (before after : Array CodePoint) (s : Scan) : Scan :=
  { s with cells := before ++ s.cells ++ after }

def EndsLine (cells : Array CodePoint) : Prop := cells[cells.size - 1]? = some ('\n' : CodePoint)

/-- What is scanned ends in a newline, and so does what comes before and after it, if anything does. -/
structure Fits (before after : Array CodePoint) (s : Scan) : Prop where
  cells : EndsLine s.cells
  before : before = #[] ∨ EndsLine before
  after : after = #[] ∨ EndsLine after

theorem EndsLine.size_pos {cells : Array CodePoint} (h : EndsLine cells) : 0 < cells.size := by
  have := (Array.getElem?_eq_some_iff.1 h).1
  omega

theorem Fits.last (h : Fits before after s) : s.at? (-1) = some ('\n' : CodePoint) := by
  have hpos := h.cells.size_pos
  have hneg : ¬(0 : Int) ≤ -1 := by omega
  have hone : (-1 : Int).natAbs ≤ s.cells.size := by omega
  rw [at?, if_neg hneg, if_pos hone]
  exact h.cells

theorem Fits.above (h : Fits before after s) :
    (s.within before after).at? ((before.size : Int) + -1) = some ('\n' : CodePoint) := by
  have hpos := h.cells.size_pos
  rcases h.before with rfl | hbefore
  · -- The code point before the first one is the last of all.
    rcases h.after with rfl | hafter
    · have hneg : ¬(0 : Int) ≤ ((#[] : Array CodePoint).size : Int) + -1 := by simp
      rw [at?, if_neg hneg]
      simpa [within, EndsLine, Nat.succ_le_iff, hpos] using h.cells
    · have hneg : ¬(0 : Int) ≤ ((#[] : Array CodePoint).size : Int) + -1 := by simp
      have hpos' := hafter.size_pos
      have hindex : s.cells.size + after.size - 1 - s.cells.size = after.size - 1 := by omega
      have hone : 1 ≤ s.cells.size + after.size := by omega
      rw [at?, if_neg hneg]
      simp only [within, Array.empty_append, Array.size_append, List.size_toArray, List.length_nil]
      rw [if_pos (by simpa using hone), Array.getElem?_append_right (by simp; omega)]
      simpa [hindex, EndsLine] using hafter
  · have hpos' := hbefore.size_pos
    have hnonneg : (0 : Int) ≤ (before.size : Int) + -1 := by omega
    have hindex : ((before.size : Int) + -1).toNat = before.size - 1 := by omega
    rw [at?, if_pos hnonneg, hindex]
    simp only [within, Array.append_assoc]
    rw [Array.getElem?_append_left (by omega)]
    exact hbefore

theorem getElem?_within {j : Nat} (hj : j < s.cells.size) :
    (s.within before after).cells[before.size + j]? = s.cells[j]? := by
  unfold within
  rw [Array.getElem?_append_left (by simp; omega), Array.getElem?_append_right (by omega)]
  congr 1
  omega

theorem at?_within (h : Fits before after s) {j : Int} (hlow : -1 ≤ j) (hhigh : j < s.cells.size) :
    (s.within before after).at? (before.size + j) = s.at? j := by
  by_cases hj : j = -1
  · rw [hj, h.above, h.last]
  · obtain ⟨k, rfl⟩ : ∃ k : Nat, j = k := ⟨j.toNat, by omega⟩
    have hnonneg : (0 : Int) ≤ before.size + k := by omega
    have hk : (0 : Int) ≤ k := by omega
    rw [at?, at?, if_pos hnonneg, if_pos hk]
    exact getElem?_within (by omega)

theorem at?_within_of_eq (h : Fits before after s) {j k : Int} (hj : j = before.size + k)
    (hlow : -1 ≤ k) (hhigh : k < s.cells.size) : (s.within before after).at? j = s.at? k := by
  rw [hj, at?_within h hlow hhigh]

theorem at?_within_pred (h : Fits before after s) (hi : i < s.cells.size) :
    (s.within before after).at? (((before.size + i : Nat) : Int) - 1) = s.at? ((i : Int) - 1) :=
  at?_within_of_eq h (by omega) (by omega) (by omega)

theorem at?_within_succ (h : Fits before after s) (hi : i + 1 < s.cells.size) :
    (s.within before after).at? (((before.size + i : Nat) : Int) + 1) = s.at? ((i : Int) + 1) :=
  at?_within_of_eq h (by omega) (by omega) (by omega)

theorem put_eq (i : Nat) (c : CodePoint) :
    s.put i c = { s with cells := s.cells.setIfInBounds i c } := by
  have hi : (0 : Int) ≤ i := by omega
  rw [put, if_pos hi]
  rfl

theorem put_within (hi : i < s.cells.size) (c : CodePoint) :
    (s.within before after).put (before.size + i : Nat) c = (s.put i c).within before after := by
  have hcells : (before ++ s.cells ++ after).setIfInBounds (before.size + i) c =
      before ++ s.cells.setIfInBounds i c ++ after := by
    apply Array.ext'
    simp [hi]
  rw [put_eq, put_eq]
  simp only [within, hcells]

theorem ite_eq_apply {α β : Type} {p : Prop} [Decidable p] (f : α → β) {a b : β} {a' b' : α}
    (ha : a = f a') (hb : b = f b') : (if p then a else b) = f (if p then a' else b') := by
  split
  · exact ha
  · exact hb

theorem toggle_within (c : CodePoint) (triple : Bool) :
    (s.within before after).toggle c triple = (s.toggle c triple).within before after := by
  cases triple
  · cases hs : s.inString <;> simp [toggle, within, hs]
  · cases hs : s.multiline <;> simp [toggle, within, hs]

theorem ne_newline_of_at? (h : Fits before after s) (hc : c ≠ '\n') {j : Int}
    (hj : s.at? j = some c) :
    j ≠ -1 := by
  rintro rfl
  rw [h.last] at hj
  exact hc (Option.some.inj hj).symm

theorem countBefore_within (h : Fits before after s) (hi : i < s.cells.size) (hc : c ≠ '\n') :
    (s.within before after).countBefore (before.size + i : Nat) c = s.countBefore i c := by
  unfold countBefore
  rw [at?_within_pred h hi]
  by_cases hone : s.at? ((i : Int) - 1) = some c
  · have hpos := ne_newline_of_at? h hc hone
    have htwo : (s.within before after).at? (((before.size + i : Nat) : Int) - 2) =
        s.at? ((i : Int) - 2) := at?_within_of_eq h (by omega) (by omega) (by omega)
    rw [htwo]
  · simp only [if_pos hone]

theorem countBefore_le (h : Fits before after s) (hc : c ≠ '\n') : s.countBefore i c ≤ i := by
  unfold countBefore
  split
  · omega
  · rename_i hone
    have hone := ne_newline_of_at? h hc (Decidable.not_not.1 hone)
    split
    · omega
    · rename_i htwo
      have htwo := ne_newline_of_at? h hc (Decidable.not_not.1 htwo)
      omega

theorem escapedFuel_succ (fuel : Nat) (j : Int) :
    s.escapedFuel (fuel + 1) j =
      if s.at? (j - 1) = some ('\\' : CodePoint) then !s.escapedFuel fuel (j - 1) else false := rfl

theorem escapedFuel_within (h : Fits before after s) {fuel fuel' : Nat} (hi : i ≤ s.cells.size)
    (hf : i < fuel) (hf' : i < fuel') :
    (s.within before after).escapedFuel fuel' ((before.size + i : Nat) : Int) =
      s.escapedFuel fuel i := by
  obtain ⟨fuel, rfl⟩ : ∃ n, fuel = n + 1 := ⟨fuel - 1, by omega⟩
  obtain ⟨fuel', rfl⟩ : ∃ n, fuel' = n + 1 := ⟨fuel' - 1, by omega⟩
  have hpred : (s.within before after).at? (((before.size + i : Nat) : Int) - 1) =
      s.at? ((i : Int) - 1) := at?_within_of_eq h (by omega) (by omega) (by omega)
  induction i generalizing fuel fuel' with
  | zero =>
    have hstop : s.at? (((0 : Nat) : Int) - 1) ≠ some ('\\' : CodePoint) := by
      rw [show ((0 : Nat) : Int) - 1 = -1 by omega, h.last]
      decide
    rw [escapedFuel_succ, escapedFuel_succ, hpred, if_neg hstop, if_neg hstop]
  | succ i ih =>
    rw [escapedFuel_succ, escapedFuel_succ, hpred]
    by_cases hslash : s.at? (((i + 1 : Nat) : Int) - 1) = some ('\\' : CodePoint)
    · obtain ⟨fuel, rfl⟩ : ∃ n, fuel = n + 1 := ⟨fuel - 1, by omega⟩
      obtain ⟨fuel', rfl⟩ : ∃ n, fuel' = n + 1 := ⟨fuel' - 1, by omega⟩
      have hback : ((before.size + (i + 1) : Nat) : Int) - 1 = ((before.size + i : Nat) : Int) := by
        omega
      have hback' : ((i + 1 : Nat) : Int) - 1 = (i : Int) := by omega
      rw [if_pos hslash, if_pos hslash, hback, hback']
      refine congrArg _ (ih (by omega) fuel (by omega) fuel' (by omega) ?_)
      exact at?_within_of_eq h (by omega) (by omega) (by omega)
    · rw [if_neg hslash, if_neg hslash]

theorem isEscaped_within (h : Fits before after s) (hi : i ≤ s.cells.size) :
    (s.within before after).isEscaped ((before.size + i : Nat) : Int) = s.isEscaped i := by
  refine escapedFuel_within h hi (by omega) ?_
  simp only [within, Array.size_append]
  omega

theorem singleQuote_within (h : Fits before after s) (hi : i < s.cells.size) :
    (s.within before after).singleQuote (before.size + i) =
      (s.singleQuote i).within before after := by
  rw [singleQuote, singleQuote, countBefore_within h hi (by decide), toggle_within]

theorem doubleQuote_within (h : Fits before after s) (hi : i < s.cells.size) :
    (s.within before after).doubleQuote (before.size + i) =
      (s.doubleQuote i).within before after := by
  have hle := countBefore_le (i := i) h (c := Text.doubleQuote) (by decide)
  have hback : ((before.size + i : Nat) : Int) - (s.countBefore i Text.doubleQuote : Nat) =
      ((before.size + (i - s.countBefore i Text.doubleQuote) : Nat) : Int) := by omega
  have hback' : (i : Int) - (s.countBefore i Text.doubleQuote : Nat) =
      ((i - s.countBefore i Text.doubleQuote : Nat) : Int) := by omega
  have hescaped : (s.within before after).isEscaped
      (((before.size + i : Nat) : Int) - (s.countBefore i Text.doubleQuote : Nat)) =
        s.isEscaped ((i : Int) - (s.countBefore i Text.doubleQuote : Nat)) := by
    rw [hback, hback', isEscaped_within h (by omega)]
  unfold doubleQuote
  simp only [countBefore_within h hi (by decide : Text.doubleQuote ≠ '\n'), hescaped, toggle_within]
  exact ite_eq_apply _ rfl rfl

theorem awaitPart_within (h : Fits before after s) (hi : i + 1 < s.cells.size) :
    (s.within before after).awaitPart (before.size + i) =
      (s.awaitPart i).map (within before after) := by
  unfold awaitPart
  rw [at?_within_succ h hi]
  cases s.at? ((i : Int) + 1) with
  | none => rfl
  | some next => exact congrArg Except.ok (ite_eq_apply _ rfl rfl)

theorem bracketOpens_within (h : Fits before after s) (hi : i + 1 < s.cells.size) :
    (s.within before after).bracketOpens (before.size + i) =
      (s.bracketOpens i).within before after := by
  unfold bracketOpens
  rw [at?_within_succ h hi]
  exact ite_eq_apply _ (ite_eq_apply _ rfl rfl) rfl

theorem bracketCloses_within (h : Fits before after s) (hi : i < s.cells.size) :
    (s.within before after).bracketCloses (before.size + i) =
      (s.bracketCloses i).within before after := by
  unfold bracketCloses
  rw [at?_within_pred h hi]
  exact ite_eq_apply _ rfl (ite_eq_apply _ (ite_eq_apply _ rfl rfl) rfl)

theorem keyStep_within (h : Fits before after s) (hi : i + 1 < s.cells.size) :
    (s.within before after).keyStep (before.size + i) c =
      (s.keyStep i c).map fun p => (p.1.within before after, p.2) := by
  have hawait : ∀ s : Scan, Fits before after s → i + 1 < s.cells.size →
      (do return (← (s.within before after).awaitPart (before.size + i), false) :
        Except Fault (Scan × Bool)) =
      (do return (← s.awaitPart i, false) : Except Fault (Scan × Bool)).map
        fun p => (p.1.within before after, p.2) := by
    intro s h hi
    rw [awaitPart_within h hi]
    cases s.awaitPart i <;> rfl
  have hdotted : Fits before after { s with dotted := true } := ⟨h.cells, h.before, h.after⟩
  unfold keyStep
  rw [at?_within_pred h (by omega)]
  refine ite_eq_apply _ rfl ?_
  refine ite_eq_apply _ (ite_eq_apply _ rfl rfl) ?_
  refine ite_eq_apply _ rfl (ite_eq_apply _ rfl (ite_eq_apply _ rfl (ite_eq_apply _ rfl ?_)))
  refine ite_eq_apply _ (ite_eq_apply _ (hawait s h hi) rfl) ?_
  refine ite_eq_apply _ (hawait _ hdotted hi) (ite_eq_apply _ rfl rfl)

section Stages

/-- A value step goes by stages: what a quote does comes first. -/
def quoted (s : Scan) (i : Nat) (c : CodePoint) : Scan :=
  let s := if c = Text.singleQuote ∧ s.quote ≠ some Text.doubleQuote then s.singleQuote i else s
  if c = Text.doubleQuote ∧ s.quote ≠ some Text.singleQuote then s.doubleQuote i else s

def isFree (s : Scan) : Bool := !s.inString && !s.inHeader && !s.inArrayHeader

def commented (s : Scan) (i : Nat) (starts : Bool) : Scan :=
  if starts then { s.put i ' ' with inComment := true } else s

def bracketed (s : Scan) (i : Nat) (c : CodePoint) (free : Bool) : Scan :=
  let s := if c = '[' ∧ free then s.bracketOpens i else s
  if c = ']' ∧ !s.inString then s.bracketCloses i else s

/-- The first code point of a line begins a key, unless it opens a header. -/
def begun (s : Scan) (c : CodePoint) (starts : Bool) : Except Fault Scan :=
  if s.lineStart ∧ !starts ∧ c ≠ ' ' ∧ c ≠ '\t' then
    if s.inHeader ∨ s.inArrayHeader then .ok { s with lineStart := false }
    else if c = '=' then .error .malformed
    else .ok { s with lineStart := false, key := .inside }
  else .ok s

theorem valueStep_eq (s : Scan) (i : Nat) (c : CodePoint) :
    s.valueStep i c =
      let q := s.quoted i c
      let starts := c == '#' && q.isFree
      let b := (q.commented i starts).bracketed i c q.isFree
      if c = '\n' then b.newline i else b.begun c starts := rfl

theorem Fits.of_cells (h : Fits before after s) {s' : Scan} (hcells : s'.cells = s.cells) :
    Fits before after s' := ⟨hcells ▸ h.cells, h.before, h.after⟩

theorem cells_toggle (c : CodePoint) (triple : Bool) : (s.toggle c triple).cells = s.cells := by
  cases triple <;> rfl

theorem cells_ite {p : Prop} [Decidable p] {s s' : Scan} {cells : Array CodePoint}
    (h' : s'.cells = cells) (h : s.cells = cells) : (if p then s' else s).cells = cells := by
  split
  · exact h'
  · exact h

theorem cells_quoted (c : CodePoint) : (s.quoted i c).cells = s.cells := by
  have hdouble : ∀ s : Scan, (s.doubleQuote i).cells = s.cells := fun s =>
    cells_ite rfl (cells_toggle _ _)
  have hfirst : (if c = Text.singleQuote ∧ s.quote ≠ some Text.doubleQuote then
      s.singleQuote i else s).cells = s.cells := cells_ite (cells_toggle _ _) rfl
  exact cells_ite ((hdouble _).trans hfirst) hfirst

theorem cells_bracketed (c : CodePoint) (free : Bool) : (s.bracketed i c free).cells = s.cells := by
  have hopens : ∀ s : Scan, (s.bracketOpens i).cells = s.cells := fun s =>
    cells_ite (cells_ite rfl rfl) rfl
  have hcloses : ∀ s : Scan, (s.bracketCloses i).cells = s.cells := fun s =>
    cells_ite rfl (cells_ite (cells_ite rfl rfl) rfl)
  have hfirst : (if c = '[' ∧ free then s.bracketOpens i else s).cells = s.cells :=
    cells_ite (hopens s) rfl
  exact cells_ite ((hcloses _).trans hfirst) hfirst

theorem quoted_within (h : Fits before after s) (hi : i < s.cells.size) (c : CodePoint) :
    (s.within before after).quoted (before.size + i) c = (s.quoted i c).within before after := by
  unfold quoted
  simp only
  have hsingle : (if c = Text.singleQuote ∧ (s.within before after).quote ≠ some Text.doubleQuote
      then
      (s.within before after).singleQuote (before.size + i) else s.within before after) =
      within before after (if c = Text.singleQuote ∧ s.quote ≠ some Text.doubleQuote then
        s.singleQuote i else s) := ite_eq_apply _ (singleQuote_within h hi) rfl
  rw [hsingle]
  have hcells : (if c = Text.singleQuote ∧ s.quote ≠ some Text.doubleQuote then
      s.singleQuote i else s).cells = s.cells := by
    split
    · exact cells_toggle _ _
    · rfl
  exact ite_eq_apply _ (doubleQuote_within (h.of_cells hcells) (by rw [hcells]; exact hi)) rfl

theorem commented_within (hi : i < s.cells.size) (starts : Bool) :
    (s.within before after).commented (before.size + i) starts =
      (s.commented i starts).within before after := by
  unfold commented
  rw [put_within hi]
  exact ite_eq_apply _ rfl rfl

theorem bracketed_within (h : Fits before after s) (hi : i + 1 < s.cells.size) (c : CodePoint)
    (free : Bool) :
    (s.within before after).bracketed (before.size + i) c free =
      (s.bracketed i c free).within before after := by
  have hfirst : (if c = '[' ∧ free then (s.within before after).bracketOpens (before.size + i)
      else s.within before after) =
      within before after (if c = '[' ∧ free then s.bracketOpens i else s) :=
    ite_eq_apply _ (bracketOpens_within h hi) rfl
  have hcells : (if c = '[' ∧ free then s.bracketOpens i else s).cells = s.cells :=
    cells_ite (cells_ite (cells_ite rfl rfl) rfl) rfl
  unfold bracketed
  rw [hfirst]
  exact ite_eq_apply _ (bracketCloses_within (h.of_cells hcells) (by rw [hcells]; omega)) rfl

theorem begun_within (c : CodePoint) (starts : Bool) :
    (s.within before after).begun c starts = (s.begun c starts).map (within before after) :=
  ite_eq_apply _ (ite_eq_apply _ rfl (ite_eq_apply _ rfl rfl)) rfl

/-- A step at a position puts a blank there, or leaves the text as it is. -/
def Blanks (i : Nat) (s s' : Scan) : Prop :=
  s'.cells = s.cells ∨ s'.cells = s.cells.setIfInBounds i ' '

theorem Blanks.size_eq {s s' : Scan} (h : Blanks i s s') : s'.cells.size = s.cells.size := by
  rcases h with h | h <;> simp [h]

theorem Blanks.getElem?_eq {s s' : Scan} (h : Blanks i s s') {j : Nat} (hj : i ≠ j) :
    s'.cells[j]? = s.cells[j]? := by
  rcases h with h | h
  · rw [h]
  · rw [h, Array.getElem?_setIfInBounds_ne hj]

theorem Fits.of_blanks (h : Fits before after s) {s' : Scan} (hb : Blanks i s s')
    (hi : i + 1 < s.cells.size) : Fits before after s' := by
  refine ⟨?_, h.before, h.after⟩
  rw [EndsLine, hb.size_eq, hb.getElem?_eq (by omega)]
  exact h.cells

theorem blanks_commented (starts : Bool) : Blanks i s (s.commented i starts) := by
  unfold commented
  split
  · exact .inr (by rw [put_eq])
  · exact .inl rfl

theorem valueStep_within (h : Fits before after s) (hi : i + 1 < s.cells.size) (hc : c ≠ '\n') :
    (s.within before after).valueStep (before.size + i) c =
      (s.valueStep i c).map (within before after) := by
  have hquoted := cells_quoted (s := s) (i := i) c
  have hfree : ((s.quoted i c).within before after).isFree = (s.quoted i c).isFree := rfl
  have hfits := h.of_cells hquoted
  rw [valueStep_eq, valueStep_eq]
  simp only [if_neg hc]
  rw [quoted_within h (by omega), hfree, commented_within (by rw [hquoted]; omega)]
  have hblanks := blanks_commented (s := s.quoted i c) (i := i) (c == '#' && (s.quoted i c).isFree)
  have hsize := hblanks.size_eq.trans (congrArg Array.size hquoted)
  rw [bracketed_within (hfits.of_blanks hblanks (by rw [hquoted]; exact hi))
    (by rw [hsize]; exact hi),
    begun_within]

theorem yields_begun (c : CodePoint) (starts : Bool) :
    Yields (fun s' => s'.cells = s.cells) (s.begun c starts) := by
  unfold begun
  repeat' split
  · exact yields_pure rfl
  · exact yields_error _
  · exact yields_pure rfl
  · exact yields_pure rfl

theorem yields_valueStep (hc : c ≠ '\n') : Yields (Blanks i s) (s.valueStep i c) := by
  rw [valueStep_eq]
  simp only [if_neg hc]
  refine (yields_begun c _).imp fun s' hs' => ?_
  rw [cells_bracketed] at hs'
  have hblanks := blanks_commented (s := s.quoted i c) (i := i) (c == '#' && (s.quoted i c).isFree)
  rw [Blanks, cells_quoted] at hblanks
  exact hblanks.imp hs'.trans hs'.trans

theorem yields_awaitPart : Yields (fun s' => s'.cells = s.cells) (s.awaitPart i) := by
  unfold awaitPart
  split
  · exact yields_error _
  · exact yields_pure (cells_ite rfl rfl)

theorem yields_keyStep (c : CodePoint) :
    Yields (fun p => p.1.cells = s.cells) (s.keyStep i c) := by
  have hawait : ∀ s : Scan, Yields (fun p => p.1.cells = s.cells)
      (do return (← s.awaitPart i, false) : Except Fault (Scan × Bool)) := fun s =>
    yields_awaitPart.bind fun _ hs => yields_pure hs
  unfold keyStep
  repeat' split
  all_goals first | exact yields_error _ | exact yields_pure rfl | exact hawait s |
    exact hawait { s with dotted := true }

def advance (s : Scan) (i : Nat) (c : CodePoint) : Except Fault Scan :=
  if s.key = .outside then s.valueStep i c
  else do
    let (s, more) ← s.keyStep i c
    if more then s.valueStep i c else return s

theorem step_eq (hc : s.cells[i]? = some c) :
    s.step i = if s.inComment = true ∧ c ≠ '\n' then .ok (s.put i ' ')
      else advance { s with inComment := false } i c := by
  unfold step
  rw [hc]
  rfl

theorem advance_within (h : Fits before after s) (hi : i + 1 < s.cells.size) (hc : c ≠ '\n') :
    (s.within before after).advance (before.size + i) c =
      (s.advance i c).map (within before after) := by
  unfold advance
  refine ite_eq_apply _ (valueStep_within h hi hc) ?_
  rw [keyStep_within h hi]
  cases hrun : s.keyStep i c with
  | error fault => rfl
  | ok p =>
    obtain ⟨s', more⟩ := p
    have hcells : s'.cells = s.cells := (yields_keyStep c).of_eq_ok hrun
    cases more with
    | false => rfl
    | true => exact valueStep_within (h.of_cells hcells) (by rw [hcells]; exact hi) hc

theorem yields_advance (hc : c ≠ '\n') : Yields (Blanks i s) (s.advance i c) := by
  unfold advance
  split
  · exact yields_valueStep hc
  · refine (yields_keyStep c).bind fun p hp => ?_
    obtain ⟨s', more⟩ := p
    cases more with
    | false => exact yields_pure (.inl hp)
    | true =>
      refine (yields_valueStep hc).imp fun s'' hs'' => ?_
      rw [Blanks, hp] at hs''
      exact hs''

end Stages

/-- A step within a line depends on the line only. -/
theorem step_within (h : Fits before after s) (hi : i + 1 < s.cells.size)
    (hc : s.cells[i]? = some c) (hne : c ≠ '\n') :
    (s.within before after).step (before.size + i) = (s.step i).map (within before after) := by
  rw [step_eq hc, step_eq ((getElem?_within (by omega)).trans hc), put_within (by omega)]
  exact ite_eq_apply _ rfl
    (advance_within (s := { s with inComment := false }) (h.of_cells rfl) hi hne)

theorem yields_step (hc : s.cells[i]? = some c) (hne : c ≠ '\n') :
    Yields (Blanks i s) (s.step i) := by
  rw [step_eq hc]
  split
  · exact yields_pure (.inr (by rw [put_eq]))
  · exact yields_advance (s := { s with inComment := false }) hne

end Scan

end DocPress.Toml
