import DocPress.Proofs.Toml.Lines
import DocPress.Proofs.Toml.StringReading

namespace DocPress.Toml

open Text

/-- A key that needs no quotes. -/
structure IsBare (name : Text) : Prop where
  ne_nil : name ≠ []
  points : ∀ c ∈ name, isBareKeyPoint c = true

instance (name : Text) : Decidable (IsBare name) :=
  decidable_of_iff (name ≠ [] ∧ ∀ c ∈ name, isBareKeyPoint c = true)
    ⟨fun h => ⟨h.1, h.2⟩, fun h => ⟨h.ne_nil, h.points⟩⟩

/-- What is not a letter, a digit, an underscore or a dash does not stand in a key without quotes. -/
theorem ne_of_isBareKeyPoint {c d : CodePoint} (hd : isBareKeyPoint d = false)
    (hc : isBareKeyPoint c = true) : c ≠ d := by
  rintro rfl
  rw [hd] at hc
  cases hc

theorem IsBare.notMem {name : Text} (h : IsBare name) {c : CodePoint}
    (hc : isBareKeyPoint c = false) : c ∉ name :=
  fun hm => ne_of_isBareKeyPoint hc (h.points c hm) rfl

namespace Scan

variable {s s' : Scan} {i : Nat} {c : CodePoint} {pre u post : Text}

def steps (s : Scan) (i n : Nat) : Except Fault Scan := ((List.range n).map (i + ·)).foldlM step s

theorem steps_add (s : Scan) (i m n : Nat) :
    s.steps i (m + n) = s.steps i m >>= (·.steps (i + m) n) := by
  unfold steps
  rw [List.range_add, List.map_append, List.foldlM_append, List.map_map]
  simp only [Function.comp_def, Nat.add_assoc]

theorem steps_one (s : Scan) (i : Nat) : s.steps i 1 = s.step i := bind_pure (s.step i)

/-- A stretch of a text is scanned, from one state to another of the same text. -/
def Runs (s : Scan) (pre u : Text) (s' : Scan) : Prop :=
  s'.cells = s.cells ∧
    ∀ post, s.cells.toList = pre ++ u ++ post → s.steps pre.length u.length = .ok s'

theorem Runs.refl (s : Scan) (pre : Text) : s.Runs pre [] s := ⟨rfl, fun _ _ => rfl⟩

theorem Runs.append {v : Text} {s'' : Scan} (h : s.Runs pre u s') (h' : s'.Runs (pre ++ u) v s'') :
    s.Runs pre (u ++ v) s'' := by
  refine ⟨h'.1.trans h.1, fun post hpost => ?_⟩
  have hfirst := h.2 (v ++ post) (by rw [hpost]; simp)
  have hsecond := h'.2 post (by rw [h.1, hpost]; simp)
  rw [List.length_append, steps_add, hfirst]
  rw [List.length_append] at hsecond
  exact hsecond

theorem runs_singleton (hcells : s'.cells = s.cells)
    (h : ∀ post, s.cells.toList = pre ++ [c] ++ post → s.step pre.length = .ok s') :
    s.Runs pre [c] s' := ⟨hcells, fun post hpost => (steps_one s _).trans (h post hpost)⟩

theorem runs_of_forall (h : ∀ pre, ∀ c ∈ u, s.Runs pre [c] s) : s.Runs pre u s := by
  induction u generalizing pre with
  | nil => exact Runs.refl s pre
  | cons c r ih =>
    have hc := h pre c List.mem_cons_self
    exact hc.append (ih fun pre d hd => h pre d (List.mem_cons_of_mem c hd))

theorem getElem?_of_toList (h : s.cells.toList = pre ++ [c] ++ post) :
    s.cells[pre.length]? = some c := by
  rw [← Array.getElem?_toList, h]
  simp

theorem at?_of_toList {front : Text} (h : s.cells.toList = front ++ c :: post) {j : Int}
    (hj : j = front.length) : s.at? j = some c := by
  have hnonneg : (0 : Int) ≤ front.length := by omega
  rw [hj, at?, if_pos hnonneg, Int.toNat_natCast, ← Array.getElem?_toList, h]
  simp

theorem step_of_not_inComment (h : s.cells[i]? = some c) (hcomment : s.inComment = false) :
    s.step i = s.advance i c := by
  have hsame : ({ s with inComment := false } : Scan) = s := by
    rw [← hcomment]
  have hnot : ¬(s.inComment = true ∧ c ≠ '\n') := by simp [hcomment]
  rw [step_eq h, if_neg hnot, hsame]

theorem step_value (h : s.cells[i]? = some c) (hcomment : s.inComment = false)
    (hkey : s.key = .outside) : s.step i = s.valueStep i c := by
  rw [step_of_not_inComment h hcomment, advance, if_pos hkey]

theorem step_key (h : s.cells[i]? = some c) (hcomment : s.inComment = false)
    (hkey : s.key ≠ .outside) {s' : Scan} (hstep : s.keyStep i c = .ok (s', false)) :
    s.step i = .ok s' := by
  rw [step_of_not_inComment h hcomment, advance, if_neg hkey, hstep]
  rfl

/-- What is no quote, bracket, number sign or newline. -/
def IsPlain (c : CodePoint) : Prop := c ∉ text "\x27\x22#[]\n"

instance (c : CodePoint) : Decidable (IsPlain c) := inferInstanceAs (Decidable (_ ∉ _))

theorem IsPlain.ne (h : IsPlain c) {d : CodePoint} (hd : d ∈ text "\x27\x22#[]\n") : c ≠ d := by
  rintro rfl
  exact h hd

theorem isPlain_of_isBareKeyPoint (h : isBareKeyPoint c = true) : IsPlain c := by
  have hall : ∀ d ∈ text "\x27\x22#[]\n", isBareKeyPoint d = false := by decide
  intro hc
  rw [hall c hc] at h
  cases h

theorem valueStep_of_isPlain (h : IsPlain c) (s : Scan) (i : Nat) :
    s.valueStep i c = s.begun c false := by
  have hquoted : s.quoted i c = s := by
    have hsingle : ¬(c = Text.singleQuote ∧ s.quote ≠ some Text.doubleQuote) :=
      fun hc => h.ne (by decide) hc.1
    have hdouble : ¬(c = Text.doubleQuote ∧ s.quote ≠ some Text.singleQuote) :=
      fun hc => h.ne (by decide) hc.1
    simp only [quoted, if_neg hsingle, if_neg hdouble]
  have hbracketed : s.bracketed i c s.isFree = s := by
    have hopens : ¬(c = '[' ∧ s.isFree = true) := fun hc => h.ne (by decide) hc.1
    have hcloses : ¬(c = ']' ∧ (!s.inString) = true) := fun hc => h.ne (by decide) hc.1
    simp only [bracketed, if_neg hopens, if_neg hcloses]
  have hcomment : (c == '#' && s.isFree) = false := by
    rw [beq_eq_false_iff_ne.2 (h.ne (by decide)), Bool.false_and]
  have hnewline : c ≠ '\n' := h.ne (by decide)
  rw [valueStep_eq]
  simp only [hquoted, hcomment, commented, hbracketed, if_neg hnewline, Bool.false_eq_true,
    if_false]

theorem begun_of_not_lineStart (h : s.lineStart = false) (c : CodePoint) (starts : Bool) :
    s.begun c starts = .ok s := by
  simp [begun, h]

section Key

variable {t : Text}

def inKey (t : Text) : Scan := { start t with lineStart := false, key := .inside }

def behindKey (t : Text) : Scan := { start t with lineStart := false, key := .behind }

def inValue (t : Text) : Scan := { start t with lineStart := false }

def inQuotes (t : Text) : Scan :=
  { inValue t with inString := true, quote := some Text.doubleQuote }

theorem runs_start_key (h : isBareKeyPoint c = true) : (start t).Runs pre [c] (inKey t) := by
  refine runs_singleton rfl fun post hpost => ?_
  rw [step_value (getElem?_of_toList hpost) rfl rfl,
    valueStep_of_isPlain (isPlain_of_isBareKeyPoint h)]
  have hne : ∀ d, isBareKeyPoint d = false → c ≠ d := fun d hd => ne_of_isBareKeyPoint hd h
  simp [begun, start, inKey, hne ' ' (by decide), hne '\t' (by decide), hne '=' (by decide)]

theorem isLetterOrNumeral_of_isAlphanumeric (h : c.isAlphanumeric = true) :
    c.isLetterOrNumeral = true := by
  have hmem : (0x30, 0x39) ∈ wordRanges ∧ (0x41, 0x5a) ∈ wordRanges ∧ (0x61, 0x7a) ∈ wordRanges :=
    ⟨List.Mem.head _, List.Mem.tail _ (List.Mem.head _),
      List.Mem.tail _ (List.Mem.tail _ (List.Mem.head _))⟩
  unfold CodePoint.isAlphanumeric CodePoint.isLetter at h
  rw [Bool.or_eq_true, Bool.or_eq_true] at h
  refine List.any_eq_true.2 ?_
  rcases h with (h | h) | h
  · exact ⟨_, hmem.2.1, h⟩
  · exact ⟨_, hmem.2.2, h⟩
  · exact ⟨_, hmem.1, h⟩

theorem isBlank_of_isBareKeyPoint (h : isBareKeyPoint c = true) : c.isBlank = false := by
  have hval : 0x2d ≤ c.val ∧ c.val ≤ 0x7a := by
    simp only [isBareKeyPoint, CodePoint.isAlphanumeric, CodePoint.isLetter, CodePoint.isUpper,
      CodePoint.isLower, CodePoint.isDigit, Bool.or_eq_true, Bool.and_eq_true, decide_eq_true_eq,
      beq_iff_eq] at h
    rcases h with (((h | h) | h) | h) | h
    · omega
    · omega
    · omega
    · subst h
      decide
    · subst h
      decide
  simp only [CodePoint.isBlank, Bool.or_eq_false_iff, Bool.and_eq_false_iff,
    decide_eq_false_iff_not,
    beq_eq_false_iff_ne]
  omega

theorem runs_inKey (h : isBareKeyPoint c = true) : (inKey t).Runs pre [c] (inKey t) := by
  refine runs_singleton rfl fun post hpost => ?_
  refine step_key (getElem?_of_toList hpost) rfl KeyState.noConfusion ?_
  have hne : ∀ d, isBareKeyPoint d = false → c ≠ d := fun d hd => ne_of_isBareKeyPoint hd h
  have hword : (c.isLetterOrNumeral || c == '_' || c == '-') = true := by
    simp only [isBareKeyPoint, Bool.or_eq_true] at h ⊢
    exact h.imp_left (Or.imp_left isLetterOrNumeral_of_isAlphanumeric)
  unfold keyStep
  simp only [inKey, start, if_neg (hne '\n' (by decide)), isBlank_of_isBareKeyPoint h, hword,
    hne '.' (by decide), and_true, and_false, if_true, Bool.false_eq_true, if_false]
  rfl

theorem runs_behindKey : (inKey t).Runs pre [' '] (behindKey t) := by
  refine runs_singleton rfl fun post hpost => ?_
  exact step_key (getElem?_of_toList hpost) rfl KeyState.noConfusion rfl

theorem runs_equals : (behindKey t).Runs pre ['='] (inValue t) := by
  refine runs_singleton rfl fun post hpost => ?_
  have hplain : (inValue t).valueStep pre.length '=' = .ok (inValue t) := by
    rw [valueStep_of_isPlain (by decide)]
    exact begun_of_not_lineStart rfl _ _
  rw [step_of_not_inComment (getElem?_of_toList hpost) rfl]
  exact hplain

theorem runs_space : (inValue t).Runs pre [' '] (inValue t) := by
  refine runs_singleton rfl fun post hpost => ?_
  rw [step_value (getElem?_of_toList hpost) rfl rfl, valueStep_of_isPlain (by decide)]
  exact begun_of_not_lineStart rfl _ _

theorem runs_key {name : Text} (h : IsBare name) :
    (start t).Runs [] (name ++ text " = ") (inValue t) := by
  obtain ⟨c, r, rfl⟩ := List.exists_cons_of_ne_nil h.ne_nil
  obtain ⟨hc, hr⟩ := List.forall_mem_cons.1 h.points
  have hname : (start t).Runs [] (c :: r) (inKey t) :=
    (runs_start_key hc).append (runs_of_forall fun pre d hd => runs_inKey (hr d hd))
  have hend : (inKey t).Runs (c :: r) (text " = ") (inValue t) :=
    runs_behindKey.append (runs_equals.append runs_space)
  exact hname.append hend

end Key

section Quotes

variable {t : Text}

theorem valueStep_inQuotes (hquote : c ≠ Text.doubleQuote) (hnewline : c ≠ '\n') (i : Nat) :
    (inQuotes t).valueStep i c = .ok (inQuotes t) := by
  have hquoted : (inQuotes t).quoted i c = inQuotes t := by
    have hsingle : ¬(c = Text.singleQuote ∧ (inQuotes t).quote ≠ some Text.doubleQuote) :=
      fun hc => hc.2 rfl
    have hdouble : ¬(c = Text.doubleQuote ∧ (inQuotes t).quote ≠ some Text.singleQuote) :=
      fun hc => hquote hc.1
    simp only [quoted, if_neg hsingle, if_neg hdouble]
  have hfree : (inQuotes t).isFree = false := rfl
  have hbracketed : (inQuotes t).bracketed i c false = inQuotes t := by
    have hopens : ¬(c = '[' ∧ false = true) := fun hc => by cases hc.2
    have hcloses : ¬(c = ']' ∧ (!(inQuotes t).inString) = true) := fun hc => by cases hc.2
    simp only [bracketed, if_neg hopens, if_neg hcloses]
  rw [valueStep_eq]
  simp only [hquoted, hfree, Bool.and_false, commented, hbracketed, if_neg hnewline,
    Bool.false_eq_true, if_false]
  exact begun_of_not_lineStart rfl _ _

theorem runs_inQuotes (hquote : c ≠ Text.doubleQuote) (hnewline : c ≠ '\n') :
    (inQuotes t).Runs pre [c] (inQuotes t) := by
  refine runs_singleton rfl fun post hpost => ?_
  rw [step_value (getElem?_of_toList hpost) rfl rfl]
  exact valueStep_inQuotes hquote hnewline _

theorem lineStart_doubleQuote (s : Scan) (i : Nat) : (s.doubleQuote i).lineStart = s.lineStart := by
  have htoggle : ∀ triple, (s.toggle Text.doubleQuote triple).lineStart = s.lineStart := by
    intro triple
    cases triple <;> rfl
  unfold doubleQuote
  simp only
  split
  · rfl
  · exact htoggle _

theorem valueStep_doubleQuote (h : s.quote ≠ some Text.singleQuote) (hstart : s.lineStart = false)
    (i : Nat) : s.valueStep i Text.doubleQuote = .ok (s.doubleQuote i) := by
  have hquoted : s.quoted i Text.doubleQuote = s.doubleQuote i := by
    have hsingle : ¬(Text.doubleQuote = Text.singleQuote ∧ s.quote ≠ some Text.doubleQuote) :=
      fun hc => absurd hc.1 (by decide)
    simp only [quoted, if_neg hsingle, true_and, if_pos h]
  have hcomment : (Text.doubleQuote == ('#' : CodePoint)) = false := rfl
  have hbracketed : ∀ s : Scan, s.bracketed i Text.doubleQuote s.isFree = s := fun s => by
    have hopens : ¬(Text.doubleQuote = '[' ∧ s.isFree = true) := fun hc => absurd hc.1 (by decide)
    have hcloses : ¬(Text.doubleQuote = ']' ∧ (!s.inString) = true) :=
      fun hc => absurd hc.1 (by decide)
    simp only [bracketed, if_neg hopens, if_neg hcloses]
  have hnewline : Text.doubleQuote ≠ '\n' := by decide
  rw [valueStep_eq]
  simp only [hquoted, hcomment, Bool.false_and, commented, hbracketed, if_neg hnewline,
    Bool.false_eq_true, if_false]
  exact begun_of_not_lineStart ((lineStart_doubleQuote s i).trans hstart) _ _

theorem escapedFuel_eq (h : EndsLine s.cells) {fuel : Nat} (hi : i ≤ s.cells.size) (hf : i < fuel) :
    s.escapedFuel fuel i = endsInOddBackslashes (s.cells.toList.take i) := by
  have hfits : Fits #[] #[] s := ⟨h, .inl rfl, .inl rfl⟩
  have hlast : s.at? (-1) = some ('\n' : CodePoint) := hfits.last
  induction i generalizing fuel with
  | zero =>
    obtain ⟨fuel, rfl⟩ : ∃ n, fuel = n + 1 := ⟨fuel - 1, by omega⟩
    have hstop : s.at? (((0 : Nat) : Int) - 1) ≠ some ('\\' : CodePoint) := by
      rw [show ((0 : Nat) : Int) - 1 = -1 by omega, hlast]
      decide
    rw [escapedFuel_succ, if_neg hstop, List.take_zero]
    rfl
  | succ i ih =>
    obtain ⟨fuel, rfl⟩ : ∃ n, fuel = n + 1 := ⟨fuel - 1, by omega⟩
    have hback : ((i + 1 : Nat) : Int) - 1 = (i : Int) := by omega
    have hlt : i < s.cells.toList.length := hi
    have hget : s.at? (i : Int) = some s.cells.toList[i] := by
      have hnonneg : (0 : Int) ≤ i := by omega
      rw [at?, if_pos hnonneg, Int.toNat_natCast, ← Array.getElem?_toList,
        List.getElem?_eq_getElem hlt]
    rw [escapedFuel_succ, hback, ih (by omega) (by omega), hget,
      List.take_succ_eq_append_getElem hlt,
      endsInOddBackslashes_concat]
    by_cases hc : s.cells.toList[i] = backslash
    · have hsome : some s.cells.toList[i] = some ('\\' : CodePoint) := congrArg some hc
      rw [if_pos hc, if_pos hsome]
    · have hsome : some s.cells.toList[i] ≠ some ('\\' : CodePoint) :=
        fun h => hc (Option.some.inj h)
      rw [if_neg hc, if_neg hsome]

theorem isEscaped_eq (h : EndsLine s.cells) (hpre : s.cells.toList = pre ++ post) :
    s.isEscaped (pre.length : Int) = endsInOddBackslashes pre := by
  have hle : pre.length ≤ s.cells.size := by
    rw [← Array.length_toList, hpre, List.length_append]
    omega
  rw [isEscaped, escapedFuel_eq h hle (by omega), hpre, List.take_left]

theorem countBefore_eq_zero {d : CodePoint} {front : Text} (h : s.cells.toList = front ++ d :: post)
    (hd : d ≠ c) : s.countBefore ((front ++ [d]).length : Int) c = 0 := by
  have hone : s.at? (((front ++ [d]).length : Int) - 1) = some d := at?_of_toList h (by simp)
  have hne : s.at? (((front ++ [d]).length : Int) - 1) ≠ some c := by
    rw [hone]
    exact fun h => hd (Option.some.inj h)
  rw [countBefore, if_pos hne]

theorem countBefore_eq_one {d : CodePoint} {front : Text}
    (h : s.cells.toList = front ++ d :: c :: post)
    (hd : d ≠ c) : s.countBefore ((front ++ [d, c]).length : Int) c = 1 := by
  have hone : s.at? (((front ++ [d, c]).length : Int) - 1) = some c := by
    have h' : s.cells.toList = (front ++ [d]) ++ c :: post := by simp [h]
    exact at?_of_toList h' (by simp; omega)
  have htwo : s.at? (((front ++ [d, c]).length : Int) - 2) = some d := at?_of_toList h (by simp)
  have hne : s.at? (((front ++ [d, c]).length : Int) - 2) ≠ some c := by
    rw [htwo]
    exact fun h => hd (Option.some.inj h)
  rw [countBefore, if_neg (not_not_intro hone), if_pos hne]

/-- A quote that is the first in a row opens or closes a string, if no backslash escapes it. -/
theorem doubleQuote_of_countBefore_zero {i : Nat} (h : s.countBefore i Text.doubleQuote = 0) :
    s.doubleQuote i =
      if s.isEscaped i then { s with quote := if s.inString then some Text.doubleQuote else none }
      else s.toggle Text.doubleQuote false := by
  unfold doubleQuote
  simp only [h]
  rfl

theorem doubleQuote_of_countBefore_one {i : Nat} (h : s.countBefore i Text.doubleQuote = 1) :
    s.doubleQuote i = s.toggle Text.doubleQuote false := by
  unfold doubleQuote
  simp only [h]
  rfl

theorem step_doubleQuote (hcells : s.cells.toList = pre ++ [Text.doubleQuote] ++ post)
    (hcomment : s.inComment = false) (hkey : s.key = .outside) (h : s.quote ≠ some Text.singleQuote)
    (hstart : s.lineStart = false) : s.step pre.length = .ok (s.doubleQuote pre.length) := by
  rw [step_value (getElem?_of_toList hcells) hcomment hkey, valueStep_doubleQuote h hstart]

theorem runs_opening (ht : EndsLine t.toArray) {front : Text} :
    (inValue t).Runs (front ++ [(' ' : CodePoint)]) [Text.doubleQuote] (inQuotes t) := by
  refine runs_singleton rfl fun post hpost => ?_
  have hfront : (inValue t).cells.toList =
      front ++ (' ' : CodePoint) :: Text.doubleQuote :: post := by
    rw [hpost]
    simp
  have hescaped : (inValue t).isEscaped ((front ++ [(' ' : CodePoint)]).length : Int) = false := by
    rw [isEscaped_eq (s := inValue t) ht (hpost.trans (List.append_assoc _ _ _)),
      endsInOddBackslashes_concat, if_neg (by decide)]
  rw [step_doubleQuote hpost rfl rfl (fun h => by cases h) rfl,
    doubleQuote_of_countBefore_zero (countBefore_eq_zero hfront (by decide)), hescaped]
  rfl

theorem quote_inQuotes : (inQuotes t).quote ≠ some Text.singleQuote :=
  fun h => absurd (Option.some.inj h) (by decide)

theorem runs_escapedQuote (ht : EndsLine t.toArray) {front : Text}
    (hfront : endsInOddBackslashes front = false) :
    (inQuotes t).Runs (front ++ [backslash]) [Text.doubleQuote] (inQuotes t) := by
  refine runs_singleton rfl fun post hpost => ?_
  have hcells : (inQuotes t).cells.toList = front ++ backslash :: Text.doubleQuote :: post := by
    rw [hpost]
    simp
  have hescaped : (inQuotes t).isEscaped ((front ++ [backslash]).length : Int) = true := by
    rw [isEscaped_eq (s := inQuotes t) ht (hpost.trans (List.append_assoc _ _ _)),
      endsInOddBackslashes_concat, if_pos rfl, hfront]
    rfl
  rw [step_doubleQuote hpost rfl rfl quote_inQuotes rfl,
    doubleQuote_of_countBefore_zero (countBefore_eq_zero hcells (by decide)), hescaped]
  rfl

/-- The quote at the end closes the string, whether a quote stands before it or not. -/
theorem runs_closing (ht : EndsLine t.toArray) {front : Text} {d : CodePoint}
    (h : d ≠ Text.doubleQuote ∧ endsInOddBackslashes (front ++ [d]) = false ∨
      d = Text.doubleQuote ∧ ∃ e r, front = r ++ [e] ∧ e ≠ Text.doubleQuote) :
    (inQuotes t).Runs (front ++ [d]) [Text.doubleQuote] (inValue t) := by
  refine runs_singleton rfl fun post hpost => ?_
  rw [step_doubleQuote hpost rfl rfl quote_inQuotes rfl]
  rcases h with ⟨hd, hodd⟩ | ⟨rfl, e, r, rfl, he⟩
  · have hcells : (inQuotes t).cells.toList = front ++ d :: Text.doubleQuote :: post := by
      rw [hpost]
      simp
    have hescaped : (inQuotes t).isEscaped ((front ++ [d]).length : Int) = false := by
      rw [isEscaped_eq (s := inQuotes t) ht (hpost.trans (List.append_assoc _ _ _)), hodd]
    rw [doubleQuote_of_countBefore_zero (countBefore_eq_zero hcells hd), hescaped]
    rfl
  · have hcells : (inQuotes t).cells.toList =
        r ++ e :: Text.doubleQuote :: (Text.doubleQuote :: post) := by
      rw [hpost]
      simp
    have hone := countBefore_eq_one hcells he
    rw [show r ++ [e, Text.doubleQuote] = r ++ [e] ++ [Text.doubleQuote] by simp] at hone
    rw [doubleQuote_of_countBefore_one hone]
    rfl

theorem runs_spelled (ht : EndsLine t.toArray) (p : Text)
    (hpre : endsInOddBackslashes pre = false) :
    (inQuotes t).Runs pre (p.flatMap spell) (inQuotes t) := by
  induction p generalizing pre with
  | nil => exact Runs.refl _ _
  | cons c r ih =>
    have hnext : endsInOddBackslashes (pre ++ spell c) = false := by
      rw [endsInOddBackslashes_append hpre, endsInOddBackslashes_spell]
    rw [List.flatMap_cons]
    refine Runs.append ?_ (ih hnext)
    by_cases hc : c = Text.doubleQuote
    · subst hc
      have hunit : spell Text.doubleQuote = [backslash] ++ [Text.doubleQuote] := by decide
      rw [hunit]
      exact (runs_inQuotes (by decide) (by decide)).append (runs_escapedQuote ht hpre)
    · refine runs_of_forall fun pre d hd => runs_inQuotes ?_ ?_
      · rintro rfl
        exact doubleQuote_notMem_escapePoint hc hd
      · rintro rfl
        exact newline_notMem_spell c hd

/-- Where a string ends, its last code point is no quote and leaves no escape open, or it is a single
quote. -/
theorem exists_last_spelled (pre p : Text) {d : CodePoint} (hd : d ≠ Text.doubleQuote) :
    ∃ front last, pre ++ [d] ++ [Text.doubleQuote] ++ p.flatMap spell = front ++ [last] ∧
      (last ≠ Text.doubleQuote ∧ endsInOddBackslashes (front ++ [last]) = false ∨
        last = Text.doubleQuote ∧ ∃ e r, front = r ++ [e] ∧ e ≠ Text.doubleQuote) := by
  have hopening : endsInOddBackslashes (pre ++ [d] ++ [Text.doubleQuote]) = false := by
    rw [endsInOddBackslashes_concat, if_neg (by decide)]
  rcases List.eq_nil_or_concat p with rfl | ⟨r, c, rfl⟩
  · exact ⟨pre ++ [d], Text.doubleQuote, by simp, .inr ⟨rfl, d, pre, rfl, hd⟩⟩
  · have hr : endsInOddBackslashes (r.flatMap spell) = false := by
      induction r with
      | nil => rfl
      | cons c r ih =>
        rw [List.flatMap_cons, endsInOddBackslashes_append (endsInOddBackslashes_spell c), ih]
    rw [List.concat_eq_append, List.flatMap_append, List.flatMap_singleton]
    by_cases hc : c = Text.doubleQuote
    · subst hc
      have hunit : spell Text.doubleQuote = [backslash] ++ [Text.doubleQuote] := by decide
      refine ⟨pre ++ [d] ++ [Text.doubleQuote] ++ r.flatMap spell ++ [backslash],
        Text.doubleQuote, ?_,
        .inr ⟨rfl, backslash, _, rfl, by decide⟩⟩
      rw [hunit]
      simp
    · rcases List.eq_nil_or_concat (spell c) with hempty | ⟨u, e, hunit⟩
      · rcases head_escapePoint Text.doubleQuote c with h | ⟨h, -, -⟩
        · rw [show escapePoint Text.doubleQuote c = [] from hempty] at h
          cases h
        · rw [show escapePoint Text.doubleQuote c = [] from hempty] at h
          cases h
      · rw [List.concat_eq_append] at hunit
        have he : e ≠ Text.doubleQuote := by
          rintro rfl
          refine doubleQuote_notMem_escapePoint hc (?_ : _ ∈ spell c)
          simp [hunit]
        refine ⟨pre ++ [d] ++ [Text.doubleQuote] ++ r.flatMap spell ++ u, e, by simp [hunit],
          .inl ⟨he, ?_⟩⟩
        rw [List.append_assoc, ← hunit, List.append_assoc, endsInOddBackslashes_append hopening,
          endsInOddBackslashes_append hr, endsInOddBackslashes_spell]

end Quotes

theorem runs_newline (t pre : Text) : (inValue t).Runs pre (text "\n") (start t) := by
  refine runs_singleton rfl fun post hpost => ?_
  exact step_newline (getElem?_of_toList hpost) rfl rfl rfl rfl

theorem isComplete_of_runs {line : Text}
    (h : (start (line ++ text "\n")).Runs [] (line ++ text "\n") (start (line ++ text "\n"))) :
    IsComplete line := by
  have hrun := h.2 [] (by simp [start])
  unfold steps at hrun
  simp only [List.length_nil, Nat.zero_add, List.map_id', List.length_append] at hrun
  exact hrun

end Scan

def memberLine (name p : Text) : Text := name ++ text " = " ++ spelled p

theorem isComplete_memberLine {name : Text} (h : IsBare name) (p : Text) :
    IsComplete (memberLine name p) := by
  refine Scan.isComplete_of_runs ?_
  generalize ht : memberLine name p ++ text "\n" = t
  have hends : Scan.EndsLine t.toArray := ht ▸ Scan.endsLine_append _
  have hkey : name ++ text " = " = name ++ text " =" ++ [(' ' : CodePoint)] := by
    rw [List.append_assoc]
    rfl
  have hopening : (Scan.inValue t).Runs (name ++ text " = ") [doubleQuote] (Scan.inQuotes t) := by
    rw [hkey]
    exact Scan.runs_opening hends
  have hodd : endsInOddBackslashes (name ++ text " = " ++ [doubleQuote]) = false := by
    rw [endsInOddBackslashes_concat, if_neg (by decide)]
  have hclosing : (Scan.inQuotes t).Runs (name ++ text " = " ++ [doubleQuote] ++ p.flatMap spell)
      [doubleQuote] (Scan.inValue t) := by
    obtain ⟨front, last, hfront, hlast⟩ := Scan.exists_last_spelled (name ++ text " =") p
      (d := ' ') (by decide)
    rw [hkey, hfront]
    exact Scan.runs_closing hends hlast
  have hall := ((((Scan.runs_key (t := t) h).append hopening).append
    (Scan.runs_spelled hends p hodd)).append hclosing).append (Scan.runs_newline t _)
  have hline : name ++ text " = " ++ [doubleQuote] ++ p.flatMap spell ++ [doubleQuote] ++
      text "\n" = t := by
    rw [← ht, memberLine, spelled]
    simp [text, doubleQuote]
  rw [hline] at hall
  exact hall

def headerLine (name : Text) : Text := text "[" ++ name ++ text "]"

namespace Scan

variable {t pre : Text} {c : CodePoint}

def inBrackets (t : Text) : Scan := { start t with lineStart := false, inHeader := true }

theorem runs_bracketOpens {name : Text} (h : IsBare name) (ht : t = headerLine name ++ text "\n") :
    (start t).Runs [] (text "[") (inBrackets t) := by
  refine runs_singleton rfl fun post hpost => ?_
  obtain ⟨c, r, rfl⟩ := List.exists_cons_of_ne_nil h.ne_nil
  have hnext : (start t).at? (((0 : Nat) : Int) + 1) = some c := by
    have hcells : (start t).cells.toList = text "[" ++ c :: (r ++ text "]" ++ text "\n") := by
      rw [ht]
      simp [start, headerLine]
    exact at?_of_toList hcells rfl
  have hne : (start t).at? (((0 : Nat) : Int) + 1) ≠ some ('[' : CodePoint) := by
    rw [hnext]
    exact fun hc => ne_of_isBareKeyPoint (by decide) (h.points c List.mem_cons_self)
      (Option.some.inj hc)
  have hopens : (start t).bracketOpens 0 = { start t with inHeader := true } := by
    have hstart : (start t).lineStart = true := rfl
    rw [bracketOpens, if_pos hstart]
    exact if_neg hne
  have hvalue : (start t).valueStep 0 '[' = ((start t).bracketOpens 0).begun '[' false := rfl
  refine (step_value (getElem?_of_toList hpost) rfl rfl).trans (hvalue.trans ?_)
  rw [hopens]
  rfl

theorem runs_inBrackets (h : isBareKeyPoint c = true) :
    (inBrackets t).Runs pre [c] (inBrackets t) := by
  refine runs_singleton rfl fun post hpost => ?_
  rw [step_value (getElem?_of_toList hpost) rfl rfl,
    valueStep_of_isPlain (isPlain_of_isBareKeyPoint h)]
  exact begun_of_not_lineStart rfl _ _

theorem runs_bracketCloses : (inBrackets t).Runs pre [']'] (inValue t) := by
  refine runs_singleton rfl fun post hpost => ?_
  rw [step_value (getElem?_of_toList hpost) rfl rfl]
  rfl

end Scan

theorem isComplete_headerLine {name : Text} (h : IsBare name) : IsComplete (headerLine name) := by
  refine Scan.isComplete_of_runs ?_
  generalize ht : headerLine name ++ text "\n" = t
  have hall := (((Scan.runs_bracketOpens h ht.symm).append (Scan.runs_of_forall fun pre c hc =>
    Scan.runs_inBrackets (h.points c hc))).append Scan.runs_bracketCloses).append
      (Scan.runs_newline t _)
  have hline : text "[" ++ name ++ text "]" ++ text "\n" = t := ht
  rw [← hline] at hall ⊢
  exact hall

end DocPress.Toml
