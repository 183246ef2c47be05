import DocPress.Fault
import DocPress.Proofs.Text.Pieces
import DocPress.Proofs.Toml.Scanning

namespace DocPress.Toml

namespace Scan

variable {s : Scan} {i : Nat}

theorem valueStep_newline (s : Scan) (i : Nat) : s.valueStep i '\n' = s.newline i := by
  have hquoted : s.quoted i '\n' = s := by
    have hsingle : ¬(('\n' : CodePoint) = Text.singleQuote ∧ s.quote ≠ some Text.doubleQuote) :=
      fun h => absurd h.1 (by decide)
    have hdouble : ¬(('\n' : CodePoint) = Text.doubleQuote ∧ s.quote ≠ some Text.singleQuote) :=
      fun h => absurd h.1 (by decide)
    simp only [quoted, if_neg hsingle, if_neg hdouble]
  have hbracketed : s.bracketed i '\n' s.isFree = s := by
    have hopens : ¬(('\n' : CodePoint) = '[' ∧ s.isFree = true) := fun h => absurd h.1 (by decide)
    have hcloses : ¬(('\n' : CodePoint) = ']' ∧ (!s.inString) = true) :=
      fun h => absurd h.1 (by decide)
    simp only [bracketed, if_neg hopens, if_neg hcloses]
  have hcomment : (('\n' : CodePoint) == '#' && s.isFree) = false := rfl
  rw [valueStep_eq]
  simp only [hquoted, hcomment, commented, hbracketed, if_true, Bool.false_eq_true, if_false]

theorem step_of_newline (hc : s.cells[i]? = some ('\n' : CodePoint)) :
    s.step i = if s.key = .outside then newline { s with inComment := false } i
      else .error .malformed := by
  have hcomment : ¬(s.inComment = true ∧ ('\n' : CodePoint) ≠ '\n') := fun h => h.2 rfl
  rw [step_eq hc, if_neg hcomment, advance, valueStep_newline]
  rfl

/-- At the end of a line that leaves nothing open, the next line starts. -/
theorem step_newline (hc : s.cells[i]? = some ('\n' : CodePoint)) (hkey : s.key = .outside)
    (hstring : s.inString = false) (hlines : s.multiline = false) (harrays : s.openArrays = 0) :
    s.step i = .ok { s with lineStart := true, inComment := false } := by
  rw [step_of_newline hc, if_pos hkey]
  simp [newline, hstring, hlines, harrays]

theorem yields_newlineInString (s : Scan) (i : Nat) :
    Yields (fun s' => s'.multiline = s.multiline) (s.newlineInString i) := by
  unfold newlineInString
  split
  · split
    · refine yields_pure ?_
      split <;> rfl
    · exact yields_pure rfl
  · exact yields_error _

theorem of_step_newline (hc : s.cells[i]? = some ('\n' : CodePoint)) {s' : Scan}
    (h : s.step i = .ok s') (hlines : s'.multiline = false) (harrays : s'.openArrays = 0) :
    s.key = .outside ∧ s.inString = false ∧ s.multiline = false ∧ s.openArrays = 0 := by
  rw [step_of_newline hc] at h
  split at h
  · rename_i hkey
    refine ⟨hkey, ?_⟩
    unfold newline at h
    split at h
    · split at h
      · rename_i hmulti
        have hstays := (yields_newlineInString _ i).of_eq_ok h
        rw [hlines] at hstays
        rw [← hstays] at hmulti
        cases hmulti
      · cases h
    · rename_i hstring
      split at h
      · rename_i hopen
        cases h
        exact absurd harrays hopen
      · rename_i hopen
        simp only [not_or, Bool.not_eq_true] at hstring
        exact ⟨hstring.1, hstring.2, Decidable.not_not.1 hopen⟩
  · cases h

end Scan

/-- The scan of a line by itself changes nothing of it and leaves nothing open. -/
def IsComplete (line : Text) : Prop :=
  (List.range (line.length + 1)).foldlM Scan.step (Scan.start (line ++ text "\n")) =
    .ok (Scan.start (line ++ text "\n"))

def unlines (lines : List Text) : Text := lines.flatMap (· ++ text "\n")

@[simp] theorem unlines_nil : unlines [] = [] := rfl

@[simp] theorem unlines_cons (line : Text) (rest : List Text) :
    unlines (line :: rest) = line ++ text "\n" ++ unlines rest := rfl

theorem unlines_append (a b : List Text) : unlines (a ++ b) = unlines a ++ unlines b :=
  List.flatMap_append

theorem splitAt_unlines_append {lines : List Text}
    (h : ∀ line ∈ lines, ('\n' : CodePoint) ∉ line) (t : Text) :
    Text.splitAt '\n' (unlines lines ++ t) = lines ++ Text.splitAt '\n' t := by
  induction lines with
  | nil => rfl
  | cons line rest ih =>
    obtain ⟨hline, hrest⟩ := List.forall_mem_cons.1 h
    rw [unlines_cons, List.append_assoc, List.append_assoc]
    refine (Text.splitAt_append '\n' line (unlines rest ++ t)).trans ?_
    rw [Text.splitAt_of_notMem hline, ih hrest]
    rfl

theorem splitAt_unlines {lines : List Text} (h : ∀ line ∈ lines, ('\n' : CodePoint) ∉ line) :
    Text.splitAt '\n' (unlines lines) = lines ++ [[]] := by
  have hall := splitAt_unlines_append h []
  rwa [List.append_nil] at hall

theorem exists_of_unlines_eq {lines first : List Text} {rest : Text}
    (h : ∀ line ∈ lines, ('\n' : CodePoint) ∉ line)
    (hfirst : ∀ line ∈ first, ('\n' : CodePoint) ∉ line)
    (heq : unlines lines = unlines first ++ rest) :
    ∃ others, lines = first ++ others ∧ rest = unlines others := by
  have hsplit : lines ++ [[]] = first ++ Text.splitAt '\n' rest := by
    rw [← splitAt_unlines h, heq, splitAt_unlines_append hfirst]
  have hne := Text.splitAt_ne_nil '\n' rest
  rw [← List.dropLast_concat_getLast hne, ← List.append_assoc] at hsplit
  have hlines := (List.append_inj' hsplit rfl).1
  refine ⟨_, hlines, List.append_cancel_left (heq.symm.trans ?_)⟩
  rw [← unlines_append, ← hlines]

theorem unlines_splitAt (t : Text) : unlines (Text.splitAt '\n' t) = t ++ text "\n" := by
  induction t with
  | nil => rfl
  | cons c r ih =>
    rw [Text.splitAt]
    split
    · rename_i hc
      rw [unlines_cons, ih, hc]
      rfl
    · cases hr : Text.splitAt '\n' r with
      | nil => exact absurd hr (Text.splitAt_ne_nil _ _)
      | cons p ps =>
        rw [hr] at ih
        simp only
        rw [unlines_cons] at ih ⊢
        rw [List.cons_append, List.cons_append, ih]
        rfl

namespace Scan

theorem endsLine_append (t : Text) : EndsLine (t ++ text "\n").toArray := by
  have hsize : (t ++ text "\n").toArray.size - 1 = t.length := by simp [text]
  rw [EndsLine, hsize]
  simp [text]

theorem unlines_eq_nil_or (lines : List Text) :
    (unlines lines).toArray = #[] ∨ EndsLine (unlines lines).toArray := by
  rcases List.eq_nil_or_concat lines with rfl | ⟨rest, line, rfl⟩
  · exact .inl rfl
  · refine .inr ?_
    rw [List.concat_eq_append, unlines_append, unlines_cons, unlines_nil, List.append_nil,
      ← List.append_assoc]
    exact endsLine_append _

theorem within_start (a t b : Text) :
    (start t).within a.toArray b.toArray = start (a ++ t ++ b) := by
  simp [start, within]

theorem foldlM_concat {β : Type} (f : β → Nat → Except Fault β) (l : List Nat) (a : Nat) (b : β) :
    (l ++ [a]).foldlM f b = l.foldlM f b >>= (f · a) := by
  rw [List.foldlM_append]
  refine congrArg _ (funext fun b => ?_)
  exact bind_pure (f b a)

variable {line : Text}

/-- Up to its newline a line is scanned among others as by itself, and what is still to be scanned of
it is as it was. -/
theorem foldlM_range_within {before after : Array CodePoint}
    (hfits : Fits before after (start (line ++ text "\n"))) (hn : ('\n' : CodePoint) ∉ line)
    {k : Nat} (hk : k ≤ line.length) {s : Scan}
    (h : (List.range k).foldlM step (start (line ++ text "\n")) = .ok s) :
    (s.cells.size = line.length + 1 ∧
      ∀ j, k ≤ j → s.cells[j]? = (line ++ text "\n")[j]?) ∧
    Fits before after s ∧
    ((List.range k).map (before.size + ·)).foldlM step
        ((start (line ++ text "\n")).within before after) = .ok (s.within before after) := by
  induction k generalizing s with
  | zero =>
    cases h
    refine ⟨⟨?_, fun j _ => ?_⟩, hfits, rfl⟩
    · simp [start, text]
    · simp [start]
  | succ k ih =>
    rw [List.range_succ, foldlM_concat] at h
    obtain ⟨s₁, hrun, hstep⟩ := bind_eq_ok_iff.1 h
    obtain ⟨⟨hsize, hcells⟩, hfits₁, hembedded⟩ := ih (by omega) hrun
    have hc : s₁.cells[k]? = some (line.get ⟨k, hk⟩) := by
      rw [hcells k (Nat.le_refl k), List.getElem?_append_left hk, List.getElem?_eq_getElem hk,
        List.get_eq_getElem]
    have hne : line.get ⟨k, hk⟩ ≠ ('\n' : CodePoint) :=
      fun h => hn (h ▸ List.get_mem line ⟨k, hk⟩)
    -- The step blanks what it has seen only, so that the rest of the line is as it was.
    have hblanks : Blanks k s₁ s := (yields_step hc hne).of_eq_ok hstep
    refine ⟨⟨hblanks.size_eq.trans hsize, fun j hj => ?_⟩,
      hfits₁.of_blanks hblanks (by omega), ?_⟩
    · rw [hblanks.getElem?_eq (by omega), hcells j (by omega)]
    · rw [List.range_succ, List.map_append, List.map_singleton, foldlM_concat, hembedded]
      refine (step_within hfits₁ (by omega) hc hne).trans ?_
      rw [hstep]
      rfl

theorem foldlM_step_of_isComplete (hline : IsComplete line) (hn : ('\n' : CodePoint) ∉ line)
    (above below : List Text) :
    ((List.range (line.length + 1)).map ((unlines above).length + ·)).foldlM step
        (start (unlines above ++ (line ++ text "\n") ++ unlines below)) =
      .ok (start (unlines above ++ (line ++ text "\n") ++ unlines below)) := by
  have hfits : Fits (unlines above).toArray (unlines below).toArray (start (line ++ text "\n")) :=
    ⟨endsLine_append line, unlines_eq_nil_or above, unlines_eq_nil_or below⟩
  rw [IsComplete, List.range_succ, foldlM_concat] at hline
  obtain ⟨s, hrun, hstep⟩ := bind_eq_ok_iff.1 hline
  obtain ⟨⟨hsize, hcells⟩, hfits₁, hembedded⟩ := foldlM_range_within hfits hn (Nat.le_refl _) hrun
  have hc : s.cells[line.length]? = some ('\n' : CodePoint) := by
    rw [hcells _ (Nat.le_refl _)]
    simp [text]
  have hc' : (s.within (unlines above).toArray (unlines below).toArray).cells[
      (unlines above).toArray.size + line.length]? = some ('\n' : CodePoint) :=
    (getElem?_within (by omega)).trans hc
  -- The newline ends the line and starts the scan anew, by itself as among the others.
  obtain ⟨hkey, hstring, hlines, harrays⟩ := of_step_newline hc hstep rfl rfl
  have hend := Except.ok.inj ((step_newline hc hkey hstring hlines harrays).symm.trans hstep)
  have hend' := step_newline hc' hkey hstring hlines harrays
  rw [← within_start, List.range_succ, List.map_append, List.map_singleton, foldlM_concat,
    ← List.size_toArray, hembedded]
  refine hend'.trans (congrArg Except.ok ?_)
  rw [← hend]
  rfl

theorem foldlM_step_unlines {lines : List Text}
    (h : ∀ line ∈ lines, ('\n' : CodePoint) ∉ line ∧ IsComplete line) (above : List Text) :
    ((List.range (unlines lines).length).map ((unlines above).length + ·)).foldlM step
        (start (unlines above ++ unlines lines)) =
      .ok (start (unlines above ++ unlines lines)) := by
  induction lines generalizing above with
  | nil => rfl
  | cons line rest ih =>
    obtain ⟨⟨hn, hline⟩, hrest⟩ := List.forall_mem_cons.1 h
    have hlength : (unlines (line :: rest)).length = line.length + 1 + (unlines rest).length := by
      simp [text]
      omega
    have hoffset : ((unlines above).length + ·) ∘ (line.length + 1 + ·) =
        ((unlines (above ++ [line])).length + ·) := by
      funext j
      simp [unlines_append, text]
      omega
    have hwhole : unlines above ++ unlines (line :: rest) =
        unlines (above ++ [line]) ++ unlines rest := by
      simp [unlines_append]
    have hfirst := foldlM_step_of_isComplete hline hn above rest
    rw [List.append_assoc, ← unlines_cons] at hfirst
    rw [hlength, List.range_add, List.map_append, List.foldlM_append, hfirst, List.map_map, hoffset,
      hwhole]
    exact ih hrest (above ++ [line])

end Scan

/-- Complete lines are the logical lines of the text that has them. -/
theorem logicalLines_unlines {lines : List Text}
    (h : ∀ line ∈ lines, ('\n' : CodePoint) ∉ line ∧ IsComplete line) :
    logicalLines (unlines lines) = .ok (lines ++ [[]]) := by
  have hscan := Scan.foldlM_step_unlines h []
  simp only [unlines_nil, List.nil_append, List.length_nil, Nat.zero_add, List.map_id'] at hscan
  unfold logicalLines
  rw [hscan, ← splitAt_unlines fun line hl => (h line hl).1]
  rfl

end DocPress.Toml
