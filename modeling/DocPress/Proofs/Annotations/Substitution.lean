import DocPress.Proofs.Annotations.Name

namespace DocPress.Annotations

section

variable {marker : Text} {replacement : Text → Text}

theorem substituted_of_breakOn_eq_none {line : Text} (h : Text.breakOn marker line = none) :
    substituted marker replacement line = line := by
  rw [substituted]
  split
  · rfl
  · simp_all

theorem substituted_of_breakOn {line before after : Text}
    (h : Text.breakOn marker line = some (before, after)) :
    substituted marker replacement line =
      if nameOf after = [] then line
      else before ++ replacement (nameOf after) ++
        substituted marker replacement (afterName after) := by
  rw [substituted]
  split
  · simp_all
  · rename_i b a hb
    obtain ⟨rfl, rfl⟩ : b = before ∧ a = after := by simpa [h, eq_comm] using hb
    rfl

theorem substituted_nil (hm : marker ≠ []) : substituted marker replacement [] = [] :=
  substituted_of_breakOn_eq_none (Text.breakOn_nil hm)

theorem substituted_marker_of_unnamed (hm : marker ≠ []) {rest : Text} (h : nameOf rest = []) :
    substituted marker replacement (marker ++ rest) = marker ++ rest := by
  rw [substituted_of_breakOn (Text.breakOn_append hm rest), if_pos h]

theorem substituted_marker (hm : marker ≠ []) {rest : Text} (h : nameOf rest ≠ []) :
    substituted marker replacement (marker ++ rest) =
      replacement (nameOf rest) ++ substituted marker replacement (afterName rest) := by
  rw [substituted_of_breakOn (Text.breakOn_append hm rest), if_neg h, List.nil_append]

theorem substituted_cons {c : CodePoint} {r : Text} (h : ¬marker <+: c :: r) :
    substituted marker replacement (c :: r) = c :: substituted marker replacement r := by
  have hb := Text.breakOn_cons h
  cases hr : Text.breakOn marker r with
  | none =>
    rw [hr, Option.map_none] at hb
    rw [substituted_of_breakOn_eq_none hb, substituted_of_breakOn_eq_none hr]
  | some p =>
    obtain ⟨before, after⟩ := p
    rw [hr, Option.map_some] at hb
    rw [substituted_of_breakOn hb, substituted_of_breakOn hr]
    split <;> rfl

theorem findFrom?_append (done rest : Text) :
    Text.findFrom? marker (done ++ rest) done.length =
      (Text.find? marker rest).map (· + done.length) := by
  rw [Text.findFrom?, if_pos (by simp), List.drop_left]

/-- What is done is left alone, and the rest of the line is replaced in. -/
theorem replaceTagsFrom_eq_substituted (hm : marker ≠ []) (hb : ∀ c ∈ marker, c.isBlank = false)
    {fuel : Nat} (done rest : Text) (hf : rest.length < fuel) :
    replaceTagsFrom marker replacement fuel (done ++ rest) done.length =
      some (done ++ substituted marker replacement rest) := by
  induction fuel generalizing done rest with
  | zero => exact absurd hf (Nat.not_lt_zero _)
  | succ fuel ih =>
    rw [replaceTagsFrom, findFrom?_append, Text.find?]
    cases hbreak : Text.breakOn marker rest with
    | none => rw [substituted_of_breakOn_eq_none hbreak]; rfl
    | some p =>
      obtain ⟨before, after⟩ := p
      have hrest : rest = before ++ (marker ++ after) := by
        rw [Text.breakOn_eq_some hbreak, List.append_assoc]
      have hat : before.length + done.length = (done ++ before).length := by
        rw [List.length_append, Nat.add_comm]
      have hline : done ++ rest = (done ++ before) ++ (marker ++ after) := by
        rw [hrest, List.append_assoc]
      simp only [Option.map_some, hat, hline, List.drop_left, Text.firstWord?_append hm hb,
        tagName_takeWhile]
      rw [substituted_of_breakOn hbreak]
      by_cases hn : nameOf after = []
      · rw [if_pos hn, if_pos hn, ← hline]
      · rw [if_neg hn, if_neg hn]
        -- The replacement is done too; what comes after the name is shorter than the rest was.
        have hdrop : ((done ++ before) ++ (marker ++ after)).drop
            ((done ++ before).length + marker.length + (nameOf after).length) = afterName after := by
          rw [Nat.add_assoc, List.drop_length_add_append, List.drop_length_add_append, afterName]
        have hshort : (afterName after).length < fuel := by
          have hlen := congrArg List.length hrest
          have hlt := length_afterName_lt hn
          rw [List.length_append, List.length_append] at hlen
          omega
        have hstart : (done ++ before).length + (replacement (nameOf after)).length =
            (done ++ before ++ replacement (nameOf after)).length := List.length_append.symm
        rw [List.take_left, hdrop, hstart, ih _ _ hshort]
        simp only [List.append_assoc]

theorem replaceTags?_eq_substituted (hm : marker ≠ []) (hb : ∀ c ∈ marker, c.isBlank = false)
    (line : Text) :
    replaceTags? marker replacement line = some (substituted marker replacement line) := by
  have hf : line.length < line.length + 2 := by omega
  have h : replaceTagsFrom marker replacement (line.length + 2) ([] ++ line) ([] : Text).length =
      some ([] ++ substituted marker replacement line) :=
    replaceTagsFrom_eq_substituted hm hb [] line hf
  simpa [replaceTags?] using h

theorem replaceTags_eq_substituted (hm : marker ≠ []) (hb : ∀ c ∈ marker, c.isBlank = false)
    (line : Text) : replaceTags marker replacement line = substituted marker replacement line := by
  rw [replaceTags, replaceTags?_eq_substituted hm hb, Option.getD_some]

end

end DocPress.Annotations
