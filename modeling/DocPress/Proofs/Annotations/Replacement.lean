import DocPress.Proofs.Annotations.Substitution
import DocPress.Proofs.Text.Substitution

namespace DocPress.Annotations

/-- No name goes on here: the text is over, or it begins with a blank or a terminator. -/
def EndsName (t : Text) : Prop :=
  t = [] ∨ (∃ c ∈ t.head?, c.isBlank = true) ∨ ∃ terminator ∈ nameTerminators, terminator <+: t

theorem endsName_iff {t : Text} : EndsName t ↔ nameOf t = [] := by
  constructor
  · rintro (rfl | ⟨c, hc, hblank⟩ | ⟨terminator, hm, hp⟩)
    · rfl
    · obtain ⟨r, rfl⟩ := List.head?_eq_some_iff.1 hc
      exact nameOf_of_isBlank hblank r
    · exact nameOf_of_startsWith hm hp
  · intro h
    cases t with
    | nil => exact .inl rfl
    | cons c r =>
      by_cases hblank : c.isBlank = true
      · exact .inr (.inl ⟨c, rfl, hblank⟩)
      · refine .inr (.inr (Decidable.byContradiction fun hnone => ?_))
        have hstart : ∀ terminator ∈ nameTerminators, ¬terminator <+: c :: r :=
          fun terminator hm hp => hnone ⟨terminator, hm, hp⟩
        rw [nameOf_cons (Bool.eq_false_iff.2 hblank) hstart] at h
        cases h

/-- What stands before `rest` is a name up to there, and ends there. -/
structure IsLongestName (name rest : Text) : Prop where
  ends : EndsName rest
  goesOn : ∀ b, b <:+ name → b ≠ [] → ¬EndsName (b ++ rest)

theorem isLongestName_nil {rest : Text} : IsLongestName [] rest ↔ EndsName rest :=
  ⟨IsLongestName.ends, fun h => ⟨h, fun _ hb hne => absurd (List.suffix_nil.1 hb) hne⟩⟩

theorem isLongestName_cons {c : CodePoint} {name rest : Text} :
    IsLongestName (c :: name) rest ↔
      ¬EndsName (c :: (name ++ rest)) ∧ IsLongestName name rest := by
  constructor
  · intro h
    exact ⟨h.goesOn _ List.suffix_rfl (List.cons_ne_nil c name),
      h.ends, fun b hb => h.goesOn b (hb.trans (List.suffix_cons c name))⟩
  · rintro ⟨hc, h⟩
    refine ⟨h.ends, fun b hb hne => ?_⟩
    rcases List.suffix_cons_iff.1 hb with rfl | hb
    · exact hc
    · exact h.goesOn b hb hne

theorem isLongestName_iff {name rest : Text} :
    IsLongestName name rest ↔ nameOf (name ++ rest) = name := by
  induction name with
  | nil => rw [isLongestName_nil, endsName_iff, List.nil_append]
  | cons c name ih =>
    rw [isLongestName_cons, endsName_iff, ih, List.cons_append]
    constructor
    · rintro ⟨hne, hname⟩
      obtain ⟨hblank, hstart⟩ := nameOf_cons_ne_nil hne
      rw [nameOf_cons hblank hstart, hname]
    · intro h
      have hne : nameOf (c :: (name ++ rest)) ≠ [] := h ▸ List.cons_ne_nil c name
      obtain ⟨hblank, hstart⟩ := nameOf_cons_ne_nil hne
      rw [nameOf_cons hblank hstart] at h
      exact ⟨hne, (List.cons.inj h).2⟩

theorem isLongestName_nameOf (t : Text) : IsLongestName (nameOf t) (afterName t) :=
  isLongestName_iff.2 (congrArg nameOf (nameOf_append_afterName t))

theorem afterName_append {name rest : Text} (h : IsLongestName name rest) :
    afterName (name ++ rest) = rest := by
  rw [afterName, isLongestName_iff.1 h, List.drop_left]

/-- What a line turns into: it is left alone where no marker stands, and from a first marker without a
name on; else `replacement` of the name takes the place of the first tag, and only what follows the
tag is looked at again. -/
inductive Replaced (marker : Text) (replacement : Text → Text) : Text → Text → Prop
  | unmarked {line : Text} : ¬marker <:+: line → Replaced marker replacement line line
  | unnamed {before after : Text} : Text.Avoids marker before (marker ++ after) → EndsName after →
      Replaced marker replacement (before ++ (marker ++ after)) (before ++ (marker ++ after))
  | tag {before name rest out : Text} : Text.Avoids marker before (marker ++ (name ++ rest)) →
      name ≠ [] → IsLongestName name rest → Replaced marker replacement rest out →
      Replaced marker replacement (before ++ (marker ++ (name ++ rest)))
        (before ++ (replacement name ++ out))

section

variable {marker : Text} {replacement : Text → Text}

theorem replaced_substituted (hm : marker ≠ []) (line : Text) :
    Replaced marker replacement line (substituted marker replacement line) := by
  fun_induction substituted marker replacement line with
  | case1 line hbreak => exact .unmarked (Text.not_infix_of_breakOn_eq_none hm hbreak)
  | case2 line before after hbreak hname =>
    obtain ⟨rfl, havoids⟩ := (Text.breakOn_eq_some_iff hm).1 hbreak
    exact .unnamed havoids (endsName_iff.2 hname)
  | case3 line before after hbreak hname ih =>
    obtain ⟨rfl, havoids⟩ := (Text.breakOn_eq_some_iff hm).1 hbreak
    -- What follows the marker is its name and the rest, as the constructor takes it apart.
    rw [← nameOf_append_afterName after] at havoids
    have htag := Replaced.tag havoids hname (isLongestName_nameOf after) ih
    rw [nameOf_append_afterName] at htag
    rwa [List.append_assoc]

theorem Replaced.eq_substituted (hm : marker ≠ []) {line out : Text}
    (h : Replaced marker replacement line out) : out = substituted marker replacement line := by
  induction h with
  | unmarked hnone =>
    rw [substituted_of_breakOn_eq_none (Text.breakOn_eq_none_of_absent hnone)]
  | unnamed havoids hends =>
    rw [substituted_of_breakOn (Text.breakOn_of_avoids hm havoids), if_pos (endsName_iff.1 hends)]
  | tag havoids hne hname _ ih =>
    rw [substituted_of_breakOn (Text.breakOn_of_avoids hm havoids), isLongestName_iff.1 hname,
      if_neg hne, afterName_append hname, ← ih, List.append_assoc]

end

/-- Replacing the tags of a line always ends, and with the text that the line alone stands for: also
where what is put in holds markers, and however often the scan is allowed to go on. -/
theorem replaceTags?_replaced {marker : Text} (hm : marker ≠ [])
    (hb : ∀ c ∈ marker, c.isBlank = false) (replacement : Text → Text) (line : Text) :
    replaceTags? marker replacement line = some (substituted marker replacement line) ∧
      (∀ fuel, line.length < fuel →
        replaceTagsFrom marker replacement fuel line 0 =
          some (substituted marker replacement line)) ∧
      ∀ out, Replaced marker replacement line out ↔
        out = substituted marker replacement line := by
  refine ⟨replaceTags?_eq_substituted hm hb line, fun fuel hf => ?_, fun out => ?_⟩
  · exact replaceTagsFrom_eq_substituted hm hb [] line hf
  · exact ⟨Replaced.eq_substituted hm, fun h => h ▸ replaced_substituted hm line⟩

/-- The names come from the line, though every tag is replaced by two. -/
theorem replaceTags?_replaced_doubled :
    idMarker ≠ [] ∧ (∀ c ∈ idMarker, c.isBlank = false) ∧
      replaceTags? idMarker (fun name => text "@#" ++ name ++ text "@#x") (text "p@#a @.q@#b@#") =
        some (text "p@#a@#x @.q@#b@#x@#") ∧
      Replaced idMarker (fun name => text "@#" ++ name ++ text "@#x") (text "p@#a @.q@#b@#")
        (text "p@#a@#x @.q@#b@#x@#") := by
  have hm : idMarker ≠ [] := by decide
  have hb : ∀ c ∈ idMarker, c.isBlank = false := by decide
  obtain ⟨hscan, -, hreplaced⟩ := replaceTags?_replaced hm hb
    (fun name => text "@#" ++ name ++ text "@#x") (text "p@#a @.q@#b@#")
  have hrun : replaceTags? idMarker (fun name => text "@#" ++ name ++ text "@#x")
      (text "p@#a @.q@#b@#") = some (text "p@#a@#x @.q@#b@#x@#") := by decide +kernel
  exact ⟨hm, hb, hrun, (hreplaced _).2 (Option.some.inj (hrun.symm.trans hscan))⟩

end DocPress.Annotations
