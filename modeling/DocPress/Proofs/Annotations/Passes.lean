import DocPress.Proofs.Annotations.Expansion
import Mathlib.Data.List.Perm.Basic

namespace DocPress.Annotations

/-- A pass over a whole line. -/
inductive Pass where
  | ids
  | classes
  | comment
deriving DecidableEq

def Pass.run : Pass → Text → Text
  | ids => replaceTags idMarker idSpan
  | classes => replaceTags classMarker classSpan
  | comment => stripComment

/-- A kind of tag: its marker, and a span that begins with markup and has no marker in it. -/
structure IsTag (marker : Text) (span : Text → Text) : Prop where
  mem : marker ∈ markers
  less : ∀ name, ∃ rest, span name = less :: rest
  skips : ∀ other ∈ markers, ∀ t, Skips other (span (nameOf t))

theorem isTag_id : IsTag idMarker idSpan :=
  ⟨idMarker_mem, idSpan_eq_less_cons, fun _ hm t => skips_idSpan hm t⟩

theorem isTag_class : IsTag classMarker classSpan :=
  ⟨classMarker_mem, classSpan_eq_less_cons, fun _ hm t => skips_classSpan hm t⟩

section

variable {counts counts' : Bool} {marker marker' : Text} {span span' : Text → Text}

theorem replacedIf_comm_marker (h : IsTag marker span) (h' : IsTag marker' span')
    (hne : marker ≠ marker') {rest : Text}
    (ih : nameOf rest ≠ [] → replacedIf true marker span
        (replacedIf counts' marker' span' (afterName rest)) =
      replacedIf counts' marker' span' (replacedIf true marker span (afterName rest))) :
    replacedIf true marker span (replacedIf counts' marker' span' (marker ++ rest)) =
      replacedIf counts' marker' span' (replacedIf true marker span (marker ++ rest)) := by
  have hskips : Skips marker' marker := skips_marker h'.mem h.mem hne.symm
  have hname : nameOf (replacedIf counts' marker' span' rest) = nameOf rest :=
    nameOf_replacedIf h'.mem h'.less rest
  rw [replacedIf_append hskips]
  by_cases hn : nameOf rest = []
  · rw [replacedIf_true_of_unnamed h.mem (hname.trans hn), replacedIf_true_of_unnamed h.mem hn,
      replacedIf_append hskips]
  · rw [replacedIf_true h.mem (hname ▸ hn), replacedIf_true h.mem hn, hname,
      afterName_replacedIf h'.mem h'.less, ih hn,
      replacedIf_append (h.skips marker' h'.mem rest)]

theorem not_prefix_cons_replacedIf (h : IsTag marker span) {other : Text} (ho : other ∈ markers)
    {c : CodePoint} {r : Text} (hp : ¬other <+: c :: r) :
    ¬other <+: c :: replacedIf counts marker span r := by
  have hs : SameStart r (replacedIf counts marker span r) := sameStart_replacedIf h.mem h.less r
  rwa [← hs.terminator_prefix_iff (markers_subset ho)]

theorem replacedIf_comm (h : IsTag marker span) (h' : IsTag marker' span') (hne : marker ≠ marker')
    (line : Text) :
    replacedIf counts marker span (replacedIf counts' marker' span' line) =
      replacedIf counts' marker' span' (replacedIf counts marker span line) := by
  -- What follows a tag with a name is not the tail of the line, so the induction is on the length.
  induction hl : line.length using Nat.strong_induction_on generalizing line with
  | _ n ih =>
    have hshort : ∀ {other rest : Text}, other ∈ markers → line = other ++ rest →
        (afterName rest).length < n := by
      intro other rest ho hline
      have hpos := List.length_pos_iff.2 (ne_nil_of_mem_markers ho)
      have hle := length_afterName_le rest
      rw [hline, List.length_append] at hl
      omega
    by_cases hm : counts = true ∧ marker <+: line
    · obtain ⟨rfl, rest, rfl⟩ := hm
      exact replacedIf_comm_marker h h' hne fun _ => ih _ (hshort h.mem rfl) _ rfl
    · by_cases hm' : counts' = true ∧ marker' <+: line
      · obtain ⟨rfl, rest, rfl⟩ := hm'
        exact (replacedIf_comm_marker h' h hne.symm fun _ =>
          (ih _ (hshort h'.mem rfl) _ rfl).symm).symm
      · cases line with
        | nil => simp only [replacedIf_nil h.mem, replacedIf_nil h'.mem]
        | cons c r =>
          have hc : counts = true → ¬marker <+: c :: r := fun ht hp => hm ⟨ht, hp⟩
          have hc' : counts' = true → ¬marker' <+: c :: r := fun ht hp => hm' ⟨ht, hp⟩
          rw [replacedIf_cons hc', replacedIf_cons hc,
            replacedIf_cons fun ht => not_prefix_cons_replacedIf h' h.mem (hc ht),
            replacedIf_cons fun ht => not_prefix_cons_replacedIf h h'.mem (hc' ht),
            ih r.length (by rw [← hl, List.length_cons]; omega) r rfl]

theorem replacedIf_replacedIf (h : IsTag marker span) (line : Text) :
    replacedIf counts marker span (replacedIf counts marker span line) =
      replacedIf counts marker span line := by
  induction hl : line.length using Nat.strong_induction_on generalizing line with
  | _ n ih =>
    by_cases hm : counts = true ∧ marker <+: line
    · obtain ⟨rfl, rest, rfl⟩ := hm
      by_cases hn : nameOf rest = []
      · simp only [replacedIf_true_of_unnamed h.mem hn]
      · have hlt := length_afterName_lt hn
        rw [replacedIf_true h.mem hn, replacedIf_append (h.skips marker h.mem rest),
          ih _ (by rw [← hl, List.length_append]; omega) (afterName rest) rfl]
    · cases line with
      | nil => simp only [replacedIf_nil h.mem]
      | cons c r =>
        have hc : counts = true → ¬marker <+: c :: r := fun ht hp => hm ⟨ht, hp⟩
        rw [replacedIf_cons hc,
          replacedIf_cons fun ht => not_prefix_cons_replacedIf h h.mem (hc ht),
          ih r.length (by rw [← hl, List.length_cons]; omega) r rfl]

end

theorem stripComment_nil : stripComment [] = [] := rfl

theorem sameStart_stripComment (t : Text) : SameStart t (stripComment t) := by
  induction t with
  | nil => exact .refl []
  | cons c r ih =>
    by_cases hc : commentMarker <+: c :: r
    · obtain ⟨rest, hr⟩ := hc
      rw [← hr, stripComment_comment]
      exact .stop (stops_marker commentMarker_mem rest) stops_nil
    · rw [stripComment_cons hc]
      exact ih.cons c

theorem stripComment_eq_nameOf_append (t : Text) :
    stripComment t = nameOf t ++ stripComment (afterName t) :=
  eq_nameOf_append (fun _ _ hn =>
    stripComment_cons ((nameOf_cons_ne_nil hn).2 commentMarker (markers_subset commentMarker_mem))) t

theorem nameOf_stripComment (t : Text) : nameOf (stripComment t) = nameOf t :=
  (sameStart_stripComment t).nameOf_eq.symm

theorem afterName_stripComment (t : Text) :
    afterName (stripComment t) = stripComment (afterName t) := by
  rw [afterName, nameOf_stripComment, stripComment_eq_nameOf_append t, List.drop_left]

theorem stripComment_stripComment (t : Text) : stripComment (stripComment t) = stripComment t := by
  induction t with
  | nil => rfl
  | cons c r ih =>
    by_cases hc : commentMarker <+: c :: r
    · obtain ⟨rest, hr⟩ := hc
      rw [← hr, stripComment_comment, stripComment_nil]
    · have hs := (sameStart_stripComment r).terminator_prefix_iff (markers_subset commentMarker_mem) c
      rw [stripComment_cons hc, stripComment_cons (mt hs.2 hc), ih]

theorem stripComment_replacedIf {counts : Bool} {marker : Text} {span : Text → Text}
    (h : IsTag marker span) (hne : marker ≠ commentMarker) (line : Text) :
    stripComment (replacedIf counts marker span line) =
      replacedIf counts marker span (stripComment line) := by
  -- A tag is passed over with its name at once, so the induction is on the length.
  induction hl : line.length using Nat.strong_induction_on generalizing line with
  | _ n ih =>
    by_cases hm : counts = true ∧ marker <+: line
    · obtain ⟨rfl, rest, rfl⟩ := hm
      have hskips : Skips commentMarker marker := skips_marker commentMarker_mem h.mem hne.symm
      rw [stripComment_append hskips]
      by_cases hn : nameOf rest = []
      · rw [replacedIf_true_of_unnamed h.mem hn, stripComment_append hskips,
          replacedIf_true_of_unnamed h.mem ((nameOf_stripComment rest).trans hn)]
      · have hlt := length_afterName_lt hn
        rw [replacedIf_true h.mem hn, stripComment_append (h.skips _ commentMarker_mem rest),
          replacedIf_true h.mem ((nameOf_stripComment rest).symm ▸ hn), nameOf_stripComment,
          afterName_stripComment,
          ih _ (by rw [← hl, List.length_append]; omega) (afterName rest) rfl]
    · by_cases hc : commentMarker <+: line
      · obtain ⟨rest, rfl⟩ := hc
        rw [replacedIf_append (skips_marker h.mem commentMarker_mem hne), stripComment_comment,
          stripComment_comment, replacedIf_nil h.mem]
      · cases line with
        | nil => rw [stripComment_nil, replacedIf_nil h.mem, stripComment_nil]
        | cons c r =>
          have hcount : counts = true → ¬marker <+: c :: r := fun ht hp => hm ⟨ht, hp⟩
          have hs := (sameStart_stripComment r).terminator_prefix_iff (markers_subset h.mem) c
          rw [replacedIf_cons hcount, stripComment_cons hc,
            stripComment_cons (not_prefix_cons_replacedIf h commentMarker_mem hc),
            replacedIf_cons fun ht => mt hs.2 (hcount ht),
            ih r.length (by rw [← hl, List.length_cons]; omega) r rfl]

namespace Pass

theorem run_ids (line : Text) : ids.run line = replacedIf true idMarker idSpan line :=
  replaceTags_eq_substituted idMarker_ne_nil (by decide) line

theorem run_classes (line : Text) : classes.run line = replacedIf true classMarker classSpan line :=
  replaceTags_eq_substituted classMarker_ne_nil (by decide) line

theorem run_comm (p q : Pass) (line : Text) : p.run (q.run line) = q.run (p.run line) := by
  have hids : ∀ t, ids.run (classes.run t) = classes.run (ids.run t) := fun t => by
    simp only [run_ids, run_classes]
    exact replacedIf_comm isTag_id isTag_class (by decide) t
  have hcomment : ∀ t, comment.run (ids.run t) = ids.run (comment.run t) := fun t => by
    simp only [run_ids]
    exact stripComment_replacedIf isTag_id (by decide) t
  have hclasses : ∀ t, comment.run (classes.run t) = classes.run (comment.run t) := fun t => by
    simp only [run_classes]
    exact stripComment_replacedIf isTag_class (by decide) t
  cases p <;> cases q <;> simp only [hids, hcomment, hclasses]

theorem run_run (p : Pass) (line : Text) : p.run (p.run line) = p.run line := by
  cases p with
  | ids =>
    simp only [run_ids]
    exact replacedIf_replacedIf isTag_id line
  | classes =>
    simp only [run_classes]
    exact replacedIf_replacedIf isTag_class line
  | comment => exact stripComment_stripComment line

end Pass

instance : RightCommutative fun (line : Text) (pass : Pass) => pass.run line :=
  ⟨fun line p q => Pass.run_comm q p line⟩

theorem expand_eq_foldl (line : Text) :
    expand line = [Pass.ids, .classes, .comment].foldl (fun t pass => pass.run t) line := rfl

/-- The three passes come to the same in each of the six orders. -/
theorem expand_of_perm {order : List Pass} (h : order.Perm [.ids, .classes, .comment])
    (line : Text) : order.foldl (fun t pass => pass.run t) line = expand line := by
  rw [expand_eq_foldl]
  exact h.foldl_eq line

/-- On a line where markers touch, with the passes the other way round. -/
theorem expand_of_perm_reversed :
    [Pass.comment, .classes, .ids].Perm [.ids, .classes, .comment] ∧
      [Pass.comment, .classes, .ids].foldl (fun t pass => pass.run t)
          (text "@#a@.b@@#@.@#c@.@//d") =
        text "<span id='a'></span><span class='b@'></span>@#@.@#c@." := by
  have hperm : [Pass.comment, .classes, .ids].Perm [.ids, .classes, .comment] := by decide
  refine ⟨hperm, ?_⟩
  rw [expand_of_perm hperm]
  decide +kernel

/-- An expanded line is left as it is by each pass, and so by all of them. -/
theorem settled_expand (line : Text) :
    expand (expand line) = expand line ∧ ∀ pass : Pass, pass.run (expand line) = expand line := by
  have hpass : ∀ pass : Pass, pass.run (expand line) = expand line := by
    intro pass
    -- The passes can be reordered so that this one is the last.
    obtain ⟨order, hperm⟩ : ∃ order : List Pass, [Pass.ids, .classes, .comment].Perm (order ++ [pass]) := by
      cases pass with
      | ids => exact ⟨[.classes, .comment], by decide⟩
      | classes => exact ⟨[.ids, .comment], by decide⟩
      | comment => exact ⟨[.ids, .classes], by decide⟩
    rw [expand_eq_foldl, hperm.foldl_eq, List.foldl_concat, pass.run_run]
  refine ⟨?_, hpass⟩
  rw [expand_eq_foldl (expand line)]
  simp only [List.foldl_cons, List.foldl_nil, hpass]

end DocPress.Annotations
