import DocPress.Proofs.Annotations.Passage

namespace DocPress.Annotations

def replacedIf (counts : Bool) (marker : Text) (span : Text → Text) (line : Text) : Text :=
  if counts then substituted marker span line else line

section replacedIf

variable {counts : Bool} {marker : Text} {span : Text → Text}

theorem marked?_eq_none_iff {t : Text} :
    marked? counts marker t = none ↔ counts = true → ¬marker <+: t := by
  cases counts <;> simp [marked?, Text.after?_eq_none_iff]

theorem marked?_eq_some_iff {t rest : Text} :
    marked? counts marker t = some rest ↔ counts = true ∧ t = marker ++ rest := by
  cases counts <;> simp [marked?, Text.after?_eq_some]

theorem replacedIf_nil (hm : marker ∈ markers) : replacedIf counts marker span [] = [] := by
  unfold replacedIf
  split
  · exact substituted_nil (ne_nil_of_mem_markers hm)
  · rfl

theorem replacedIf_cons {c : CodePoint} {r : Text} (h : counts = true → ¬marker <+: c :: r) :
    replacedIf counts marker span (c :: r) = c :: replacedIf counts marker span r := by
  unfold replacedIf
  split
  · exact substituted_cons (h ‹_›)
  · rfl

theorem replacedIf_append {a : Text} (h : Skips marker a) (x : Text) :
    replacedIf counts marker span (a ++ x) = a ++ replacedIf counts marker span x := by
  induction a with
  | nil => rfl
  | cons c a ih => rw [List.cons_append, replacedIf_cons fun _ => h.1 x, ih h.2, List.cons_append]

theorem replacedIf_true_of_unnamed (hm : marker ∈ markers) {rest : Text} (h : nameOf rest = []) :
    replacedIf true marker span (marker ++ rest) = marker ++ rest := by
  rw [replacedIf, if_pos rfl, substituted_marker_of_unnamed (ne_nil_of_mem_markers hm) h]

theorem replacedIf_true (hm : marker ∈ markers) {rest : Text} (h : nameOf rest ≠ []) :
    replacedIf true marker span (marker ++ rest) =
      span (nameOf rest) ++ replacedIf true marker span (afterName rest) := by
  simp only [replacedIf, if_pos, substituted_marker (ne_nil_of_mem_markers hm) h]

theorem sameStart_replacedIf (hm : marker ∈ markers)
    (hs : ∀ name, ∃ rest, span name = less :: rest) (t : Text) :
    SameStart t (replacedIf counts marker span t) := by
  induction t with
  | nil =>
    rw [replacedIf_nil hm]
    exact .refl []
  | cons c r ih =>
    by_cases hc : counts = true ∧ marker <+: c :: r
    · obtain ⟨rfl, rest, hr⟩ := hc
      rw [← hr]
      by_cases hn : nameOf rest = []
      · rw [replacedIf_true_of_unnamed hm hn]
        exact .refl _
      · obtain ⟨x, hx⟩ := hs (nameOf rest)
        rw [replacedIf_true hm hn, hx]
        exact .stop (stops_marker hm rest) (stops_less _)
    · rw [replacedIf_cons fun h hp => hc ⟨h, hp⟩]
      exact ih.cons c

theorem replacedIf_eq_nameOf_append (hm : marker ∈ markers) (t : Text) :
    replacedIf counts marker span t = nameOf t ++ replacedIf counts marker span (afterName t) :=
  eq_nameOf_append (fun _ _ hn =>
    replacedIf_cons fun _ => (nameOf_cons_ne_nil hn).2 marker (markers_subset hm)) t

theorem nameOf_replacedIf (hm : marker ∈ markers)
    (hs : ∀ name, ∃ rest, span name = less :: rest) (t : Text) :
    nameOf (replacedIf counts marker span t) = nameOf t :=
  (sameStart_replacedIf hm hs t).nameOf_eq.symm

theorem afterName_replacedIf (hm : marker ∈ markers)
    (hs : ∀ name, ∃ rest, span name = less :: rest) (t : Text) :
    afterName (replacedIf counts marker span t) = replacedIf counts marker span (afterName t) := by
  rw [afterName, nameOf_replacedIf hm hs, replacedIf_eq_nameOf_append hm t, List.drop_left]

end replacedIf

theorem idSpan_eq_less_cons (name : Text) : ∃ rest, idSpan name = less :: rest := ⟨_, rfl⟩

theorem classSpan_eq_less_cons (name : Text) : ∃ rest, classSpan name = less :: rest := ⟨_, rfl⟩

theorem idMarker_mem : idMarker ∈ markers := by decide

theorem classMarker_mem : classMarker ∈ markers := by decide

theorem commentMarker_mem : commentMarker ∈ markers := by decide

theorem stripComment_comment (rest : Text) : stripComment (commentMarker ++ rest) = [] := by
  rw [stripComment, Text.breakOn_append (by decide)]

theorem stripComment_cons {c : CodePoint} {r : Text} (h : ¬commentMarker <+: c :: r) :
    stripComment (c :: r) = c :: stripComment r := by
  rw [stripComment, Text.breakOn_cons h, stripComment]
  cases Text.breakOn commentMarker r <;> rfl

theorem stripComment_append {a : Text} (h : Skips commentMarker a) (x : Text) :
    stripComment (a ++ x) = a ++ stripComment x := by
  induction a with
  | nil => rfl
  | cons c a ih => rw [List.cons_append, stripComment_cons (h.1 x), ih h.2, List.cons_append]

/-- Ids, then classes, then the comment, of the kinds that still count. -/
def passes (ids classes : Bool) (line : Text) : Text :=
  stripComment (replacedIf classes classMarker classSpan (replacedIf ids idMarker idSpan line))

theorem expand_eq_passes (line : Text) : expand line = passes true true line := by
  rw [expand, replaceTags_eq_substituted idMarker_ne_nil (by decide),
    replaceTags_eq_substituted classMarker_ne_nil (by decide)]
  rfl

section passes

variable {ids classes : Bool}

theorem passes_nil : passes ids classes [] = [] := by
  rw [passes, replacedIf_nil idMarker_mem, replacedIf_nil classMarker_mem]
  rfl

theorem passes_comment (rest : Text) : passes ids classes (commentMarker ++ rest) = [] := by
  rw [passes, replacedIf_append (skips_marker idMarker_mem commentMarker_mem (by decide)),
    replacedIf_append (skips_marker classMarker_mem commentMarker_mem (by decide)),
    stripComment_comment]

theorem passes_id_of_unnamed {rest : Text} (h : nameOf rest = []) :
    passes true classes (idMarker ++ rest) = idMarker ++ passes false classes rest := by
  rw [passes, replacedIf_true_of_unnamed idMarker_mem h,
    replacedIf_append (skips_marker classMarker_mem idMarker_mem (by decide)),
    stripComment_append (skips_marker commentMarker_mem idMarker_mem (by decide))]
  rfl

theorem passes_id {rest : Text} (h : nameOf rest ≠ []) :
    passes true classes (idMarker ++ rest) =
      idSpan (nameOf rest) ++ passes true classes (afterName rest) := by
  rw [passes, replacedIf_true idMarker_mem h, replacedIf_append (skips_idSpan classMarker_mem _),
    stripComment_append (skips_idSpan commentMarker_mem _)]
  rfl

theorem passes_class_of_unnamed {rest : Text} (h : nameOf rest = []) :
    passes ids true (classMarker ++ rest) = classMarker ++ passes ids false rest := by
  have hname : nameOf (replacedIf ids idMarker idSpan rest) = [] := by
    rw [nameOf_replacedIf idMarker_mem idSpan_eq_less_cons, h]
  rw [passes, replacedIf_append (skips_marker idMarker_mem classMarker_mem (by decide)),
    replacedIf_true_of_unnamed classMarker_mem hname,
    stripComment_append (skips_marker commentMarker_mem classMarker_mem (by decide))]
  rfl

theorem passes_class {rest : Text} (h : nameOf rest ≠ []) :
    passes ids true (classMarker ++ rest) =
      classSpan (nameOf rest) ++ passes ids true (afterName rest) := by
  have hname : nameOf (replacedIf ids idMarker idSpan rest) = nameOf rest :=
    nameOf_replacedIf idMarker_mem idSpan_eq_less_cons rest
  rw [passes, replacedIf_append (skips_marker idMarker_mem classMarker_mem (by decide)),
    replacedIf_true classMarker_mem (hname ▸ h), hname,
    afterName_replacedIf idMarker_mem idSpan_eq_less_cons,
    stripComment_append (skips_classSpan commentMarker_mem _)]
  rfl

theorem passes_cons {c : CodePoint} {r : Text} (hc : ¬commentMarker <+: c :: r)
    (hi : ids = true → ¬idMarker <+: c :: r) (hm : classes = true → ¬classMarker <+: c :: r) :
    passes ids classes (c :: r) = c :: passes ids classes r := by
  -- What has become of `r` does not turn the code point before it into a marker.
  have hids : SameStart r (replacedIf ids idMarker idSpan r) :=
    sameStart_replacedIf idMarker_mem idSpan_eq_less_cons r
  have hboth : SameStart (replacedIf ids idMarker idSpan r)
      (replacedIf classes classMarker classSpan (replacedIf ids idMarker idSpan r)) :=
    sameStart_replacedIf classMarker_mem classSpan_eq_less_cons _
  rw [passes, replacedIf_cons hi, replacedIf_cons, stripComment_cons, passes]
  · rwa [← hboth.terminator_prefix_iff (markers_subset commentMarker_mem),
      ← hids.terminator_prefix_iff (markers_subset commentMarker_mem)]
  · intro hcounts
    rw [← hids.terminator_prefix_iff (markers_subset classMarker_mem)]
    exact hm hcounts

theorem passes_append {a : Text} (hc : Skips commentMarker a) (hi : Skips idMarker a)
    (hm : Skips classMarker a) (x : Text) :
    passes ids classes (a ++ x) = a ++ passes ids classes x := by
  rw [passes, replacedIf_append hi, replacedIf_append hm, stripComment_append hc, passes]

end passes

theorem passes_eq_scan (ids classes : Bool) (line : Text) :
    passes ids classes line = scan ids classes line := by
  unfold scan
  -- Each step of the scan is a law of the passes.
  fun_induction piecesOf ids classes line with
  | case1 ids classes => exact passes_nil
  | case2 ids classes c r hc =>
    obtain ⟨rest, hr⟩ := Text.after?_isSome_iff.1 hc
    rw [← hr, passes_comment]
    rfl
  | case3 ids classes c r _ rest hm hn ih =>
    obtain ⟨rfl, hr⟩ := marked?_eq_some_iff.1 hm
    rw [hr, passes_id_of_unnamed hn, ih]
    rfl
  | case4 ids classes c r _ rest hm hn ih =>
    obtain ⟨rfl, hr⟩ := marked?_eq_some_iff.1 hm
    rw [hr, passes_id hn, ih]
    rfl
  | case5 ids classes c r _ rest _ hm hn ih =>
    obtain ⟨rfl, hr⟩ := marked?_eq_some_iff.1 hm
    rw [hr, passes_class_of_unnamed hn, ih]
    rfl
  | case6 ids classes c r _ rest _ hm hn ih =>
    obtain ⟨rfl, hr⟩ := marked?_eq_some_iff.1 hm
    rw [hr, passes_class hn, ih]
    rfl
  | case7 ids classes c r hc hi hm ih =>
    rw [passes_cons (mt Text.after?_isSome_iff.2 hc) (marked?_eq_none_iff.1 hi)
      (marked?_eq_none_iff.1 hm), ih]
    rfl

theorem expand_eq_scan (line : Text) : expand line = scan true true line := by
  rw [expand_eq_passes, passes_eq_scan]

theorem sameStart_scan (ids classes : Bool) (line : Text) :
    SameStart line (scan ids classes line) := by
  unfold scan
  fun_induction piecesOf ids classes line with
  | case1 => exact .refl []
  | case2 ids classes c r hc =>
    obtain ⟨rest, hr⟩ := Text.after?_isSome_iff.1 hc
    exact .stop (hr ▸ stops_marker commentMarker_mem rest) stops_nil
  | case3 ids classes c r _ rest hm =>
    exact .stop ((marked?_eq_some_iff.1 hm).2 ▸ stops_marker idMarker_mem rest)
      (stops_marker idMarker_mem _)
  | case4 ids classes c r _ rest hm =>
    exact .stop ((marked?_eq_some_iff.1 hm).2 ▸ stops_marker idMarker_mem rest) (stops_less _)
  | case5 ids classes c r _ rest _ hm =>
    exact .stop ((marked?_eq_some_iff.1 hm).2 ▸ stops_marker classMarker_mem rest)
      (stops_marker classMarker_mem _)
  | case6 ids classes c r _ rest _ hm =>
    exact .stop ((marked?_eq_some_iff.1 hm).2 ▸ stops_marker classMarker_mem rest) (stops_less _)
  | case7 ids classes c r _ _ _ ih => exact ih.cons c

theorem nameOf_scan (ids classes : Bool) (line : Text) :
    nameOf (scan ids classes line) = nameOf line :=
  (sameStart_scan ids classes line).nameOf_eq.symm

/-- Nothing is left for the passes in what the scan has gone through. -/
theorem passes_scan (ids classes : Bool) (line : Text) :
    passes ids classes (scan ids classes line) = scan ids classes line := by
  unfold scan
  fun_induction piecesOf ids classes line with
  | case1 => exact passes_nil
  | case2 => exact passes_nil
  | case3 ids classes c r _ rest hm hn ih =>
    obtain ⟨rfl, -⟩ := marked?_eq_some_iff.1 hm
    rw [List.flatMap_cons, Piece.written, passes_id_of_unnamed ((nameOf_scan ..).trans hn), ih]
  | case4 ids classes c r _ rest hm hn ih =>
    rw [List.flatMap_cons, Piece.written, passes_append (skips_idSpan commentMarker_mem _)
      (skips_idSpan idMarker_mem _) (skips_idSpan classMarker_mem _), ih]
  | case5 ids classes c r _ rest _ hm hn ih =>
    obtain ⟨rfl, -⟩ := marked?_eq_some_iff.1 hm
    rw [List.flatMap_cons, Piece.written, passes_class_of_unnamed ((nameOf_scan ..).trans hn), ih]
  | case6 ids classes c r _ rest _ hm hn ih =>
    rw [List.flatMap_cons, Piece.written, passes_append (skips_classSpan commentMarker_mem _)
      (skips_classSpan idMarker_mem _) (skips_classSpan classMarker_mem _), ih]
  | case7 ids classes c r hc hi hm ih =>
    -- The scan of `r` makes no marker of `c` that was not there before.
    have hs : ∀ marker ∈ markers, marker <+: c :: scan ids classes r → marker <+: c :: r :=
      fun marker hmem =>
        ((sameStart_scan ids classes r).terminator_prefix_iff (markers_subset hmem) c).2
    rw [List.flatMap_cons, Piece.written, List.singleton_append, passes_cons, ih]
    · exact fun hp => hc (Text.after?_isSome_iff.2 (hs _ commentMarker_mem hp))
    · exact fun hcounts hp => marked?_eq_none_iff.1 hi hcounts (hs _ idMarker_mem hp)
    · exact fun hcounts hp => marked?_eq_none_iff.1 hm hcounts (hs _ classMarker_mem hp)

theorem expand_expand (line : Text) : expand (expand line) = expand line := by
  rw [expand_eq_scan line, expand_eq_passes, passes_scan]

theorem expand_of_not_infix {line : Text} (h : ∀ marker ∈ markers, ¬marker <:+: line) :
    expand line = line := by
  rw [expand_eq_passes]
  induction line with
  | nil => exact passes_nil
  | cons c r ih =>
    have hr : ∀ marker ∈ markers, ¬marker <:+: r := fun marker hm hi =>
      h marker hm (hi.trans (List.suffix_cons c r).isInfix)
    have hc : ∀ marker ∈ markers, ¬marker <+: c :: r := fun marker hm hp =>
      h marker hm hp.isInfix
    rw [passes_cons (hc _ commentMarker_mem) (fun _ => hc _ idMarker_mem)
      (fun _ => hc _ classMarker_mem), ih hr]

theorem mem_idSpan {x : CodePoint} {name : Text} (h : x ∈ idSpan name) : x ∈ name ∨ x ∈ idSpan [] := by
  simp only [idSpan, List.mem_append, List.not_mem_nil, or_false] at h ⊢
  tauto

theorem mem_classSpan {x : CodePoint} {name : Text} (h : x ∈ classSpan name) :
    x ∈ name ∨ x ∈ classSpan [] := by
  simp only [classSpan, List.mem_append, List.not_mem_nil, or_false] at h ⊢
  tauto

theorem mem_scan {x : CodePoint} {ids classes : Bool} {line : Text}
    (h : x ∈ scan ids classes line) : x ∈ line ∨ x ∈ idSpan [] ∨ x ∈ classSpan [] := by
  have hname : ∀ {rest : Text}, x ∈ nameOf rest → x ∈ rest := fun hx =>
    (nameOf_isPrefix _).subset hx
  have hafter : ∀ {rest : Text}, x ∈ afterName rest → x ∈ rest := fun hx =>
    List.drop_subset _ _ hx
  unfold scan at h
  fun_induction piecesOf ids classes line with
  | case1 => exact .inl h
  | case2 => exact absurd h List.not_mem_nil
  | case3 ids classes c r _ rest hm hn ih =>
    rw [(marked?_eq_some_iff.1 hm).2]
    rcases List.mem_append.1 h with h | h
    · exact .inl (List.mem_append_left _ h)
    · exact (ih h).imp_left (List.mem_append_right _)
  | case4 ids classes c r _ rest hm hn ih =>
    rw [(marked?_eq_some_iff.1 hm).2]
    rcases List.mem_append.1 h with h | h
    · rcases mem_idSpan h with h | h
      · exact .inl (List.mem_append_right _ (hname h))
      · exact .inr (.inl h)
    · exact (ih h).imp_left fun h => List.mem_append_right _ (hafter h)
  | case5 ids classes c r _ rest _ hm hn ih =>
    rw [(marked?_eq_some_iff.1 hm).2]
    rcases List.mem_append.1 h with h | h
    · exact .inl (List.mem_append_left _ h)
    · exact (ih h).imp_left (List.mem_append_right _)
  | case6 ids classes c r _ rest _ hm hn ih =>
    rw [(marked?_eq_some_iff.1 hm).2]
    rcases List.mem_append.1 h with h | h
    · rcases mem_classSpan h with h | h
      · exact .inl (List.mem_append_right _ (hname h))
      · exact .inr (.inr h)
    · exact (ih h).imp_left fun h => List.mem_append_right _ (hafter h)
  | case7 ids classes c r _ _ _ ih =>
    rcases List.mem_cons.1 h with rfl | h
    · exact .inl List.mem_cons_self
    · exact (ih h).imp_left (List.mem_cons_of_mem c)

theorem mem_expand {x : CodePoint} {line : Text} (h : x ∈ expand line) :
    x ∈ line ∨ x ∈ idSpan [] ∨ x ∈ classSpan [] :=
  mem_scan (expand_eq_scan line ▸ h)

theorem sameStart_expand (line : Text) : SameStart line (expand line) := by
  rw [expand_eq_scan]
  exact sameStart_scan true true line

end DocPress.Annotations
