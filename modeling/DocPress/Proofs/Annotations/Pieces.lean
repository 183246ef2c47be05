import DocPress.Proofs.Annotations.Expansion

namespace DocPress.Annotations

/-- What the pieces stand for in the line is all of it that is before the comment. -/
theorem exists_eq_source_append (ids classes : Bool) (line : Text) :
    ∃ rest, line = (piecesOf ids classes line).flatMap Piece.source ++ rest ∧
      (rest = [] ∨ commentMarker <+: rest) := by
  fun_induction piecesOf ids classes line with
  | case1 => exact ⟨[], rfl, .inl rfl⟩
  | case2 ids classes c r hc => exact ⟨c :: r, rfl, .inr (Text.after?_isSome_iff.1 hc)⟩
  | case3 ids classes c r _ rest hm hn ih =>
    obtain ⟨rest', h, hrest'⟩ := ih
    refine ⟨rest', ?_, hrest'⟩
    rw [(marked?_eq_some_iff.1 hm).2, List.flatMap_cons, List.append_assoc, ← h, Piece.source]
  | case4 ids classes c r _ rest hm hn ih =>
    obtain ⟨rest', h, hrest'⟩ := ih
    refine ⟨rest', ?_, hrest'⟩
    rw [(marked?_eq_some_iff.1 hm).2, List.flatMap_cons, List.append_assoc, ← h, Piece.source,
      List.append_assoc, nameOf_append_afterName]
  | case5 ids classes c r _ rest _ hm hn ih =>
    obtain ⟨rest', h, hrest'⟩ := ih
    refine ⟨rest', ?_, hrest'⟩
    rw [(marked?_eq_some_iff.1 hm).2, List.flatMap_cons, List.append_assoc, ← h, Piece.source]
  | case6 ids classes c r _ rest _ hm hn ih =>
    obtain ⟨rest', h, hrest'⟩ := ih
    refine ⟨rest', ?_, hrest'⟩
    rw [(marked?_eq_some_iff.1 hm).2, List.flatMap_cons, List.append_assoc, ← h, Piece.source,
      List.append_assoc, nameOf_append_afterName]
  | case7 ids classes c r _ _ _ ih =>
    obtain ⟨rest', h, hrest'⟩ := ih
    refine ⟨rest', ?_, hrest'⟩
    rw [List.flatMap_cons, List.append_assoc, ← h, Piece.source, List.singleton_append]

theorem isBlank_of_mem_nameOf {c : CodePoint} {t : Text} (h : c ∈ nameOf t) : c.isBlank = false := by
  induction t with
  | nil => exact absurd h List.not_mem_nil
  | cons d r ih =>
    obtain ⟨hb, ht⟩ := nameOf_cons_ne_nil (List.ne_nil_of_mem h)
    rw [nameOf_cons hb ht] at h
    rcases List.mem_cons.1 h with rfl | h
    · exact hb
    · exact ih h

theorem not_infix_nameOf {terminator : Text} (hm : terminator ∈ nameTerminators) (t : Text) :
    ¬terminator <:+: nameOf t := by
  have hne : ∀ u ∈ nameTerminators, u ≠ [] := by decide
  induction t with
  | nil => exact fun h => hne _ hm (List.infix_nil.1 h)
  | cons c r ih =>
    by_cases hn : nameOf (c :: r) = []
    · rw [hn]
      exact fun h => hne _ hm (List.infix_nil.1 h)
    · obtain ⟨hb, ht⟩ := nameOf_cons_ne_nil hn
      rw [nameOf_cons hb ht, List.infix_cons_iff]
      rintro (hp | hi)
      · exact ht _ hm (hp.trans (List.cons_prefix_cons.2 ⟨rfl, nameOf_isPrefix r⟩))
      · exact ih hi

/-- A part of the line that a tag can have as its name. -/
structure IsNameIn (line name : Text) : Prop where
  ne_nil : name ≠ []
  isInfix : name <:+: line
  notBlank : ∀ c ∈ name, c.isBlank = false
  noTerminator : ∀ terminator ∈ nameTerminators, ¬terminator <:+: name

theorem isNameIn_nameOf {line before rest : Text} (h : nameOf rest ≠ [])
    (hline : line = before ++ rest) : IsNameIn line (nameOf rest) where
  ne_nil := h
  isInfix := hline ▸ (nameOf_isPrefix rest).isInfix.trans (List.suffix_append before rest).isInfix
  notBlank _ := isBlank_of_mem_nameOf
  noTerminator _ hm := not_infix_nameOf hm rest

theorem IsNameIn.of_append {a rest name : Text} (h : IsNameIn rest name) :
    IsNameIn (a ++ rest) name :=
  { h with isInfix := h.isInfix.trans (List.suffix_append a rest).isInfix }

theorem isNameIn_of_mem_piecesOf {ids classes : Bool} {line name : Text} {piece : Piece}
    (hp : piece ∈ piecesOf ids classes line) (hn : piece.name? = some name) : IsNameIn line name := by
  have hafter : ∀ {rest : Text}, IsNameIn (afterName rest) name → IsNameIn rest name := by
    intro rest h
    rw [← nameOf_append_afterName rest]
    exact h.of_append
  -- A name is a part of what is left of the line, which is a part of the line.
  fun_induction piecesOf ids classes line with
  | case1 => exact absurd hp List.not_mem_nil
  | case2 => exact absurd hp List.not_mem_nil
  | case3 ids classes c r _ rest hm _ ih =>
    rw [(marked?_eq_some_iff.1 hm).2]
    rcases List.mem_cons.1 hp with rfl | hp
    · cases hn
    · exact (ih hp).of_append
  | case4 ids classes c r _ rest hm hne ih =>
    rw [(marked?_eq_some_iff.1 hm).2]
    rcases List.mem_cons.1 hp with rfl | hp
    · obtain rfl := Option.some.inj hn
      exact isNameIn_nameOf hne rfl
    · exact (hafter (ih hp)).of_append
  | case5 ids classes c r _ rest _ hm _ ih =>
    rw [(marked?_eq_some_iff.1 hm).2]
    rcases List.mem_cons.1 hp with rfl | hp
    · cases hn
    · exact (ih hp).of_append
  | case6 ids classes c r _ rest _ hm hne ih =>
    rw [(marked?_eq_some_iff.1 hm).2]
    rcases List.mem_cons.1 hp with rfl | hp
    · obtain rfl := Option.some.inj hn
      exact isNameIn_nameOf hne rfl
    · exact (hafter (ih hp)).of_append
  | case7 ids classes c r _ _ _ ih =>
    rcases List.mem_cons.1 hp with rfl | hp
    · cases hn
    · exact (ih hp).of_append (a := [c])

/-- Expanding is one scan: it writes the pieces of the line, and the names that it puts in are parts
of the line. -/
theorem expand_eq_written (line : Text) :
    expand line = (piecesOf true true line).flatMap Piece.written ∧
      (∃ rest, line = (piecesOf true true line).flatMap Piece.source ++ rest ∧
        (rest = [] ∨ commentMarker <+: rest)) ∧
      ∀ piece ∈ piecesOf true true line, ∀ name, piece.name? = some name → IsNameIn line name := by
  refine ⟨?_, exists_eq_source_append true true line, fun _ hp _ => isNameIn_of_mem_piecesOf hp⟩
  rw [expand_eq_scan, scan]

def crowdedLine : Text := text "@#a@.b@@#@.@#c@.@//d"

/-- The name that runs up to a marker has the at sign before it. -/
theorem expand_eq_written_crowded :
    expand crowdedLine = text "<span id='a'></span><span class='b@'></span>@#@.@#c@." ∧
      Piece.class (text "b@") ∈ piecesOf true true crowdedLine ∧
      IsNameIn crowdedLine (text "b@") := by
  obtain ⟨-, -, hnames⟩ := expand_eq_written crowdedLine
  have hmem : Piece.class (text "b@") ∈ piecesOf true true crowdedLine := by
    decide +kernel
  exact ⟨by decide +kernel, hmem, hnames _ hmem _ rfl⟩

end DocPress.Annotations
