import DocPress.Proofs.Annotations.Expansion
import DocPress.Proofs.Composition.ImportTree

namespace DocPress.Composition

/-- A line of the code that imports nothing, with its annotations expanded. -/
def IsExpandedLine (code t : Text) : Prop :=
  ∃ line ∈ sourceLines code, Text.after? importMarker line = none ∧ t = Annotations.expand line

/-- A text is the one that composing began with, or that of a file. -/
def IsComposed (s : Site) (code code' : Text) : Prop :=
  code' = code ∨ ∃ document, s.readText document = .ok code'

theorem HasTree.mem_texts {s : Site} {file : Path} {code : Text} {base : Option Path} {tree : Part}
    (h : HasTree s file code base tree) {t : Text} (ht : t ∈ tree.texts) :
    ∃ code', IsComposed s code code' ∧ IsExpandedLine code' t := by
  refine @HasTree.rec s
    (fun _ code _ tree _ => ∀ t ∈ tree.texts, ∃ code', IsComposed s code code' ∧ IsExpandedLine code' t)
    (fun _ lines parts _ => ∀ t ∈ Part.textsOfEach parts,
      (∃ line ∈ lines, Text.after? importMarker line = none ∧ t = Annotations.expand line) ∨
        ∃ document code', s.readText document = .ok code' ∧ IsExpandedLine code' t)
    ?file ?nil ?line ?imported _ _ _ _ h t ht
  case file =>
    intro _ code _ _ _ _ _ _ _ _ ih t ht
    rcases ih t ht with hl | ⟨document, code', hc, hl⟩
    · exact ⟨code, .inl rfl, hl⟩
    · exact ⟨code', .inr ⟨document, hc⟩, hl⟩
  case nil => exact fun t ht => absurd ht List.not_mem_nil
  case line =>
    intro _ line rest parts hl _ ih t ht
    rcases List.mem_append.1 ht with ht | ht
    · exact .inl ⟨line, List.mem_cons_self, hl, List.mem_singleton.1 ht⟩
    · exact (ih t ht).imp_left fun ⟨l, hm, h⟩ => ⟨l, List.mem_cons_of_mem _ hm, h⟩
  case imported =>
    intro _ document _ _ code tree rest parts _ _ hc _ _ iht ihs t ht
    rcases List.mem_append.1 ht with ht | ht
    · obtain ⟨code', hcode, hl⟩ := iht t ht
      rcases hcode with rfl | ⟨document', hc'⟩
      · exact .inr ⟨document, code', hc, hl⟩
      · exact .inr ⟨document', code', hc', hl⟩
    · exact (ihs t ht).imp_left fun ⟨l, hm, h⟩ => ⟨l, List.mem_cons_of_mem _ hm, h⟩

theorem subset_withoutReturn (line : Text) : withoutReturn line ⊆ line := by
  unfold withoutReturn
  split
  · exact List.dropLast_subset line
  · exact List.Subset.refl line

theorem exists_piece_of_mem_sourceLines {code line : Text} (h : line ∈ sourceLines code) :
    ∃ piece ∈ Text.splitAt '\n' code, line = withoutReturn piece := by
  obtain ⟨piece, hp, rfl⟩ := List.mem_map.1 h
  refine ⟨piece, ?_, rfl⟩
  split at hp
  · exact List.dropLast_subset _ hp
  · exact hp

theorem newline_notMem_of_mem_sourceLines {code line : Text} (h : line ∈ sourceLines code) :
    ('\n' : CodePoint) ∉ line := by
  obtain ⟨piece, hp, rfl⟩ := exists_piece_of_mem_sourceLines h
  exact fun hm => Text.sep_notMem_of_mem_splitAt hp (subset_withoutReturn piece hm)

theorem subset_of_mem_sourceLines {code line : Text} (h : line ∈ sourceLines code) : line ⊆ code := by
  obtain ⟨piece, hp, rfl⟩ := exists_piece_of_mem_sourceLines h
  exact List.Subset.trans (subset_withoutReturn piece) (Text.subset_of_mem_splitAt hp)

theorem HasTree.newline_notMem {s : Site} {file : Path} {code : Text} {base : Option Path}
    {tree : Part} (h : HasTree s file code base tree) : ∀ t ∈ tree.texts, ('\n' : CodePoint) ∉ t := by
  intro t ht hm
  obtain ⟨code', -, line, hl, -, rfl⟩ := h.mem_texts ht
  rcases Annotations.mem_expand hm with hm | hm | hm
  · exact newline_notMem_of_mem_sourceLines hl hm
  · exact absurd hm (by decide)
  · exact absurd hm (by decide)

theorem HasTree.splitAt_written {s : Site} {file : Path} {code : Text} {base : Option Path}
    {tree : Part} (h : HasTree s file code base tree)
    (hn : ∀ name ∈ tree.names, ('\n' : CodePoint) ∉ name) :
    Text.splitAt '\n' tree.written = tree.lines := by
  rw [tree.written_eq_join_lines]
  exact Text.splitAt_join tree.lines_ne_nil (Part.newline_notMem_lines hn h.newline_notMem)

/-- Expanding a line never makes an import of it. -/
theorem after?_importMarker_expand {line : Text} (h : Text.after? importMarker line = none) :
    Text.after? importMarker (Annotations.expand line) = none := by
  have hm : importMarker = Annotations.atSign :: text "import " := rfl
  have hapart : Annotations.Apart importMarker := by
    unfold Annotations.Apart
    decide
  rw [Text.after?_eq_none_iff] at h ⊢
  rw [hm] at h hapart ⊢
  rwa [← (Annotations.sameStart_expand line).prefix_cons_iff hapart (by decide) (by decide)]

end DocPress.Composition
