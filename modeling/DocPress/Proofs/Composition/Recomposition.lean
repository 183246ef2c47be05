import DocPress.Proofs.Composition.ContextFree
import DocPress.Proofs.Composition.OwnLines

namespace DocPress.Composition

open Annotations (markers)

/-- The names of a tree break no line and hold no annotation. -/
structure Part.IsInert (p : Part) : Prop where
  newline_notMem : ∀ name ∈ p.names, ('\n' : CodePoint) ∉ name
  noAnnotation : ∀ name ∈ p.names, ∀ marker ∈ markers, ¬marker <:+: name

theorem return_notMem_unifyNewlines (t : Text) : ('\r' : CodePoint) ∉ Text.unifyNewlines t := by
  have hr : ('\r' : CodePoint) ≠ ('\n' : CodePoint) := by decide
  fun_induction Text.unifyNewlines t with
  | case1 => exact List.not_mem_nil
  | case2 _ ih => simp [hr, ih]
  | case3 _ _ _ ih => simp [hr, ih]
  | case4 => simp [hr]
  | case5 c r hc ih => simp [Ne.symm hc, ih]

theorem return_notMem_of_readText {s : Site} {document : Path} {code : Text}
    (h : s.readText document = .ok code) : ('\r' : CodePoint) ∉ code := by
  unfold Site.readText at h
  split at h
  · cases h
  · cases h
  · split at h
    · rw [← Except.ok.inj h]
      exact return_notMem_unifyNewlines _
    · cases h

theorem HasTree.return_notMem {s : Site} {file : Path} {code : Text} {base : Option Path}
    {tree : Part} (h : HasTree s file code base tree) (hcode : ('\r' : CodePoint) ∉ code) :
    ∀ t ∈ tree.texts, ('\r' : CodePoint) ∉ t := by
  intro t ht hm
  obtain ⟨code', hcomposed, line, hl, -, rfl⟩ := h.mem_texts ht
  have hcode' : ('\r' : CodePoint) ∉ code' := by
    rcases hcomposed with rfl | ⟨document, hc⟩
    · exact hcode
    · exact return_notMem_of_readText hc
  rcases Annotations.mem_expand hm with hm | hm | hm
  · exact hcode' (subset_of_mem_sourceLines hl hm)
  · exact absurd hm (by decide)
  · exact absurd hm (by decide)

/-- What composing passes on as it is: no import, nothing to expand, no return to cut off. -/
structure IsSettledLine (line : Text) : Prop where
  noImport : Text.after? importMarker line = none
  expand_eq : Annotations.expand line = line
  noReturn : line.getLast? ≠ some ('\r' : CodePoint)

def space : CodePoint := ' '

/-- A comment that names a file has nothing to expand but what the name holds: no annotation reaches
over the spaces around it. -/
theorem isSettledLine_marker {opening name : Text}
    (hi : Text.after? importMarker (opening ++ [space] ++ name ++ markerClosing) = none)
    (ho : ∀ marker ∈ markers, ¬marker <:+: opening) (hn : ∀ marker ∈ markers, ¬marker <:+: name) :
    IsSettledLine (opening ++ [space] ++ name ++ markerClosing) := by
  have hline : opening ++ [space] ++ name ++ markerClosing =
      opening ++ space :: (name ++ space :: text "-->") := by
    simp only [List.append_assoc, List.singleton_append]
    rfl
  refine ⟨hi, ?_, ?_⟩
  · rw [hline]
    apply Annotations.expand_of_not_infix
    intro marker hm
    have hne : marker ≠ [] := Annotations.ne_nil_of_mem_markers hm
    have hspace : ∀ marker ∈ markers, space ∉ marker := by decide
    have hclosing : ∀ marker ∈ markers, ¬marker <:+: text "-->" := by decide
    exact Text.not_infix_append_cons hne (hspace marker hm) (ho marker hm)
      (Text.not_infix_append_cons hne (hspace marker hm) (hn marker hm) (hclosing marker hm))
  · have hlast : markerClosing.getLast? = some ('>' : CodePoint) := by decide
    rw [List.getLast?_append, hlast, Option.some_or]
    decide

theorem isSettledLine_startMarker {name : Text} (hn : ∀ marker ∈ markers, ¬marker <:+: name) :
    IsSettledLine (startMarker name) := by
  have ho : startOpening = text "<!-- Importado del archivo" ++ [space] := by decide
  rw [startMarker, ho]
  exact isSettledLine_marker rfl (by decide) hn

theorem isSettledLine_endMarker {name : Text} (hn : ∀ marker ∈ markers, ¬marker <:+: name) :
    IsSettledLine (endMarker name) := by
  have ho : endOpening = text "<!-- fin del archivo" ++ [space] := by decide
  rw [endMarker, ho]
  exact isSettledLine_marker rfl (by decide) hn

theorem HasTree.isSettledLine {s : Site} {file : Path} {code : Text} {base : Option Path}
    {tree : Part} (h : HasTree s file code base tree) (hcode : ('\r' : CodePoint) ∉ code)
    (hi : tree.IsInert) : ∀ l ∈ tree.lines, IsSettledLine l := by
  intro l hl
  rcases Part.mem_lines hl with ht | ⟨name, hn, rfl | rfl⟩
  · obtain ⟨code', -, line, -, hm, rfl⟩ := h.mem_texts ht
    refine ⟨after?_importMarker_expand hm, Annotations.expand_expand line, fun hr => ?_⟩
    exact h.return_notMem hcode _ ht (List.mem_of_getLast? hr)
  · exact isSettledLine_startMarker (hi.noAnnotation name hn)
  · exact isSettledLine_endMarker (hi.noAnnotation name hn)

theorem HasTree.getLast?_lines {s : Site} {file : Path} {code : Text} {base : Option Path}
    {tree : Part} (h : HasTree s file code base tree) : tree.lines.getLast? ≠ some [] := by
  cases h with
  | @file _ _ _ name =>
    have hne : endMarker name ≠ [] := List.cons_ne_nil _ _
    rw [Part.lines, ← List.cons_append, List.getLast?_concat]
    exact fun h => hne (Option.some.inj h)

theorem HasTree.sourceLines_written {s : Site} {file : Path} {code : Text} {base : Option Path}
    {tree : Part} (h : HasTree s file code base tree) (hcode : ('\r' : CodePoint) ∉ code)
    (hi : tree.IsInert) : sourceLines tree.written = tree.lines := by
  have hreturn : ∀ l ∈ tree.lines, withoutReturn l = l := fun l hl =>
    if_neg (h.isSettledLine hcode hi l hl).noReturn
  simp only [sourceLines, h.splitAt_written hi.newline_notMem, if_neg h.getLast?_lines]
  rw [List.map_congr_left hreturn, List.map_id']

theorem hasParts_of_isSettledLine (s : Site) (directory : Path) {lines : List Text}
    (h : ∀ l ∈ lines, IsSettledLine l) : HasParts s directory lines (lines.map .line) := by
  induction lines with
  | nil => exact .nil
  | cons l rest ih =>
    obtain ⟨hm, he, -⟩ := h l List.mem_cons_self
    have hl := HasParts.line hm (ih fun k hk => h k (List.mem_cons_of_mem l hk))
    rwa [he] at hl

theorem greatestHeight_map_line (lines : List Text) :
    Part.greatestHeight (lines.map .line) = 0 := by
  induction lines with
  | nil => rfl
  | cons l rest ih => rw [List.map_cons, Part.greatestHeight, ih]; rfl

theorem block_lines (name : Text) {lines : List Text} (hn : lines ≠ []) :
    block name lines =
      startMarker name ++ text "\n" ++ Text.join (text "\n") lines ++ text "\n" ++ endMarker name := by
  have hend : [endMarker name] ≠ [] := List.cons_ne_nil _ _
  rw [block, Text.join_cons _ _ (List.append_ne_nil_of_right_ne_nil _ hend),
    Text.join_append _ hn hend, Text.join_singleton]
  simp only [List.append_assoc]

/-- Composing a composed document again, under any name and in any directory that is there, puts a
pair of markers around it and changes nothing else: it asks for no document, since no line of it is
an import, and each line is what it expands to. -/
theorem composeAt_composed {s s' : Site} {maximum maximum' depth depth' : Int}
    {file file' directory : Path} {code document : Text} {base base' : Option Path} {tree : Part}
    (h : composeAt s maximum depth file code base = .ok document)
    (ht : HasTree s file code base tree) (hi : tree.IsInert) (hcode : ('\r' : CodePoint) ∉ code)
    (hu : file'.toText.isUnicode = true) (hn : file'.name ≠ []) (hdots : file'.name ≠ Path.dotDot)
    (hd : s'.absolute file'.parent base' = .ok directory)
    (his : s'.isDirectory directory = .ok true) (hdepth : depth' < maximum') :
    composeAt s' maximum' depth' file' document base' =
        .ok (startMarker file'.name ++ text "\n" ++ document ++ text "\n" ++ endMarker file'.name) ∧
      (∀ q, Asks s' file' document base' q → q = .directory directory) ∧
      ∀ line ∈ Text.splitAt '\n' document,
        Text.after? importMarker line = none ∧ Annotations.expand line = line := by
  obtain ⟨tree', ht', -, rfl⟩ := composeAt_eq_ok_iff.1 h
  obtain rfl := ht.unique ht'
  have hsettled := ht.isSettledLine hcode hi
  have hsource : sourceLines tree.written = tree.lines := ht.sourceLines_written hcode hi
  have hname : displayName file' = .ok file'.name :=
    displayName_eq_ok_iff.2 ⟨hn, hdots, Path.isUnicode_name hn hu, rfl⟩
  -- The new tree is one file all of whose parts are lines.
  refine ⟨composeAt_eq_ok_iff.2 ⟨.file file'.name (tree.lines.map .line), ?_, ?_, ?_⟩, ?_, ?_⟩
  · refine .file hu hname (container_eq_ok_iff.2 ⟨hd, his⟩) ?_
    rw [hsource]
    exact hasParts_of_isSettledLine s' directory hsettled
  · rw [Part.links, greatestHeight_map_line]
    omega
  · have hwritten : (tree.lines.map Part.line).map Part.written = tree.lines := by
      rw [List.map_map]
      exact List.map_id'' (fun _ => rfl) _
    rw [Part.written, Part.writtenEach_eq_map, hwritten, block_lines _ tree.lines_ne_nil,
      tree.written_eq_join_lines]
  · intro q hq
    refine hq.eq_directory hd fun line hl => ?_
    rw [hsource] at hl
    exact (hsettled line hl).noImport
  · intro line hl
    rw [ht.splitAt_written hi.newline_notMem] at hl
    exact ⟨(hsettled line hl).noImport, (hsettled line hl).expand_eq⟩

theorem composeAt_composed_diamond :
    ∃ (document : Text) (tree : Part),
      composeAt ⟨diamond, []⟩ 3 0 (.ofText (text "/d/a")) (text "@import b\n@.y @import c") none =
          .ok document ∧
        HasTree ⟨diamond, []⟩ (.ofText (text "/d/a")) (text "@import b\n@.y @import c") none tree ∧
        tree.IsInert ∧ ('\r' : CodePoint) ∉ text "@import b\n@.y @import c" ∧
        composeAt ⟨diamond, [text "d"]⟩ 0 (-1) (.ofText (text "n@\t.md")) document none =
          .ok (startMarker (text "n@\t.md") ++ text "\n" ++ document ++ text "\n" ++
            endMarker (text "n@\t.md")) := by
  have hrun : ((treeFrom ⟨diamond, []⟩ 3 3 0 (.ofText (text "/d/a"))
      (text "@import b\n@.y @import c") none).map Part.names).toOption =
        some [text "a", text "b.md", text "e.md"] := by
    decide +kernel
  obtain ⟨tree, htree, hnames⟩ := exists_eq_ok_of_map hrun
  have ht := (treeFrom_eq_ok_iff.1 htree).1
  have hi : tree.IsInert := by
    constructor <;> rw [hnames] <;> decide
  have hcode : ('\r' : CodePoint) ∉ text "@import b\n@.y @import c" := by decide
  have h : composeAt ⟨diamond, []⟩ 3 0 (.ofText (text "/d/a")) (text "@import b\n@.y @import c") none =
      .ok tree.written := congrArg (Except.map Part.written) htree
  have hd : Site.absolute ⟨diamond, [text "d"]⟩ (Path.ofText (text "n@\t.md")).parent none =
      .ok (.ofText (text "/d")) := eq_ok_of_toOption (by decide +kernel)
  have his : Site.isDirectory ⟨diamond, [text "d"]⟩ (.ofText (text "/d")) = .ok true :=
    eq_ok_of_toOption (by decide +kernel)
  exact ⟨tree.written, tree, h, ht, hi, hcode,
    (composeAt_composed h ht hi hcode (by decide) (by decide) (by decide) hd his (by decide)).1⟩

end DocPress.Composition
