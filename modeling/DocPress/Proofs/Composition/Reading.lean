import DocPress.Composition.Markers
import DocPress.Proofs.Composition.OwnLines

namespace DocPress.Composition

/-- The markers can be told from the rest of the document, line by line. -/
structure Part.IsLegible (p : Part) : Prop where
  newline_notMem : ∀ name ∈ p.names, ('\n' : CodePoint) ∉ name
  noMarker : ∀ t ∈ p.texts, startName? t = none ∧ endName? t = none

theorem startName?_endMarker (name : Text) : startName? (endMarker name) = none := rfl

theorem startName?_eq_none_of_endName? {line name : Text} (h : endName? line = some name) :
    startName? line = none := by
  rw [between?_eq_some.1 h]
  exact startName?_endMarker name

namespace Progress

theorem next?_startMarker (files : List OpenFile) (name : Text) :
    next? (within files) (startMarker name) = some (within (⟨name, []⟩ :: files)) := by
  simp only [next?, startName?_startMarker]

theorem next?_endMarker (f : OpenFile) (files : List OpenFile) :
    next? (within (f :: files)) (endMarker f.name) = some (add (.file f.name f.parts.reverse) files) := by
  simp only [next?, startName?_endMarker, endName?_endMarker, if_pos]

theorem next?_line {line : Text} (h : startName? line = none ∧ endName? line = none) (f : OpenFile)
    (files : List OpenFile) :
    next? (within (f :: files)) line = some (add (.line line) (f :: files)) := by
  simp only [next?, h.1, h.2]

mutual

theorem foldlM_next?_lines : ∀ {p : Part},
    (∀ t ∈ p.texts, startName? t = none ∧ endName? t = none) → ∀ f files rest,
      (p.lines ++ rest).foldlM next? (within (f :: files)) =
        rest.foldlM next? (add p (f :: files))
  | .line t, h, f, files, rest => by
    rw [Part.lines, List.singleton_append, List.foldlM_cons,
      next?_line (h t List.mem_cons_self)]
    rfl
  | .file name parts, h, f, files, rest => by
    have hend : next? (within (⟨name, parts.reverse⟩ :: f :: files)) (endMarker name) =
        some (add (.file name parts) (f :: files)) := by
      have hnext := next?_endMarker ⟨name, parts.reverse⟩ (f :: files)
      rwa [List.reverse_reverse] at hnext
    rw [Part.lines, List.cons_append, List.foldlM_cons, next?_startMarker, List.append_assoc]
    change (Part.linesOfEach parts ++ _).foldlM next? _ = _
    rw [foldlM_next?_linesOfEach h, List.append_nil, List.singleton_append, List.foldlM_cons, hend]
    rfl

theorem foldlM_next?_linesOfEach : ∀ {parts : List Part},
    (∀ t ∈ Part.textsOfEach parts, startName? t = none ∧ endName? t = none) → ∀ name done files rest,
      (Part.linesOfEach parts ++ rest).foldlM next? (within (⟨name, done⟩ :: files)) =
        rest.foldlM next? (within (⟨name, parts.reverse ++ done⟩ :: files))
  | [], _, _, _, _, _ => rfl
  | p :: parts, h, name, done, files, rest => by
    rw [Part.linesOfEach, List.append_assoc,
      foldlM_next?_lines fun t ht => h t (List.mem_append_left _ ht), add,
      foldlM_next?_linesOfEach fun t ht => h t (List.mem_append_right _ ht), List.reverse_cons,
      List.append_assoc, List.singleton_append]

end

theorem foldlM_next?_file {name : Text} {parts : List Part}
    (h : ∀ t ∈ Part.textsOfEach parts, startName? t = none ∧ endName? t = none) :
    (Part.file name parts).lines.foldlM next? (within []) = some (finished (.file name parts)) := by
  have hnext := next?_endMarker ⟨name, parts.reverse⟩ []
  rw [List.reverse_reverse] at hnext
  rw [Part.lines, List.foldlM_cons, next?_startMarker]
  change (Part.linesOfEach parts ++ _).foldlM next? _ = _
  rw [foldlM_next?_linesOfEach h, List.append_nil, List.foldlM_cons, hnext]
  rfl

theorem next?_ne_within_nil (progress : Progress) (line : Text) :
    next? progress line ≠ some (within []) := by
  have hadd : ∀ p files, add p files ≠ within [] := by
    intro p files
    cases files <;> simp [add]
  unfold next?
  split
  · simp
  · split
    · simp
    · split <;> simp [hadd]
    · simp [hadd]
    · simp

/-- An end marker is only read where it names the innermost open file. -/
theorem innermost_of_endName? {files : List OpenFile} {line name : Text} {following : Progress}
    (hname : endName? line = some name) (h : next? (within files) line = some following) :
    ∃ parts rest, files = ⟨name, parts⟩ :: rest := by
  have hstart : startName? line = none := startName?_eq_none_of_endName? hname
  cases files with
  | nil => simp [next?, hstart, hname] at h
  | cons f rest =>
    have hf : f.name = name := by
      by_contra hne
      simp [next?, hstart, hname, hne] at h
    exact ⟨f.parts, rest, by rw [← hf]⟩

/-- Where a line is read, and how: the files that are open then, the innermost of which an end
marker names. -/
theorem exists_within_of_foldlM {before after : List Text} {line : Text} {progress : Progress}
    (h : (before ++ line :: after).foldlM next? (within []) = some progress) :
    ∃ files, before.foldlM next? (within []) = some (within files) ∧ (files = [] ↔ before = []) ∧
      ∀ name, endName? line = some name → ∃ parts rest, files = ⟨name, parts⟩ :: rest := by
  rw [List.foldlM_append, Option.bind_eq_bind, Option.bind_eq_some_iff] at h
  obtain ⟨reached, hbefore, h⟩ := h
  rw [List.foldlM_cons, Option.bind_eq_bind, Option.bind_eq_some_iff] at h
  obtain ⟨following, hline, -⟩ := h
  cases reached with
  | finished tree => cases hline
  | within files =>
    refine ⟨files, hbefore, ⟨?_, ?_⟩, ?_⟩
    · rintro rfl
      -- No line leaves all files closed and the document unfinished, so there was none.
      rcases List.eq_nil_or_concat before with rfl | ⟨front, last, rfl⟩
      · rfl
      · rw [List.concat_eq_append, List.foldlM_append, Option.bind_eq_bind,
          Option.bind_eq_some_iff] at hbefore
        obtain ⟨earlier, -, hlast⟩ := hbefore
        rw [List.foldlM_cons, Option.bind_eq_bind, Option.bind_eq_some_iff] at hlast
        obtain ⟨_, hlast, hnil⟩ := hlast
        cases hnil
        exact absurd hlast (next?_ne_within_nil earlier last)
    · rintro rfl
      simpa [eq_comm] using hbefore
    · exact fun name hname => innermost_of_endName? hname hline

end Progress

theorem foldlM_next?_written {s : Site} {file : Path} {code : Text} {base : Option Path}
    {tree : Part} (h : HasTree s file code base tree) (hl : tree.IsLegible) :
    (Text.splitAt '\n' tree.written).foldlM Progress.next? (.within []) = some (.finished tree) := by
  rw [h.splitAt_written hl.newline_notMem]
  cases h with
  | file => exact Progress.foldlM_next?_file hl.noMarker

theorem treeOf?_written {s : Site} {file : Path} {code : Text} {base : Option Path} {tree : Part}
    (h : HasTree s file code base tree) (hl : tree.IsLegible) : treeOf? tree.written = some tree := by
  rw [treeOf?, foldlM_next?_written h hl]

/-- A composed document is read back to the import tree it was composed of: at each line some files
are open, none before the first line only, and an end marker names the innermost of them; after the
last line the tree is complete. No other import tree of this kind has the same document. -/
theorem treeOf?_composeAt {s : Site} {maximum depth : Int} {file : Path} {code document : Text}
    {base : Option Path} {tree : Part} (h : composeAt s maximum depth file code base = .ok document)
    (ht : HasTree s file code base tree) (hl : tree.IsLegible) :
    (∀ before line after, Text.splitAt '\n' document = before ++ line :: after →
      ∃ files, before.foldlM Progress.next? (.within []) = some (.within files) ∧
        (files = [] ↔ before = []) ∧
        ∀ name, endName? line = some name → ∃ parts rest, files = ⟨name, parts⟩ :: rest) ∧
    (Text.splitAt '\n' document).foldlM Progress.next? (.within []) = some (.finished tree) ∧
    treeOf? document = some tree ∧
    ∀ (s' : Site) (file' : Path) (code' : Text) (base' : Option Path) (tree' : Part),
      HasTree s' file' code' base' tree' → tree'.IsLegible → tree'.written = document →
        tree' = tree := by
  obtain ⟨tree', ht', -, rfl⟩ := composeAt_eq_ok_iff.1 h
  obtain rfl := ht.unique ht'
  have hread := foldlM_next?_written ht hl
  refine ⟨fun before line after hs => ?_, hread, treeOf?_written ht hl, ?_⟩
  · rw [hs] at hread
    exact Progress.exists_within_of_foldlM hread
  · intro s' file' code' base' tree' ht' hl' hw
    have hsame : some tree' = some tree := by
      rw [← treeOf?_written ht' hl', hw, treeOf?_written ht hl]
    exact Option.some.inj hsame

/-- A document whose name holds the closing of a marker; it imports an empty one. -/
def closing : FileSystem :=
  ⟨[([text "d"], .directory), ([text "e.md"], .file [] false),
    ([text "d", text " -->.md"], .file (Text.Utf8.encodeLenient (text "@#x\n@import ../e\n")) false)]⟩

def closingEntry : Path := .ofText (text "/d/a")

theorem treeOf?_composeAt_closing :
    ∃ (document : Text) (tree : Part),
      composeAt ⟨closing, []⟩ 3 0 closingEntry (text "@import ./ -->\nz") none = .ok document ∧
        HasTree ⟨closing, []⟩ closingEntry (text "@import ./ -->\nz") none tree ∧
        tree.IsLegible ∧ treeOf? document = some tree := by
  have hrun : ((treeFrom ⟨closing, []⟩ 3 3 0 closingEntry (text "@import ./ -->\nz") none).map
      fun tree => (tree.names, tree.texts)).toOption =
        some ([text "a", text " -->.md", text "e.md"], [text "<span id='x'></span>", text "z"]) := by
    decide +kernel
  obtain ⟨tree, htree, hparts⟩ := exists_eq_ok_of_map hrun
  obtain ⟨hnames, htexts⟩ := Prod.mk.inj hparts
  have ht := (treeFrom_eq_ok_iff.1 htree).1
  have hl : tree.IsLegible := by
    constructor
    · rw [hnames]
      decide
    · rw [htexts]
      decide
  have h : composeAt ⟨closing, []⟩ 3 0 closingEntry (text "@import ./ -->\nz") none =
      .ok tree.written := congrArg (Except.map Part.written) htree
  exact ⟨tree.written, tree, h, ht, hl, (treeOf?_composeAt h ht hl).2.2.1⟩

end DocPress.Composition
