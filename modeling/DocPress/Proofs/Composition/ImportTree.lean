import DocPress.Composition.Imports
import DocPress.Proofs.Composition.Lines
import DocPress.Proofs.FileSystem.Ancestors

namespace DocPress.Composition

/-- An import of `target` in a file of `directory` leads to `document`, which holds `code`: the path
that the target means there is valid Unicode, and with the suffix of documents it is that of a file
that can be read. -/
structure Resolves (s : Site) (directory : Path) (target : Text) (document : Path) (code : Text) :
    Prop where
  notBlank : target ≠ []
  isUnicode : (directory.absolute (.ofText target)).toText.isUnicode = true
  isDocument : (directory.absolute (.ofText target)).withSuffix? documentSuffix = some document
  isRead : s.readText document = .ok code

mutual

/-- A file with the text `code` has this import tree: named as the file is, with an item for each
line of the text. -/
inductive ImportTree (s : Site) : Path → Text → Part → Prop
  | file {file : Path} {code : Text} {items : List Part} :
      ImportItems s file.parent (sourceLines code) items →
      ImportTree s file code (.file file.name items)

/-- The items of some lines of a file in `directory`, in order: an import line stands for the tree
of the file it leads to, any other line for itself with its annotations expanded. -/
inductive ImportItems (s : Site) : Path → List Text → List Part → Prop
  | nil {directory : Path} : ImportItems s directory [] []
  | line {directory : Path} {line : Text} {rest : List Text} {items : List Part} :
      Text.after? importMarker line = none → ImportItems s directory rest items →
      ImportItems s directory (line :: rest) (.line (Annotations.expand line) :: items)
  | imported {directory document : Path} {line target code : Text} {tree : Part}
      {rest : List Text} {items : List Part} :
      Text.after? importMarker line = some target →
      Resolves s directory target.trim document code → ImportTree s document code tree →
      ImportItems s directory rest items → ImportItems s directory (line :: rest) (tree :: items)

end

/-- A file that composing can begin with: an absolute path in valid Unicode, with a name, in a
directory that is there. -/
structure IsEntry (s : Site) (file : Path) : Prop where
  isAbsolute : file.isAbsolute = true
  isUnicode : file.toText.isUnicode = true
  name_ne_nil : file.name ≠ []
  name_ne_dotDot : file.name ≠ Path.dotDot
  isDirectory : s.isDirectory file.parent.normalize = .ok true

theorem pathText_of_isUnicode {path : Text} (h : path.isUnicode = true) :
    Site.pathText path = .ok path := by
  rw [Site.pathText, if_pos h]

theorem siteAbsolute_eq_ok_iff {s : Site} {path base p : Path} :
    s.absolute path (some base) = .ok p ↔
      (base.absolute path).toText.isUnicode = true ∧ base.absolute path = p := by
  rw [Site.absolute_some, bind_eq_ok_iff]
  simp only [discard_pathText_eq_ok, exists_const]
  exact and_congr_right fun _ => by simp [pure, Except.pure]

theorem siteAbsolute_of_isAbsolute {s : Site} {path : Path} (ha : path.isAbsolute = true)
    (hu : path.toText.isUnicode = true) (base : Option Path) :
    s.absolute path base = .ok path.normalize := by
  have hn : path.normalize.toText.isUnicode = true := Path.isUnicode_toText_normalize hu
  simp only [Site.absolute_of_not_isStranded (Site.isStranded_of_isAbsolute ha s base),
    Path.absolute_of_isAbsolute _ ha, pathText_of_isUnicode hn]
  rfl

theorem importedFile_eq_ok_iff {s : Site} {directory document : Path} {target : Text} :
    importedFile s directory target = .ok document ↔
      target ≠ [] ∧ (directory.absolute (.ofText target)).toText.isUnicode = true ∧
        (directory.absolute (.ofText target)).withSuffix? documentSuffix = some document := by
  by_cases ht : target = []
  · subst ht
    simp only [ne_eq, not_true_eq_false, false_and, iff_false]
    intro h
    cases h
  · unfold importedFile
    rw [if_neg ht]
    simp only [bind_eq_ok_iff, siteAbsolute_eq_ok_iff]
    constructor
    · rintro ⟨file, ⟨hu, rfl⟩, h⟩
      split at h
      · rename_i q hq
        cases h
        exact ⟨ht, hu, hq⟩
      · cases h
    · rintro ⟨-, hu, hd⟩
      exact ⟨_, ⟨hu, rfl⟩, by simp [hd, pure, Except.pure]⟩

theorem resolves_iff {s : Site} {directory document : Path} {target code : Text} :
    Resolves s directory target document code ↔
      importedFile s directory target = .ok document ∧ s.readText document = .ok code := by
  rw [importedFile_eq_ok_iff]
  exact ⟨fun h => ⟨⟨h.notBlank, h.isUnicode, h.isDocument⟩, h.isRead⟩,
    fun h => ⟨h.1.1, h.1.2.1, h.1.2.2, h.2⟩⟩

theorem isAbsolute_of_importedFile {s : Site} {directory document : Path} {target : Text}
    (ha : directory.isAbsolute = true) (h : importedFile s directory target = .ok document) :
    document.isAbsolute = true := by
  rw [(Path.withSuffix?_eq_some.1 (importedFile_eq_ok_iff.1 h).2.2).2]
  exact Path.isAbsolute_absolute ha (.ofText target)

theorem isUnicode_of_importedFile {s : Site} {directory document : Path} {target : Text}
    (h : importedFile s directory target = .ok document) : document.toText.isUnicode = true := by
  obtain ⟨-, hu, hd⟩ := importedFile_eq_ok_iff.1 h
  exact Path.isUnicode_of_withSuffix? hd (by decide) hu

theorem importedFile_normalize (s : Site) (directory document : Path) (target : Text) :
    importedFile s directory.normalize target = .ok document ↔
      importedFile s directory target = .ok document := by
  rw [importedFile_eq_ok_iff, importedFile_eq_ok_iff, Path.absolute_normalize]

theorem displayName_eq_ok_iff {file : Path} {name : Text} :
    displayName file = .ok name ↔ file.name ≠ [] ∧ file.name ≠ Path.dotDot ∧
      file.name.isUnicode = true ∧ name = file.name := by
  rw [displayName]
  by_cases hn : file.name = [] ∨ file.name = Path.dotDot
  · rw [if_pos hn]
    refine iff_of_false (fun h => by cases h) fun ⟨hne, hd, _⟩ => ?_
    exact hn.elim hne hd
  · obtain ⟨hne, hd⟩ := not_or.1 hn
    rw [if_neg hn, Site.pathText]
    by_cases hu : file.name.isUnicode = true
    · rw [if_pos hu]
      simp [hne, hd, hu, eq_comm]
    · rw [if_neg hu]
      simp [hu]

namespace IsEntry

variable {s : Site} {file : Path}

theorem displayName_eq (h : IsEntry s file) : displayName file = .ok file.name := by
  apply displayName_eq_ok_iff.2
  exact ⟨h.name_ne_nil, h.name_ne_dotDot, Path.isUnicode_name h.name_ne_nil h.isUnicode, rfl⟩

/-- Where the imports of a file are looked for is said by its own path. -/
theorem container_eq (h : IsEntry s file) (base : Option Path) :
    container s file base = .ok file.parent.normalize := by
  have ha : file.parent.isAbsolute = true := h.isAbsolute
  have hd : s.absolute file.parent base = .ok file.parent.normalize :=
    siteAbsolute_of_isAbsolute ha (Path.isUnicode_toText_parent h.isUnicode) base
  simp [container, hd, h.isDirectory, bind, Except.bind, pure, Except.pure]

end IsEntry

/-- What an import leads to can be composed on its own: its directory is there, since the file can
be read. -/
theorem Resolves.isEntry {s : Site} {directory document : Path} {target code : Text}
    (h : Resolves s directory target document code) (ha : directory.isAbsolute = true) :
    IsEntry s document := by
  have hdocument : document.isAbsolute = true :=
    isAbsolute_of_importedFile ha (resolves_iff.1 h).1
  obtain ⟨-, hu, hd, hr⟩ := h
  -- A name with the suffix of documents is neither empty nor `..`.
  have hlong : 3 < document.name.length := Path.length_name_of_withSuffix? hd
  have hname : document.name ≠ [] := by
    intro he
    simp [he] at hlong
  have hdots : document.name ≠ Path.dotDot := by
    intro he
    have h2 : Path.dotDot.length = 2 := by decide
    rw [he, h2] at hlong
    omega
  have hparent : document.parent.normalize = document.parent := by
    have hjoin : (directory.join (.ofText target)).isAbsolute = true :=
      Path.isAbsolute_absolute ha (.ofText target)
    rw [Path.parent_of_withSuffix? hd]
    exact Path.normalize_of_dotDot_notMem fun hm =>
      Path.dotDot_notMem_normalize hjoin (List.dropLast_subset _ hm)
  refine ⟨hdocument, Path.isUnicode_of_withSuffix? hd (by decide) hu, hname, hdots, ?_⟩
  rw [hparent]
  exact Site.isDirectory_parent_of_readText hdocument hname hr

theorem HasTree.importTree {s : Site} {file : Path} {code : Text} {base : Option Path}
    {tree : Part} (ht : HasTree s file code base tree) (h : IsEntry s file) :
    ImportTree s file code tree := by
  -- A directory passed down is written without `..`; the tree names it as the file does.
  refine @HasTree.rec s (fun file code _ tree _ => IsEntry s file → ImportTree s file code tree)
    (fun passed lines items _ => ∀ directory : Path, directory.isAbsolute = true →
      directory.normalize = passed → ImportItems s directory lines items)
    ?file ?nil ?line ?imported _ _ _ _ ht h
  case file =>
    intro file code base name passed items _ hn hd _ ih h
    rw [h.displayName_eq] at hn
    rw [h.container_eq] at hd
    cases hn
    cases hd
    exact .file (ih file.parent h.isAbsolute rfl)
  case nil => exact fun _ _ _ => .nil
  case line =>
    intro _ _ _ _ hl _ ih directory ha he
    exact .line hl (ih directory ha he)
  case imported =>
    rintro _ document line target code tree rest items hl hd hc _ _ iht ihs directory ha rfl
    have hr : Resolves s directory target.trim document code :=
      resolves_iff.2 ⟨(importedFile_normalize s directory document _).1 hd, hc⟩
    exact .imported hl hr (iht (hr.isEntry ha)) (ihs directory ha rfl)

theorem ImportTree.hasTree {s : Site} {file : Path} {code : Text} {tree : Part}
    (ht : ImportTree s file code tree) (h : IsEntry s file) (base : Option Path) :
    HasTree s file code base tree := by
  refine @ImportTree.rec s
    (fun file code tree _ => IsEntry s file → ∀ base, HasTree s file code base tree)
    (fun directory lines items _ => directory.isAbsolute = true →
      HasParts s directory.normalize lines items) ?file ?nil ?line ?imported _ _ _ ht h base
  case file =>
    intro file code items _ ih h base
    exact .file h.isUnicode h.displayName_eq (h.container_eq base) (ih h.isAbsolute)
  case nil => exact fun _ => .nil
  case line =>
    intro _ _ _ _ hl _ ih ha
    exact .line hl (ih ha)
  case imported =>
    intro directory document line target code tree rest items hl hr _ _ iht ihs ha
    obtain ⟨hd, hc⟩ := resolves_iff.1 hr
    exact .imported hl ((importedFile_normalize s directory document _).2 hd) hc
      (iht (hr.isEntry ha) _) (ihs ha)

theorem HasTree.unique {s : Site} {file : Path} {code : Text} {base : Option Path}
    {tree tree' : Part} (h : HasTree s file code base tree) (h' : HasTree s file code base tree') :
    tree = tree' := by
  have hrun : treeFrom s 0 (max tree.height tree'.height) 0 file code base = .ok tree :=
    treeFrom_eq_ok_iff.2 ⟨h, Nat.le_max_left ..⟩
  have hrun' : treeFrom s 0 (max tree.height tree'.height) 0 file code base = .ok tree' :=
    treeFrom_eq_ok_iff.2 ⟨h', Nat.le_max_right ..⟩
  exact Except.ok.inj (hrun.symm.trans hrun')

theorem HasTree.height_eq {s : Site} {file : Path} {code : Text} {base : Option Path}
    {tree : Part} (h : HasTree s file code base tree) : tree.height = tree.links + 1 := by
  cases h
  rfl

theorem composeAt_eq_ok_iff {s : Site} {maximum depth : Int} {file : Path} {code : Text}
    {base : Option Path} {document : Text} :
    composeAt s maximum depth file code base = .ok document ↔
      ∃ tree, HasTree s file code base tree ∧ depth + tree.links < maximum ∧
        tree.written = document := by
  have hroom : ∀ {tree : Part}, HasTree s file code base tree →
      (tree.height ≤ (maximum - depth).toNat ↔ depth + tree.links < maximum) := by
    intro tree h
    rw [h.height_eq]
    omega
  unfold composeAt
  cases ht : treeFrom s maximum (maximum - depth).toNat depth file code base with
  | error e =>
    simp only [Except.map, reduceCtorEq, false_iff]
    rintro ⟨tree, h, hl, -⟩
    rw [treeFrom_eq_ok_iff.2 ⟨h, (hroom h).2 hl⟩] at ht
    cases ht
  | ok tree =>
    obtain ⟨h, hle⟩ := treeFrom_eq_ok_iff.1 ht
    simp only [Except.map, Except.ok.injEq]
    constructor
    · exact fun hw => ⟨tree, h, (hroom h).1 hle, hw⟩
    · rintro ⟨tree', h', -, hw⟩
      rw [h.unique h']
      exact hw

/-- Composing an absolute file gives a document exactly when the file has an import tree, there is
but one, and the number of links on its longest chain is left up to `maximum`; the document is then
the tree gone through depth first. -/
theorem composeAt_eq_ok_iff_importTree {s : Site} {file : Path} (h : IsEntry s file) (code : Text)
    (maximum depth : Int) (base : Option Path) (document : Text) :
    composeAt s maximum depth file code base = .ok document ↔
      ∃ tree, (∀ t, ImportTree s file code t ↔ t = tree) ∧ depth + tree.links < maximum ∧
        document = Text.join (text "\n") tree.lines := by
  rw [composeAt_eq_ok_iff]
  constructor
  · rintro ⟨tree, ht, hl, hw⟩
    refine ⟨tree, fun t => ⟨fun ht' => (ht'.hasTree h base).unique ht, ?_⟩, hl, ?_⟩
    · rintro rfl
      exact ht.importTree h
    · rw [← hw, Part.written_eq_join_lines]
  · rintro ⟨tree, ht, hl, hw⟩
    exact ⟨tree, ((ht tree).2 rfl).hasTree h base, hl, by rw [hw, Part.written_eq_join_lines]⟩

theorem eq_ok_of_toOption {ε α : Type} {r : Except ε α} {a : α} (h : r.toOption = some a) :
    r = .ok a := by
  cases r with
  | error e => cases h
  | ok b => exact congrArg _ (Option.some.inj h)

/-- Whether a run fails with a given fault can be decided when faults can be compared, whatever it
gives when it does not fail. -/
instance decidableEqError {ε α : Type} [DecidableEq ε] (r : Except ε α) (e : ε) :
    Decidable (r = .error e) :=
  match r with
  | .error e' => decidable_of_iff (e' = e) ⟨congrArg Except.error, Except.error.inj⟩
  | .ok _ => isFalse nofun

theorem exists_eq_ok_of_map {ε α β : Type} {x : Except ε α} {f : α → β} {b : β}
    (h : (x.map f).toOption = some b) : ∃ a, x = .ok a ∧ f a = b := by
  cases x with
  | error e => cases h
  | ok a => exact ⟨a, rfl, Option.some.inj h⟩

/-- Two documents side by side that import the same one from the directory above. -/
def diamond : FileSystem :=
  ⟨[([text "d"], .directory), ([text "e.md"], .file (Text.Utf8.encodeLenient (text "x")) false),
    ([text "d", text "b.md"], .file (Text.Utf8.encodeLenient (text "@import ../e")) false),
    ([text "d", text "c.md"], .file (Text.Utf8.encodeLenient (text "@import ../e\n")) false)]⟩

def diamondEntry : Path := .ofText (text "/d/../d/a.txt")

theorem composeAt_importTree_diamond :
    IsEntry ⟨diamond, []⟩ diamondEntry ∧
      ∃ tree, (∀ t, ImportTree ⟨diamond, []⟩ diamondEntry
          (text "@import b\n@.y @import c\n@import ./c.txt") t ↔ t = tree) ∧
        (-1 : Int) + tree.links < 2 ∧
        Text.join (text "\n") [text "<!-- Importado del archivo a.txt -->",
          text "<!-- Importado del archivo b.md -->", text "<!-- Importado del archivo e.md -->",
          text "x", text "<!-- fin del archivo e.md -->", text "<!-- fin del archivo b.md -->",
          text "<span class='y'></span> @import c",
          text "<!-- Importado del archivo c.md -->", text "<!-- Importado del archivo e.md -->",
          text "x", text "<!-- fin del archivo e.md -->", text "<!-- fin del archivo c.md -->",
          text "<!-- fin del archivo a.txt -->"] = Text.join (text "\n") tree.lines := by
  have h : IsEntry ⟨diamond, []⟩ diamondEntry :=
    ⟨by decide, by decide, by decide, by decide, eq_ok_of_toOption (by decide +kernel)⟩
  exact ⟨h, (composeAt_eq_ok_iff_importTree h _ 2 (-1) none _).1
    (eq_ok_of_toOption (by decide +kernel))⟩

end DocPress.Composition
