import DocPress.CommandLine
import DocPress.Proofs.Composition.Retargeting
import DocPress.Proofs.FileSystem.Planting
import DocPress.Proofs.World.Running

namespace DocPress

namespace World

variable {α β : Type} {w w' : World}

theorem run_ask_congr {f g : Site → Except Fault α} (h : f w.toSite = g w.toSite) :
    (ask f).run.run w = (ask g).run.run w := by
  change (ask.liftExcept (f w.toSite)).run.run w = (ask.liftExcept (g w.toSite)).run.run w
  rw [h]

theorem run_bind_congr {x y : Run α} (h : x.run.run w = y.run.run w') (k : α → Run β) :
    (x >>= k).run.run w = (y >>= k).run.run w' := by
  simp only [ExceptT.run_bind, StateT.run_bind, h]

theorem run_tryCatch_congr {x y : Run α} (h : x.run.run w = y.run.run w')
    (handle : Fault → Run α) :
    (tryCatch x handle).run.run w = (tryCatch y handle).run.run w' := by
  change (ExceptT.tryCatch x handle).run.run w = (ExceptT.tryCatch y handle).run.run w'
  have hrun : StateT.run x w = StateT.run y w' := h
  simp only [ExceptT.tryCatch, ExceptT.run_mk, StateT.run_bind, hrun]

theorem run_reporting_congr {x y : Run Unit} (h : x.run.run w = y.run.run w') :
    (CommandLine.reporting x).run.run w = (CommandLine.reporting y).run.run w' := by
  unfold CommandLine.reporting
  apply run_bind_congr
  exact run_tryCatch_congr (run_bind_congr h _) _

theorem run_liftM_bind_congr {σ : Type} {x y : Run α} (h : x.run.run w = y.run.run w)
    (k : α → StateT σ Run β) (c : σ) :
    ((liftM x >>= k : StateT σ Run β).run c).run.run w =
      ((liftM y >>= k : StateT σ Run β).run c).run.run w := by
  have hlift : ∀ z : Run α, (liftM z : StateT σ Run α).run c = z >>= fun a => pure (a, c) :=
    fun _ => rfl
  rw [StateT.run_bind, StateT.run_bind, hlift, hlift]
  exact run_bind_congr (run_bind_congr h _) _

end World

namespace Composition

/-- Composing a first file, as the commands and the build of a project do. -/
def composeFile (s : Site) (file : Path) : Except Fault Text :=
  composeFileAt s maxImportDepth 0 file none

/-- Composing and compiling see no difference between two paths of a first file: the commands do the
same with either, and what a command shows of the one is what goes into the page of a project that
has the other as its entry. -/
structure SameDocument (w : World) (file file' : Path) : Prop where
  composeFile_eq : composeFile w.toSite file = composeFile w.toSite file'
  preprocess_eq (output : Option Text) :
    (CommandLine.runPreprocess output file).run.run w =
      (CommandLine.runPreprocess output file').run.run w
  render_eq (settings : Settings) (output : Option Text) (diagrams : Bool) :
    (CommandLine.runRender settings output diagrams file).run.run w =
      (CommandLine.runRender settings output diagrams file').run.run w
  compileDocument_eq {σ : Type} (render : Text → StateT σ Run Text) (c : σ) :
    ((Build.compileDocument render file).run c).run.run w =
      ((Build.compileDocument render file').run c).run.run w
  body_eq {σ : Type} (render : Text → StateT σ Run Text) (c : σ) (project : Project) :
    project.entryPath = file' →
    ((do compile (some render) (← CommandLine.composed file) : StateT σ Run Text).run c).run.run w =
      ((Build.compileDocument render project.entryPath).run c).run.run w

theorem sameDocument_of_composeFile {w : World} {file file' : Path}
    (h : composeFile w.toSite file = composeFile w.toSite file') : SameDocument w file file' := by
  have hcomposed : (CommandLine.composed file).run.run w = (CommandLine.composed file').run.run w :=
    World.run_ask_congr h
  have hreporting : ∀ k : Text → Run Unit,
      (CommandLine.reporting (CommandLine.composed file >>= k)).run.run w =
        (CommandLine.reporting (CommandLine.composed file' >>= k)).run.run w := by
    intro k
    exact World.run_reporting_congr (World.run_bind_congr hcomposed k)
  refine ⟨h, fun _ => hreporting _, fun _ _ _ => ?_, fun _ _ => ?_, ?_⟩
  · exact hreporting _
  · exact World.run_liftM_bind_congr hcomposed _ _
  · rintro σ render c project rfl
    exact World.run_liftM_bind_congr hcomposed _ _

section Spelling

variable {s : Site} {file absolute : Path}

theorem container_absolute (hs : s.isStranded file none = false) (hn : file.name ≠ [])
    (hd : file.name ≠ Path.dotDot) :
    container s (Path.absolute (Site.pathOf s.here) file) none = container s file none := by
  have hparent' : s.isStranded file.parent none = false := hs
  have habsolute : s.isStranded (Path.absolute (Site.pathOf s.here) file).parent none = false :=
    Site.isStranded_of_isAbsolute (Path.isAbsolute_absolute (Site.isAbsolute_pathOf _) file) s none
  have hparent : Path.absolute (Site.pathOf s.here)
        (Path.absolute (Site.pathOf s.here) file).parent =
      Path.absolute (Site.pathOf s.here) file.parent := by
    rw [Path.parent_absolute hn hd,
      Path.absolute_of_isAbsolute _ (Path.isAbsolute_absolute (Site.isAbsolute_pathOf _) _)]
    exact Path.normalize_normalize _
  simp only [container, Site.absolute_of_not_isStranded hparent',
    Site.absolute_of_not_isStranded habsolute, Option.getD_none, hparent]

theorem treeFrom_absolute (hu : file.toText.isUnicode = true) (hn : file.name ≠ [])
    (hd : file.name ≠ Path.dotDot) (ha : s.absolute file none = .ok absolute) (maximum depth : Int)
    (levels : Nat) (code : Text) :
    treeFrom s maximum (levels + 1) depth absolute code none =
      treeFrom s maximum (levels + 1) depth file code none := by
  obtain ⟨hs, hau, rfl⟩ := Site.absolute_eq_ok_iff.1 ha
  have hname : displayName (Path.absolute (Site.pathOf s.here) file) = displayName file := by
    have hproper : ¬(file.name = [] ∨ file.name = Path.dotDot) := not_or.2 ⟨hn, hd⟩
    rw [displayName, displayName, Path.name_absolute hn hd, if_neg hproper, if_neg hproper]
  rw [treeFrom_succ, treeFrom_succ, pathText_of_isUnicode hu, pathText_of_isUnicode hau]
  simp only [Option.getD_none, container_absolute hs hn hd, hname]
  rfl

theorem hasTree_absolute (hu : file.toText.isUnicode = true) (hn : file.name ≠ [])
    (hd : file.name ≠ Path.dotDot) (ha : s.absolute file none = .ok absolute) {code : Text}
    {tree : Part} : HasTree s absolute code none tree ↔ HasTree s file code none tree := by
  have hroom : ∀ path, treeFrom s 0 (tree.height + 1) 0 path code none = .ok tree ↔
      HasTree s path code none tree := by
    intro path
    rw [treeFrom_eq_ok_iff]
    exact and_iff_left (Nat.le_succ _)
  rw [← hroom, ← hroom, treeFrom_absolute hu hn hd ha]

theorem composeFile_of_readText {code : Text} (h : s.readText file = .ok code) :
    composeFile s file = compose s file code none := by
  rw [composeFile, composeFileAt, h]
  rfl

theorem compose_absolute (hu : file.toText.isUnicode = true) (hn : file.name ≠ [])
    (hd : file.name ≠ Path.dotDot) (ha : s.absolute file none = .ok absolute) (code : Text) :
    compose s absolute code none = compose s file code none :=
  congrArg (Except.map Part.written) (treeFrom_absolute hu hn hd ha _ _ 99 code)

theorem composeFile_eq_ok_iff {document : Text} :
    composeFile s file = .ok document ↔ ∃ code tree, s.readText file = .ok code ∧
      HasTree s file code none tree ∧ tree.links < maxImportDepth ∧ tree.written = document := by
  rw [composeFile, composeFileAt, bind_eq_ok_iff]
  simp only [composeAt_eq_ok_iff]
  constructor
  · rintro ⟨code, hc, tree, ht, hl, hw⟩
    exact ⟨code, tree, hc, ht, by omega, hw⟩
  · rintro ⟨code, tree, hc, ht, hl, hw⟩
    exact ⟨code, hc, tree, ht, by omega, hw⟩

/-- A path in valid Unicode that has no absolute form in valid Unicode cannot be composed. -/
theorem compose_of_absolute_error (hs : s.isStranded file none = false)
    (hu : file.toText.isUnicode = true) (hn : file.name ≠ []) (hd : file.name ≠ Path.dotDot)
    {fault : Fault} (ha : s.absolute file none = .error fault) (code : Text) :
    ∃ path path', fault = .pathNotUnicode path ∧
      compose s file code none = .error (.pathNotUnicode path') := by
  have hname : file.name.isUnicode = true := Path.isUnicode_name hn hu
  have hpath : ¬(Path.absolute (Site.pathOf s.here) file).toText.isUnicode = true := by
    intro hpath
    rw [Site.absolute_eq_ok_iff.2 ⟨hs, hpath, rfl⟩] at ha
    cases ha
  -- The name is valid Unicode, so the directory is not.
  have hparent : ¬(Path.absolute (Site.pathOf s.here) file.parent).toText.isUnicode = true := by
    intro hparent
    apply hpath
    rw [Path.absolute_eq_concat hn hd, Path.isUnicode_toText_iff]
    intro part hp
    rcases List.mem_append.1 hp with hp | hp
    · exact Path.isUnicode_toText_iff.1 hparent part hp
    · rwa [List.mem_singleton.1 hp]
  have hcontainer : container s file none =
      .error (.pathNotUnicode (Path.absolute (Site.pathOf s.here) file.parent).toText) := by
    have hs' : s.isStranded file.parent none = false := hs
    simp only [container, Site.absolute_of_not_isStranded hs', Option.getD_none, Site.pathText,
      if_neg hparent]
    rfl
  have hdisplay : displayName file = .ok file.name :=
    displayName_eq_ok_iff.2 ⟨hn, hd, hname, rfl⟩
  refine ⟨(Path.absolute (Site.pathOf s.here) file).toText,
    (Path.absolute (Site.pathOf s.here) file.parent).toText, ?_, ?_⟩
  · simp only [Site.absolute_of_not_isStranded hs, Option.getD_none, Site.pathText,
      if_neg hpath] at ha
    exact (Except.error.inj ha).symm
  · have htree : treeFrom s maxImportDepth (99 + 1) 0 file code none =
        .error (.pathNotUnicode (Path.absolute (Site.pathOf s.here) file.parent).toText) := by
      rw [treeFrom_succ, pathText_of_isUnicode hu, hdisplay, hcontainer]
      rfl
    exact congrArg (Except.map Part.written) htree

end Spelling

section Entry

variable {s : Site} {file : Path} {code : Text}

theorem isEntry_of_hasTree {base : Option Path} {tree : Part} (hp : file.IsPlain)
    (h : HasTree s file code base tree) : IsEntry s file := by
  cases h with
  | file hu hn hd =>
    obtain rfl := container_of_isPlain hp hd
    obtain ⟨hne, hdots, -, rfl⟩ := displayName_eq_ok_iff.1 hn
    refine ⟨hp.isAbsolute, hu, hne, hdots, ?_⟩
    rw [hp.parent.normalize_eq]
    exact (container_eq_ok_iff.1 hd).2

theorem begins_of_hasTree {base : Option Path} {tree : Part} (h : HasTree s file code base tree) :
    ∃ directory, Begins s file base directory := by
  cases h with
  | file hu hn hd =>
    obtain ⟨-, -, -, rfl⟩ := displayName_eq_ok_iff.1 hn
    exact ⟨_, hu, hn, hd⟩

theorem absolute_of_begins {directory : Path} (h : Begins s file none directory) :
    s.absolute file none = .ok ⟨directory.root, directory.parts ++ [file.name]⟩ := by
  obtain ⟨hn, hd, -⟩ := displayName_eq_ok_iff.1 h.isNamed
  obtain ⟨hs, hu, rfl⟩ := Site.absolute_eq_ok_iff.1 (container_eq_ok_iff.1 h.container_eq).1
  apply Site.absolute_eq_ok_iff.2
  refine ⟨hs, ?_, Path.absolute_eq_concat hn hd _⟩
  apply Path.isUnicode_toText_iff.2
  intro part hp
  rcases List.mem_append.1 hp with hp | hp
  · exact Path.isUnicode_toText_iff.1 hu part hp
  · rw [List.mem_singleton.1 hp]
    exact Path.isUnicode_name hn h.isUnicode

/-- A first file that is read stands in the directory its imports are resolved from. -/
theorem isPlaced_of_begins (hfree : s.files.LinkFree) (hs : s.WellPlaced) (hw : file.WellFormed)
    (hr : s.readText file = .ok code) {directory : Path} (h : Begins s file none directory) :
    directory.IsPlain ∧ s.files.textAt (directory.parts ++ [file.name]) = some code := by
  obtain ⟨l, e, hf, he⟩ := Site.finds_of_readText hfree hs hw hr
  have hl : l = directory.parts ++ [file.name] := by
    rw [hf.eq_parts]
    exact congrArg Path.parts (Site.absolute_eq_ok_iff.1 (absolute_of_begins h)).2.2
  obtain ⟨-, -, rfl⟩ := Site.absolute_eq_ok_iff.1 (container_eq_ok_iff.1 h.container_eq).1
  refine ⟨Path.isPlain_absolute rfl hs.wellFormed_pathOf hw.parent, ?_⟩
  rw [← hl, FileSystem.textAt, hf.entryAt_eq]
  exact he

theorem exists_file_of_textAt {files : FileSystem} {l : Location}
    (h : files.textAt l = some code) (hne : sourceLines code ≠ []) :
    ∃ content executable, files.entryAt l = some (.file content executable) := by
  unfold FileSystem.textAt at h
  cases he : files.entryAt l with
  | none => simp [he] at h
  | some e =>
    rw [he] at h
    cases e with
    | file content executable => exact ⟨content, executable, rfl⟩
    | sink =>
      obtain rfl : [] = code := Option.some.inj h
      exact absurd rfl hne
    | directory => cases h
    | link target => cases h

end Entry

/-- Composing a first file whose import line, or one of a file that it comes to, is rewritten. -/
theorem composeFile_rewrite {s : Site} (hfree : s.files.LinkFree) (hs : s.WellPlaced) {file : Path}
    {code document : Text} (hw : file.WellFormed) (hr : s.readText file = .ok code)
    (h : composeFile s file = .ok document) {v : Visit} {levels : Nat}
    (hv : Visits s levels file code none v) {code' : Text} (hre : IsRetargeted s v code')
    {content : Bytes} {executable : Bool}
    (hnew : (Entry.file content executable).text? = some code') :
    composeFile (s.rewrite v.location content executable) file = .ok document := by
  obtain ⟨code, tree, hr', ht, hlinks, hwritten⟩ := composeFile_eq_ok_iff.1 h
  cases hr.symm.trans hr'
  have hplaced : v.IsPlaced s.files :=
    hv.isPlaced hfree fun _ hb => isPlaced_of_begins hfree hs hw hr hb
  obtain ⟨parts, hparts⟩ := hv.hasParts ht
  have hlines : sourceLines v.code ≠ [] := by
    obtain ⟨_, _, _, _, _, hsource, -⟩ := hre
    simp [hsource]
  obtain ⟨old, x, hold⟩ := exists_file_of_textAt hplaced.textAt_eq hlines
  -- The first file has its tree under its absolute path too, which is where it stands.
  obtain ⟨directory, hb⟩ := begins_of_hasTree ht
  obtain ⟨hn, hd, -⟩ := displayName_eq_ok_iff.1 hb.isNamed
  have ha := absolute_of_begins hb
  have hplain : (⟨directory.root, directory.parts ++ [file.name]⟩ : Path).IsPlain := by
    rw [← (Site.absolute_eq_ok_iff.1 ha).2.2]
    exact Path.isPlain_absolute rfl hs.wellFormed_pathOf hw
  have htree := (hasTree_absolute hb.isUnicode hn hd ha).2 ht
  have hentry := isEntry_of_hasTree hplain htree
  have htext := (isPlaced_of_begins hfree hs hw hr hb).2
  have hmoved := importTree_rewrite hfree hplaced hparts hre hold hnew tree hplain htext
    (htree.importTree hentry)
  have hentry' : IsEntry (s.rewrite v.location content executable)
      ⟨directory.root, directory.parts ++ [file.name]⟩ :=
    ⟨hentry.isAbsolute, hentry.isUnicode, hentry.name_ne_nil, hentry.name_ne_dotDot,
      Site.isDirectory_rewrite hold hentry.isDirectory executable⟩
  have ha' : (s.rewrite v.location content executable).absolute file none =
      .ok ⟨directory.root, directory.parts ++ [file.name]⟩ := by
    obtain ⟨hthere, hmeant⟩ := Site.absolute_eq_ok_iff.1 ha
    exact Site.absolute_eq_ok_iff.2 ⟨(Site.isStranded_rewrite hold ..).trans hthere, hmeant⟩
  have htree' := (hasTree_absolute hb.isUnicode hn hd ha').1 (hmoved.hasTree hentry' none)
  obtain ⟨-, l, e, hf, -⟩ := Site.readText_eq_ok_iff.1 hr
  have hl : l = directory.parts ++ [file.name] := by
    rw [(FileSystem.finds_of_find hfree hw hs.isOpen hs.isName hf).eq_parts]
    exact congrArg Path.parts (Site.absolute_eq_ok_iff.1 ha).2.2
  have hread := Site.readText_rewrite hold hf hr hnew
  rw [hl] at hread
  exact composeFile_eq_ok_iff.2 ⟨_, tree, hread, htree', hlinks, hwritten⟩

/-- Where there are no links, a first file that can be read is composed alike under the path it is
given by and under its absolute path, if that is not too long for the system: commands and builds
see no difference, and where the absolute path is no valid Unicode, composing says so. And an import
line, of the first file or of one that composing comes to, can have the absolute path of the document
it leads to as its target: the composed document stays the same. -/
theorem composeFile_spelling {w : World} (hfree : w.files.LinkFree) (hs : w.toSite.WellPlaced)
    {p code : Text} (hu : p.isUnicode = true) (hr : w.toSite.readText (.ofText p) = .ok code) :
    (∀ absolute, w.toSite.absolute (.ofText p) none = .ok absolute → absolute.Fits →
      SameDocument w (.ofText p) absolute) ∧
    (∀ fault, w.toSite.absolute (.ofText p) none = .error fault →
      ∃ path path', fault = .pathNotUnicode path ∧
        composeFile w.toSite (.ofText p) = .error (.pathNotUnicode path')) ∧
    ∀ document, composeFile w.toSite (.ofText p) = .ok document →
      ∀ (v : Visit) (code' : Text) (content : Bytes) (executable : Bool),
        Visits w.toSite maxImportDepth (.ofText p) code none v → IsRetargeted w.toSite v code' →
        (Entry.file content executable).text? = some code' →
        composeFile (w.toSite.rewrite v.location content executable) (.ofText p) = .ok document := by
  have hw : (Path.ofText p).WellFormed := Path.wellFormed_ofText p
  have hpath : (Path.ofText p).toText.isUnicode = true := Path.isUnicode_toText_ofText hu
  obtain ⟨l, e, hf, he⟩ := Site.finds_of_readText hfree hs hw hr
  obtain ⟨hn, hd⟩ : (Path.ofText p).name ≠ [] ∧ (Path.ofText p).name ≠ Path.dotDot := by
    apply hf.isNamed.resolve_left
    rintro rfl
    cases he
  refine ⟨fun absolute ha hfits => ?_, fun fault ha => ?_, ?_⟩
  · apply sameDocument_of_composeFile
    have hra := Site.readText_absolute hfree hs hw ha hfits hr
    rw [composeFile_of_readText hr, composeFile_of_readText hra,
      compose_absolute hpath hn hd ha]
  · rw [composeFile_of_readText hr]
    exact compose_of_absolute_error (hs.isStranded _ _) hpath hn hd ha code
  · intro document hdoc v code' content executable hv hre hnew
    exact composeFile_rewrite hfree hs hw hr hdoc hv hre hnew

theorem wellPlaced_diamond : Site.WellPlaced ⟨diamond, [text "d"]⟩ := by
  constructor
  · exact FileSystem.open_of_inits (by decide +kernel)
  · intro name hn
    obtain rfl := List.mem_singleton.1 hn
    exact ⟨⟨by decide, by decide, by decide⟩, by decide, by decide, by decide⟩

theorem composeFile_spelling_diamond :
    diamond.LinkFree ∧ Site.WellPlaced ⟨diamond, [text "d"]⟩ ∧
      (text ".//../d/b.md").isUnicode = true ∧
      Site.readText ⟨diamond, [text "d"]⟩ (.ofText (text ".//../d/b.md")) =
        .ok (text "@import ../e") ∧
      SameDocument (World.still ⟨diamond, [text "d"]⟩) (.ofText (text ".//../d/b.md"))
        (.ofText (text "/d/b.md")) ∧
      composeFile (Site.rewrite ⟨diamond, [text "d"]⟩ [text "d", text "b.md"]
          (Text.Utf8.encodeLenient (text "@import /e.md\r\n")) true)
          (.ofText (text ".//../d/b.md")) =
        .ok (block (text "b.md") [block (text "e.md") [text "x"]]) := by
  have hfree : diamond.LinkFree := FileSystem.linkFree_of_all (by decide)
  have hu : (text ".//../d/b.md").isUnicode = true := by decide
  have hr : Site.readText ⟨diamond, [text "d"]⟩ (.ofText (text ".//../d/b.md")) =
      .ok (text "@import ../e") := eq_ok_of_toOption (by decide +kernel)
  have ha : Site.absolute ⟨diamond, [text "d"]⟩ (.ofText (text ".//../d/b.md")) none =
      .ok (.ofText (text "/d/b.md")) := eq_ok_of_toOption (by decide +kernel)
  have hb : Begins ⟨diamond, [text "d"]⟩ (.ofText (text ".//../d/b.md")) none (.ofText (text "/d")) :=
    ⟨by decide, eq_ok_of_toOption (by decide +kernel), eq_ok_of_toOption (by decide +kernel)⟩
  have hre : IsRetargeted ⟨diamond, [text "d"]⟩
      ⟨.ofText (text ".//../d/b.md"), text "@import ../e", .ofText (text "/d"), 99⟩
      (text "@import /e.md\n") :=
    ⟨[], text "@import ../e", [], text "../e", .ofText (text "/e.md"), by decide +kernel, by decide,
      eq_ok_of_toOption (by decide +kernel), by decide +kernel⟩
  have hdoc : composeFile ⟨diamond, [text "d"]⟩ (.ofText (text ".//../d/b.md")) =
      .ok (block (text "b.md") [block (text "e.md") [text "x"]]) :=
    eq_ok_of_toOption (by decide +kernel)
  have hl : Visit.location
      ⟨.ofText (text ".//../d/b.md"), text "@import ../e", .ofText (text "/d"), 99⟩ =
        [text "d", text "b.md"] := by decide +kernel
  have hv : Visits ⟨diamond, [text "d"]⟩ maxImportDepth (.ofText (text ".//../d/b.md"))
      (text "@import ../e") none
      ⟨.ofText (text ".//../d/b.md"), text "@import ../e", .ofText (text "/d"), 99⟩ := .self hb
  obtain ⟨hsame, -, hrewrite⟩ :=
    @composeFile_spelling (World.still ⟨diamond, [text "d"]⟩) hfree wellPlaced_diamond _ _ hu hr
  rw [← hl]
  exact ⟨hfree, wellPlaced_diamond, hu, hr, hsame _ ha (by decide +kernel),
    hrewrite _ hdoc _ _ _ _ hv hre (by decide +kernel)⟩

open FileSystem (planted deepDirectory deepName deepTree)

/-- Of two paths of one document that is far down only the relative one can be composed. -/
theorem composeFile_spelling_deep :
    (planted deepDirectory deepTree).LinkFree ∧
      Site.WellPlaced ⟨planted deepDirectory deepTree, deepDirectory⟩ ∧ deepName.isUnicode = true ∧
      Site.absolute ⟨planted deepDirectory deepTree, deepDirectory⟩ (.ofText deepName) none =
        .ok (Site.pathOf (deepDirectory ++ [deepName])) ∧
      composeFile ⟨planted deepDirectory deepTree, deepDirectory⟩ (.ofText deepName) =
        .ok (block deepName [text "x"]) ∧
      composeFile ⟨planted deepDirectory deepTree, deepDirectory⟩
          (Site.pathOf (deepDirectory ++ [deepName])) ≠ .ok (block deepName [text "x"]) := by
  refine ⟨FileSystem.linkFree_of_all (by decide +kernel),
    ⟨FileSystem.open_planted (by decide), FileSystem.isName_deepDirectory⟩, by decide +kernel,
    eq_ok_of_toOption (by decide +kernel), eq_ok_of_toOption (by decide +kernel), fun h => ?_⟩
  have hnone : (composeFile ⟨planted deepDirectory deepTree, deepDirectory⟩
      (Site.pathOf (deepDirectory ++ [deepName]))).toOption = none := by decide +kernel
  rw [h] at hnone
  cases hnone

end Composition

end DocPress
