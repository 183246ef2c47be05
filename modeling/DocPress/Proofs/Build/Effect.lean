import DocPress.Proofs.Assets.Transfer
import DocPress.Proofs.Build.Loading
import DocPress.Proofs.Build.Printing
import DocPress.Proofs.Build.Stages
import DocPress.Proofs.Composition.Spelling

namespace DocPress.Build

open World FileSystem Assets

section Built

variable {project : Project} {page : Bytes} {before after files : FileSystem} {l r : Location}

def pageLocation (project : Project) : Location := project.htmlDirectory.parts ++ [pageName]

def copiesLocation (project : Project) : Location :=
  project.htmlDirectory.parts ++ project.assetsPath.parts.getLast?.toList

/-- The page and the copies of the assets are there, with the directories they need, and all else is
as before. -/
structure Built (project : Project) (page : Bytes) (before after : FileSystem) : Prop where
  isOpen : after.Open project.htmlDirectory.parts
  page_eq : after.entryAt (pageLocation project) = some (.over (before.entryAt (pageLocation project))
    page (Entry.isExecutable (before.entryAt (pageLocation project))))
  assets : ∀ r content executable, r ≠ [] →
    before.entryAt (project.assetsPath.parts ++ r) = some (.file content executable) →
    after.Open (copiesLocation project ++ r.dropLast) ∧
      after.entryAt (landing before (copiesLocation project ++ r)) =
        some (.over (before.entryAt (landing before (copiesLocation project ++ r))) content executable)
  directories : ∀ l, before.entryAt l = some .directory → after.entryAt l = some .directory
  elsewhere : ∀ l, l ≠ pageLocation project →
    (∀ r, IsAsset before project.assetsPath.parts r →
      l ≠ landing before (copiesLocation project ++ r)) →
    after.entryAt l = before.entryAt l ∨
      before.entryAt l = none ∧ after.entryAt l = some .directory ∧
        (l <+: project.htmlDirectory.parts ∨
          ∃ r, IsAsset before project.assetsPath.parts r ∧ l <+: copiesLocation project ++ r.dropLast)

/-- Nothing that a build writes stands among the assets. -/
structure WritesAside (project : Project) (files : FileSystem) : Prop where
  page : ¬project.assetsPath.parts <+: pageLocation project
  copies : ∀ r, IsAsset files project.assetsPath.parts r →
    ¬project.assetsPath.parts <+: landing files (copiesLocation project ++ r)

/-- Directories that do not contain one another are as far apart as they need to be. -/
theorem writesAside_of_apart (h : ¬project.assetsPath.parts <+: copiesLocation project)
    (h' : ¬copiesLocation project <+: project.assetsPath.parts) (files : FileSystem) :
    WritesAside project files := by
  constructor
  · intro hp
    rcases List.prefix_concat_iff.1 hp with he | hp
    · -- The assets would be where the page goes, and so their copies.
      have hlast : project.assetsPath.parts.getLast? = some pageName := by
        rw [he, List.getLast?_concat]
      have hcopies : copiesLocation project = project.assetsPath.parts := by
        rw [copiesLocation, hlast, he]
        rfl
      exact h' (hcopies ▸ List.prefix_rfl)
    · exact h (hp.trans (List.prefix_append _ _))
  · intro r hr hp
    obtain ⟨s, hs, -⟩ := exists_landing files (copiesLocation project) hr.1
    rw [hs] at hp
    rcases List.prefix_or_prefix_of_prefix hp (List.prefix_append _ _) with hp | hp
    · exact h hp
    · exact h' hp

theorem not_prefix_htmlDirectory (hr : r ≠ []) :
    ¬copiesLocation project ++ r <+: project.htmlDirectory.parts := by
  intro h
  have hlength := h.length_le
  have hpos := List.length_pos_iff.2 hr
  simp only [copiesLocation, List.length_append] at hlength
  omega

theorem landing_not_prefix_htmlDirectory (hr : r ≠ []) :
    ¬landing files (copiesLocation project ++ r) <+: project.htmlDirectory.parts := by
  obtain ⟨s, hs, hrs⟩ := exists_landing files (copiesLocation project) hr
  rw [hs]
  exact not_prefix_htmlDirectory fun h => hr (List.prefix_nil.1 (h ▸ hrs))

theorem not_pageLocation_prefix_htmlDirectory :
    ¬pageLocation project <+: project.htmlDirectory.parts := by
  intro h
  have hlength := h.length_le
  simp only [pageLocation, List.length_append, List.length_singleton] at hlength
  omega

/-- The page goes where no copy goes: copies are in a directory beside it. -/
theorem WritesAside.page_ne_landing (h : WritesAside project before) (files : FileSystem)
    (hr : r ≠ []) : pageLocation project ≠ landing files (copiesLocation project ++ r) := by
  intro he
  obtain ⟨s, hs, hrs⟩ := exists_landing files (copiesLocation project) hr
  have hne : project.assetsPath.parts ≠ [] := fun hn => h.page (hn ▸ List.nil_prefix)
  have hlength := congrArg List.length (he.trans hs)
  have hpos := List.length_pos_iff.2 hr
  have hle := hrs.length_le
  rw [copiesLocation, List.getLast?_eq_some_getLast hne] at hlength
  simp only [pageLocation, List.length_append, Option.length_toList, Option.isSome_some, if_true,
    List.length_singleton] at hlength
  omega

/-- Opening the directory of the page changes neither the assets nor where their copies go. -/
theorem isAsset_iff_of_opened (h : Opened before project.htmlDirectory.parts files)
    {directory : Location} : IsAsset files directory r ↔ IsAsset before directory r := by
  refine and_congr_right fun _ => exists_congr fun content => exists_congr fun executable => ?_
  rcases h.elsewhere (directory ++ r) with he | ⟨hn, hd, -⟩
  · rw [he]
  · simp [hn, hd]

theorem landing_of_opened (h : Opened before project.htmlDirectory.parts files) (hr : r ≠ []) :
    landing files (copiesLocation project ++ r) = landing before (copiesLocation project ++ r) :=
  landing_eq_iff (by rw [h.entryAt_of_not_prefix (not_prefix_htmlDirectory hr)])

theorem WritesAside.of_opened (h : WritesAside project before)
    (ho : Opened before project.htmlDirectory.parts files) : WritesAside project files := by
  refine ⟨h.page, fun r hr => ?_⟩
  rw [landing_of_opened ho hr.1]
  exact h.copies r ((isAsset_iff_of_opened ho).1 hr)

theorem built_of_copied {files₁ files₂ : FileSystem} (haside : WritesAside project before)
    (hopened : Opened before project.htmlDirectory.parts files₁)
    (hcopied : Copied files₁ project.assetsPath.parts (copiesLocation project)
      (IsAsset files₁ project.assetsPath.parts) files₂)
    (hplaced : Placed files₂ (pageLocation project)
      (.over (files₂.entryAt (pageLocation project)) page
        (Entry.isExecutable (files₂.entryAt (pageLocation project)))) after) :
    Built project page before after := by
  have hasset : ∀ {r}, IsAsset files₁ project.assetsPath.parts r ↔
      IsAsset before project.assetsPath.parts r := isAsset_iff_of_opened hopened
  have hland : ∀ {r}, IsAsset before project.assetsPath.parts r →
      landing files₁ (copiesLocation project ++ r) = landing before (copiesLocation project ++ r) :=
    fun hr => landing_of_opened hopened hr.1
  have hpage : ∀ r, IsAsset before project.assetsPath.parts r →
      pageLocation project ≠ landing before (copiesLocation project ++ r) :=
    fun r hr => haside.page_ne_landing before hr.1
  have hpage₁ : files₁.entryAt (pageLocation project) = before.entryAt (pageLocation project) :=
    hopened.entryAt_of_not_prefix not_pageLocation_prefix_htmlDirectory
  have hpage₂ : files₂.entryAt (pageLocation project) = before.entryAt (pageLocation project) := by
    rcases hcopied.elsewhere _ fun r hr => by rw [hland (hasset.1 hr)]; exact hpage r (hasset.1 hr)
      with he | ⟨-, hd, -⟩
    · rw [he, hpage₁]
    · exact absurd hd hplaced.notDirectory
  rw [hpage₂] at hplaced
  have hentry : ∀ {r}, IsAsset before project.assetsPath.parts r →
      files₁.entryAt (landing before (copiesLocation project ++ r)) =
        before.entryAt (landing before (copiesLocation project ++ r)) :=
    fun hr => hopened.entryAt_of_not_prefix (landing_not_prefix_htmlDirectory hr.1)
  -- The page goes where no copy does, so what was copied can be read off behind it.
  refine ⟨hplaced.open_of_open (hcopied.open_of_open hopened.isOpen), hplaced.entryAt_self, ?_, ?_, ?_⟩
  · intro r content executable hr hfile
    have hr' : IsAsset before project.assetsPath.parts r := ⟨hr, content, executable, hfile⟩
    refine ⟨hplaced.open_of_open (hcopied.isOpen r (hasset.2 hr')), ?_⟩
    have hlanded := hcopied.landed r (hasset.2 hr') content executable (hopened.entryAt_of_some hfile)
    rw [hland hr', hentry hr'] at hlanded
    rw [hplaced.entryAt_of_ne (hpage r hr').symm, hlanded]
  · intro l hl
    have hl₂ := hcopied.directories l (hopened.entryAt_of_some hl)
    rw [hplaced.entryAt_of_ne fun he => hplaced.notDirectory (he ▸ hl₂), hl₂]
  · intro l hl hcopies
    rw [hplaced.entryAt_of_ne hl]
    rcases hcopied.elsewhere l fun r hr => by rw [hland (hasset.1 hr)]; exact hcopies r (hasset.1 hr)
      with he | ⟨hn, hd, r, hr, hp⟩
    · rw [he]
      exact (hopened.elsewhere l).imp_right fun ⟨hn, hd, hp⟩ => ⟨hn, hd, .inl hp⟩
    · rcases hopened.elsewhere l with he | ⟨-, hd', -⟩
      · exact .inr ⟨he.symm.trans hn, hd, .inr ⟨r, hasset.1 hr, hp⟩⟩
      · rw [hn] at hd'
        cases hd'

end Built

section Run

variable {project : Project} {w w' : World} {file : Path} {page : Text}

theorem isPlain_target (h : project.IsLoaded) :
    (Assets.target project.assetsPath project.htmlDirectory).IsPlain :=
  Assets.isPlain_target h.isPlain_assetsPath h.isPlain_htmlDirectory

theorem isPlain_page (h : project.IsLoaded) : (project.htmlDirectory.child pageName).IsPlain :=
  h.isPlain_htmlDirectory.below (k := [pageName]) (by decide)

/-- The page and the assets are written, and what was printed is all else that is new. -/
theorem run_writePage_eq_ok (hload : project.IsLoaded) (hfree : w.files.LinkFree)
    (htree : w.files.IsTree) (haside : WritesAside project w.files)
    (h : (writePage project page).run.run w = (.ok file, w')) :
    file = project.htmlDirectory.child pageName ∧ ∃ bytes files printed,
      Text.Utf8.encode? page = some bytes ∧
      w' = { w with files := files, printed := printed } ∧ files.LinkFree ∧ files.IsTree ∧
      Built project bytes w.files files := by
  obtain ⟨⟨⟩, w₁, hmade, h⟩ := run_bind_eq_ok_iff.1 h
  obtain ⟨files₁, rfl, hopened⟩ := run_makeDirectories_eq_ok hfree hload.isPlain_htmlDirectory hmade
  rw [discard_eq_bind, bind_assoc] at h
  obtain ⟨copied, w₂, hcopy, h⟩ := run_bind_eq_ok_iff.1 h
  have haside₁ : WritesAside project files₁ := haside.of_opened hopened
  obtain ⟨-, files₂, printed, rfl, hcopied⟩ := run_copy_eq_ok hload.isPlain_assetsPath
    (isPlain_target hload) (hopened.linkFree hfree) (hopened.isTree htree) haside₁.copies hcopy
  rw [pure_bind] at h
  obtain ⟨⟨⟩, w₃, hwrite, h⟩ := run_bind_eq_ok_iff.1 h
  obtain ⟨rfl, rfl⟩ := run_pure_eq_ok_iff.1 h
  obtain ⟨bytes, hbytes, hwrite⟩ := run_writeText_eq_ok hwrite
  obtain ⟨files, hc, hwritten, rfl⟩ := run_change_eq_ok_iff.1 hwrite
  have hplaced := placed_of_write hcopied.linkFree (isPlain_page hload) hc hwritten
  exact ⟨rfl, bytes, files, printed, hbytes, rfl,
    hplaced.linkFree hcopied.linkFree (by simp), hplaced.isTree hcopied.isTree,
    built_of_copied haside hopened hcopied hplaced⟩

end Run

section Effect

variable {σ : Type} {settings : Settings} {render : Text → StateT σ Run Text} {project : Project}
  {c c' : σ} {w w' w₁ : World} {file : Path}

/-- Files are as before. -/
def SameFiles (w w' : World) : Prop := w'.files = w.files

theorem sameFiles_refl (w : World) : SameFiles w w := rfl

theorem sameFiles_trans (a b c : World) (h : SameFiles a b) (h' : SameFiles b c) : SameFiles a c :=
  h'.trans h

/-- A renderer that leaves the file system alone. -/
def LeavesFiles (render : Text → StateT σ Run Text) : Prop :=
  ∀ source c, Within SameFiles (fun _ => True) ((render source).run c)

/-- The bytes of the page: the template as it is before the build, filled with the document as it is
compiled then. -/
def IsPage (render : Text → StateT σ Run Text) (project : Project) (c : σ) (w : World)
    (page : Bytes) : Prop :=
  ∃ document content c' w',
    ((compileDocument render project.entryPath).run c).run.run w = (.ok (document, c'), w') ∧
    w.toSite.readText project.templatePath = .ok content ∧
    Text.Utf8.encode? (Template.fill Template.contentName content document) = some page

theorem isPage_of_prepare (hload : project.IsLoaded) (hr : LeavesFiles render) {format : Text}
    {format' : Format} {page : Text} {bytes : Bytes}
    (h : ((prepare render project format).run c).run.run w = (.ok ((format', page), c'), w'))
    (hbytes : Text.Utf8.encode? page = some bytes) :
    w'.files = w.files ∧ IsPage render project c w bytes := by
  have hfiles : w'.files = w.files :=
    within_prepare sameFiles_refl sameFiles_trans hr project format c _ _ _ h fun _ _ => trivial
  obtain ⟨-, document, content, hdocument, hread, rfl⟩ := run_prepare_eq_ok h
  refine ⟨hfiles, document, content, c', w', hdocument, ?_, hbytes⟩
  have hsite : w'.toSite = ⟨w.files, w'.here⟩ := by rw [← hfiles]
  rw [← hread, hsite]
  exact Site.readText_of_isAbsolute hload.isPlain_templatePath.isAbsolute w.files w.here w'.here

theorem run_build_html_eq_ok (hload : project.IsLoaded) (hr : LeavesFiles render)
    (hfree : w.files.LinkFree) (htree : w.files.IsTree) (haside : WritesAside project w.files)
    {product : Product}
    (h : ((build settings render project (text "html")).run c).run.run w = (.ok (product, c'), w')) :
    product = ⟨project.htmlDirectory.child pageName, none⟩ ∧ w'.files.LinkFree ∧ w'.files.IsTree ∧
      ∃ bytes, IsPage render project c w bytes ∧ Built project bytes w.files w'.files := by
  obtain ⟨format, page, w₁, hprepare, h⟩ := run_build_eq_ok_iff.1 h
  obtain ⟨hformat, -⟩ := run_prepare_eq_ok hprepare
  obtain rfl : Format.html = format := Option.some.inj hformat
  obtain ⟨file, w₂, hwrite, h⟩ := run_bind_eq_ok_iff.1 h
  obtain ⟨rfl, rfl⟩ := run_pure_eq_ok_iff.1 h
  have hfiles : w₁.files = w.files :=
    within_prepare sameFiles_refl sameFiles_trans hr project _ c _ _ _ hprepare fun _ _ => trivial
  rw [← hfiles] at hfree htree haside
  obtain ⟨rfl, bytes, files, printed, hbytes, rfl, hfree', htree', hbuilt⟩ :=
    run_writePage_eq_ok hload hfree htree haside hwrite
  rw [hfiles] at hbuilt
  exact ⟨rfl, hfree', htree', bytes, (isPage_of_prepare hload hr hprepare hbytes).2, hbuilt⟩

/-- What a build does before it prints: the page is there, and the directory of the print. -/
def beforePrinting (render : Text → StateT σ Run Text) (project : Project) : StateT σ Run Path := do
  let (_, page) ← prepare render project (text "pdf")
  liftM (do
    let file ← writePage project page
    World.makeDirectories project.pdfDirectory
    return file : Run Path)

theorem run_beforePrinting_eq_ok
    (h : ((beforePrinting render project).run c).run.run w = (.ok (file, c'), w')) :
    ∃ page w₁ w₂,
      ((prepare render project (text "pdf")).run c).run.run w = (.ok ((.pdf, page), c'), w₁) ∧
      (writePage project page).run.run w₁ = (.ok file, w₂) ∧
      (World.makeDirectories project.pdfDirectory).run.run w₂ = (.ok (), w') := by
  unfold beforePrinting at h
  simp only [StateT.run_bind] at h
  obtain ⟨⟨⟨format, page⟩, c₁⟩, w₁, hprepare, h⟩ := run_bind_eq_ok_iff.1 h
  obtain ⟨hformat, -⟩ := run_prepare_eq_ok hprepare
  obtain rfl : Format.pdf = format := Option.some.inj hformat
  obtain ⟨hlift, rfl⟩ := run_liftM_eq_ok_iff.1 h
  obtain ⟨file', w₂, hwrite, hrest⟩ := run_bind_eq_ok_iff.1 hlift
  obtain ⟨⟨⟩, w₃, hmade, hpure⟩ := run_bind_eq_ok_iff.1 hrest
  obtain ⟨rfl, rfl⟩ := run_pure_eq_ok_iff.1 hpure
  exact ⟨page, w₁, w₂, hprepare, hwrite, hmade⟩

theorem run_build_pdf
    (h : ((beforePrinting render project).run c).run.run w = (.ok (file, c'), w₁))
    {r : Except Fault Path}
    (hprint : (Pdf.write settings none file (project.pdfDirectory.child pdfName)).run.run w₁ =
      (r, w')) :
    ((build settings render project (text "pdf")).run c).run.run w =
      (r.map fun pdf => (⟨file, some pdf⟩, c'), w') := by
  obtain ⟨page, w₂, w₃, hprepare, hwrite, hmade⟩ := run_beforePrinting_eq_ok h
  have hpdf : (writePdf settings project file).run.run w₃ = (r, w') :=
    (run_bind_of_ok hmade _).trans hprint
  cases r with
  | ok pdf =>
    refine run_build_eq_ok_iff.2 ⟨_, page, w₂, hprepare, ?_⟩
    rw [finish, run_bind_of_ok hwrite, run_bind_of_ok hpdf]
    rfl
  | error fault =>
    refine run_build_eq_error_iff.2 (.inr ⟨_, page, c', w₂, hprepare, ?_⟩)
    rw [finish, run_bind_of_ok hwrite, run_bind_of_error hpdf]

/-- A build that succeeds has its effect and no other: the directory of the page is there, every asset
has a copy with the bytes it had, the page is the template filled with the document, both as they were
before, and all else is untouched. A directory that is in the way of a copy takes it in. A build that
gets to printing has made these changes, and the directory of the print, before the browser is
started, and whether printing fails or not. -/
theorem build_effect (hload : project.IsLoaded) (hr : LeavesFiles render)
    (hfree : w.files.LinkFree) (htree : w.files.IsTree)
    (hassets : ¬project.assetsPath.parts <+: copiesLocation project)
    (hcopies : ¬copiesLocation project <+: project.assetsPath.parts) :
    (∀ product c' w',
      ((build settings render project (text "html")).run c).run.run w = (.ok (product, c'), w') →
      product = ⟨project.htmlDirectory.child pageName, none⟩ ∧
        ∃ page, IsPage render project c w page ∧ Built project page w.files w'.files) ∧
    ∀ file c₁ w₁, ((beforePrinting render project).run c).run.run w = (.ok (file, c₁), w₁) →
      (∃ page files, IsPage render project c w page ∧ Built project page w.files files ∧
        Opened files project.pdfDirectory.parts w₁.files) ∧
      ∀ r w', (Pdf.write settings none file (project.pdfDirectory.child pdfName)).run.run w₁ = (r, w') →
        ((build settings render project (text "pdf")).run c).run.run w =
          (r.map fun pdf => (⟨file, some pdf⟩, c₁), w') ∧ Pdf.Printed w₁ w' := by
  have haside := writesAside_of_apart hassets hcopies w.files
  refine ⟨fun product c' w' h => ?_, fun file c₁ w₁ h => ⟨?_, fun r w' hprint => ?_⟩⟩
  · obtain ⟨hproduct, -, -, hbuilt⟩ := run_build_html_eq_ok hload hr hfree htree haside h
    exact ⟨hproduct, hbuilt⟩
  · obtain ⟨page, w₂, w₃, hprepare, hwrite, hmade⟩ := run_beforePrinting_eq_ok h
    have hfiles : w₂.files = w.files :=
      within_prepare sameFiles_refl sameFiles_trans hr project _ c _ _ _ hprepare fun _ _ => trivial
    rw [← hfiles] at hfree htree haside
    obtain ⟨-, bytes, files, printed, hbytes, rfl, hfree', -, hbuilt⟩ :=
      run_writePage_eq_ok hload hfree htree haside hwrite
    obtain ⟨files', rfl, hopened⟩ := run_makeDirectories_eq_ok hfree' hload.isPlain_pdfDirectory hmade
    rw [hfiles] at hbuilt
    exact ⟨bytes, files, (isPage_of_prepare hload hr hprepare hbytes).2, hbuilt, hopened⟩
  · exact ⟨run_build_pdf h hprint, Pdf.within_write _ _ _ _ _ _ _ hprint fun _ _ => trivial⟩

end Effect

section Manual

/-- A document with a template and one asset, and what else there is. -/
def manual (more : List (Location × Entry)) : FileSystem :=
  ⟨[([text "start.md"], .file (Text.Utf8.encodeLenient (text "Hello")) false),
    ([text "t.html"], .file (Text.Utf8.encodeLenient (text "[#\x7bcontenido\x7d#]")) false),
    ([text "assets"], .directory),
    ([text "assets", text "a.txt"], .file (Text.Utf8.encodeLenient (text "abc")) false)] ++ more⟩

def manualProject : Project :=
  ⟨.ofText (text "/"), .ofText (text "/"), .ofText (text "./assets"), .ofText (text "start.md"),
    .ofText (text "t.html"), .ofText (text "./build")⟩

def manualSettings : Settings :=
  ⟨.ofText (text "/c"), .string [], .string Settings.transparent, none, .string []⟩

theorem isLoaded_manualProject : manualProject.IsLoaded := by
  constructor <;> decide

theorem leavesFiles_pictureless : LeavesFiles pictureless :=
  fun _ _ => within_pure sameFiles_refl _

theorem build_effect_manual :
    (∃ product w' page,
      ((build manualSettings pictureless manualProject (text "html")).run ()).run.run
        (World.still ⟨manual [], []⟩) = (.ok (product, ()), w') ∧
      IsPage pictureless manualProject () (World.still ⟨manual [], []⟩) page ∧
      Built manualProject page (manual []) w'.files) ∧
    ∃ file w₁ page files,
      ((beforePrinting pictureless manualProject).run ()).run.run
        (World.still ⟨manual [], []⟩) = (.ok (file, ()), w₁) ∧
      IsPage pictureless manualProject () (World.still ⟨manual [], []⟩) page ∧
      Built manualProject page (manual []) files ∧
      Opened files [text "build", text "pdf"] w₁.files := by
  obtain ⟨hhtml, hpdf⟩ := @build_effect _ manualSettings _ _ () (World.still ⟨manual [], []⟩)
    isLoaded_manualProject leavesFiles_pictureless (linkFree_of_all (by decide +kernel))
    (isTree_of_forall (by decide +kernel)) (by decide) (by decide)
  constructor
  · obtain ⟨⟨product, ⟨⟩⟩, w', hrun⟩ : ∃ a w',
        ((build manualSettings pictureless manualProject (text "html")).run ()).run.run
          (World.still ⟨manual [], []⟩) = (.ok a, w') := exists_run_eq_ok (by decide +kernel)
    obtain ⟨-, page, hpage, hbuilt⟩ := hhtml product () w' hrun
    exact ⟨product, w', page, hrun, hpage, hbuilt⟩
  · obtain ⟨⟨file, ⟨⟩⟩, w₁, hrun⟩ : ∃ a w₁,
        ((beforePrinting pictureless manualProject).run ()).run.run
          (World.still ⟨manual [], []⟩) = (.ok a, w₁) := exists_run_eq_ok (by decide +kernel)
    obtain ⟨⟨page, files, hpage, hbuilt, hopened⟩, -⟩ := hpdf file () w₁ hrun
    exact ⟨file, w₁, page, files, hrun, hpage, hbuilt, hopened⟩

/-- A directory has the name that the copy of the asset is to have. -/
def crowded : FileSystem :=
  manual [([text "build"], .directory), ([text "build", text "html"], .directory),
    ([text "build", text "html", text "assets"], .directory),
    ([text "build", text "html", text "assets", text "a.txt"], .directory)]

/-- The build succeeds, but the copy is not where it is to be: the directory is still there. -/
theorem build_effect_crowded :
    manualProject.IsLoaded ∧ LeavesFiles pictureless ∧ crowded.LinkFree ∧ crowded.IsTree ∧
      ¬manualProject.assetsPath.parts <+: copiesLocation manualProject ∧
      ¬copiesLocation manualProject <+: manualProject.assetsPath.parts ∧
      ∃ product w',
        ((build manualSettings pictureless manualProject (text "html")).run ()).run.run
          (World.still ⟨crowded, []⟩) = (.ok (product, ()), w') ∧
        crowded.entryAt [text "assets", text "a.txt"] =
          some (.file (Text.Utf8.encodeLenient (text "abc")) false) ∧
        w'.files.entryAt [text "build", text "html", text "assets", text "a.txt"] =
          some .directory := by
  refine ⟨isLoaded_manualProject, leavesFiles_pictureless, linkFree_of_all (by decide +kernel),
    isTree_of_forall (by decide +kernel), by decide, by decide, ?_⟩
  obtain ⟨⟨product, ⟨⟩⟩, w', hrun⟩ : ∃ a w',
      ((build manualSettings pictureless manualProject (text "html")).run ()).run.run
        (World.still ⟨crowded, []⟩) = (.ok a, w') := exists_run_eq_ok (by decide +kernel)
  refine ⟨product, w', hrun, by decide +kernel, ?_⟩
  have hentry : (((build manualSettings pictureless manualProject (text "html")).run ()).run.run
      (World.still ⟨crowded, []⟩)).2.files.entryAt
        [text "build", text "html", text "assets", text "a.txt"] = some .directory := by
    decide +kernel
  rwa [hrun] at hentry

end Manual

end DocPress.Build
