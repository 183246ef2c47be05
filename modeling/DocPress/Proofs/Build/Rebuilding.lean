import DocPress.Proofs.Build.Effect
import DocPress.Proofs.Composition.Answers

namespace DocPress

namespace Build

open World FileSystem Assets

section Sources

variable {project : Project} {page : Bytes} {before after : FileSystem} {here : Location}
  {l r : Location} {p : Path}

def outputLocation (project : Project) : Location := (project.within project.output).parts

theorem htmlDirectory_parts (project : Project) :
    project.htmlDirectory.parts = outputLocation project ++ [text "html"] := by
  have hname : (project.output.child (text "html")).name = text "html" := by
    have hlast : (project.output.child (text "html")).parts =
        project.output.parts ++ [text "html"] := rfl
    rw [Path.name, hlast, List.getLastD_concat]
  have hparent : (project.output.child (text "html")).parent = project.output := by
    have hparts : (project.output.child (text "html")).parent.parts = project.output.parts :=
      List.dropLast_concat
    exact congrArg (Path.mk project.output.root) hparts
  have hparts := congrArg Path.parts (Path.absolute_eq_concat
    (p := project.output.child (text "html")) (by rw [hname]; decide) (by rw [hname]; decide)
    project.root)
  rw [hparent, hname] at hparts
  exact hparts

theorem outputLocation_prefix (project : Project) :
    outputLocation project <+: project.htmlDirectory.parts := by
  rw [htmlDirectory_parts]
  exact List.prefix_append _ _

/-- The document, what it imports and the template are outside of the output. -/
structure ReadsAside (project : Project) (s : Site) : Prop where
  entry : ¬outputLocation project <+: project.entryPath.parts
  template : ¬outputLocation project <+: project.templatePath.parts
  imported : ∀ code p, s.readText project.entryPath = .ok code →
    Composition.Asks s project.entryPath code none (.document p) →
    ¬outputLocation project <+: p.parts

theorem Built.entryAt_of_aside (h : Built project page before after)
    (hl : ¬outputLocation project <+: l) {e : Entry} (he : before.entryAt l = some e) :
    after.entryAt l = some e := by
  have houtput := outputLocation_prefix project
  have hpage : l ≠ pageLocation project := fun h =>
    hl (h ▸ houtput.trans (List.prefix_append _ _))
  have hcopies : ∀ r, IsAsset before project.assetsPath.parts r →
      l ≠ landing before (copiesLocation project ++ r) := by
    intro r hr hland
    obtain ⟨s, hs, -⟩ := exists_landing before (copiesLocation project) hr.1
    rw [hland, hs, copiesLocation, List.append_assoc] at hl
    exact hl (houtput.trans (List.prefix_append _ _))
  rcases h.elsewhere l hpage hcopies with hsame | ⟨hn, -⟩
  · rw [hsame, he]
  · rw [hn] at he
    cases he

theorem Built.open_of_open (h : Built project page before after) (hl : before.Open l) :
    after.Open l :=
  fun k hk => h.directories k (hl k hk)

theorem Built.find_eq (h : Built project page before after) (hfree : before.LinkFree)
    (hfree' : after.LinkFree) (hp : p.IsPlain) {e : Entry}
    (hf : before.find here p.toText true = .ok (l, e)) (he : after.entryAt l = some e) :
    after.find here p.toText true = .ok (l, e) := by
  obtain ⟨rfl, -, hfits, hopen, hshort⟩ := (find_eq_ok_iff hfree hp _ _ _).1 hf
  exact (find_eq_ok_iff hfree' hp _ _ _).2 ⟨rfl, he, hfits, h.open_of_open hopen, hshort⟩

theorem Built.readText_of_aside (h : Built project page before after) (hfree : before.LinkFree)
    (hfree' : after.LinkFree) (hp : p.IsPlain) (hl : ¬outputLocation project <+: p.parts)
    {code : Text} (hr : Site.readText ⟨before, here⟩ p = .ok code) :
    Site.readText ⟨after, here⟩ p = .ok code := by
  obtain ⟨hc, l, e, hf, he⟩ := Site.readText_eq_ok_iff.1 hr
  obtain ⟨rfl, hentry, -⟩ := (find_eq_ok_iff hfree hp _ _ _).1 hf
  have hkept := h.find_eq hfree hfree' hp hf (h.entryAt_of_aside hl hentry)
  exact Site.readText_eq_ok_iff.2 ⟨hc, p.parts, e, hkept, he⟩

theorem Built.isDirectory (h : Built project page before after) (hfree : before.LinkFree)
    (hfree' : after.LinkFree) (hp : p.IsPlain)
    (hd : Site.isDirectory ⟨before, here⟩ p = .ok true) :
    Site.isDirectory ⟨after, here⟩ p = .ok true := by
  obtain ⟨hc, l, hf⟩ := Site.isDirectory_eq_ok_true_iff.1 hd
  have hentry := h.directories l (find_eq_ok_iff_locate.1 hf).2
  exact Site.isDirectory_eq_ok_true_iff.2 ⟨hc, l, h.find_eq hfree hfree' hp hf hentry⟩

theorem Built.composeFile (h : Built project page before after) (hfree : before.LinkFree)
    (hfree' : after.LinkFree) (hload : project.IsLoaded) (hreads : ReadsAside project ⟨before, here⟩)
    {document : Text}
    (hc : Composition.composeFile ⟨before, here⟩ project.entryPath = .ok document)
    (here' : Location) :
    Composition.composeFile ⟨after, here'⟩ project.entryPath = .ok document := by
  have hplain := hload.isPlain_entryPath
  refine Composition.composeFile_of_sameAnswers hplain hc
    (fun code hr => h.readText_of_aside hfree hfree' hplain hreads.entry hr)
    fun code q hr hasks hanswered => ?_
  cases q with
  | directory path =>
    obtain ⟨hp, hd⟩ := hanswered
    exact hd.trans (h.isDirectory hfree hfree' hp hd).symm
  | document path =>
    obtain ⟨hp, code', hr'⟩ := hanswered
    have haside := hreads.imported code path hr hasks
    exact hr'.trans (h.readText_of_aside hfree hfree' hp haside hr').symm

end Sources

section Assets

variable {project : Project} {page : Bytes} {before after last : FileSystem} {l r : Location}

theorem WritesAside.ne_page (h : WritesAside project before) (r : Location) :
    project.assetsPath.parts ++ r ≠ pageLocation project :=
  fun he => h.page (he ▸ List.prefix_append _ r)

theorem Built.file_iff (h : Built project page before after) (haside : WritesAside project before)
    {content : Bytes} {executable : Bool} :
    after.entryAt (project.assetsPath.parts ++ r) = some (.file content executable) ↔
      before.entryAt (project.assetsPath.parts ++ r) = some (.file content executable) := by
  have hcopies : ∀ s, IsAsset before project.assetsPath.parts s →
      project.assetsPath.parts ++ r ≠ landing before (copiesLocation project ++ s) :=
    fun s hs he => haside.copies s hs (he ▸ List.prefix_append _ r)
  rcases h.elsewhere _ (haside.ne_page r) hcopies with he | ⟨hn, hd, -⟩
  · rw [he]
  · simp [hn, hd]

theorem Built.isAsset_iff (h : Built project page before after)
    (haside : WritesAside project before) :
    IsAsset after project.assetsPath.parts r ↔ IsAsset before project.assetsPath.parts r :=
  and_congr_right fun _ => exists_congr fun _ => exists_congr fun _ => h.file_iff haside

theorem Built.landing_eq (h : Built project page before after) (htree : before.IsTree)
    (hr : IsAsset before project.assetsPath.parts r) :
    landing after (copiesLocation project ++ r) = landing before (copiesLocation project ++ r) := by
  refine landing_eq_iff ⟨h.directories _, fun hd => ?_⟩
  have hpage : copiesLocation project ++ r ≠ pageLocation project := by
    intro he
    rw [he, h.page_eq] at hd
    exact Entry.over_ne_directory _ _ _ (Option.some.inj hd)
  have hcopies : ∀ s, IsAsset before project.assetsPath.parts s →
      copiesLocation project ++ r ≠ landing before (copiesLocation project ++ s) := by
    intro s hs he
    obtain ⟨hne, content, executable, hfile⟩ := hs
    rw [he, (h.assets s content executable hne hfile).2] at hd
    exact Entry.over_ne_directory _ _ _ (Option.some.inj hd)
  rcases h.elsewhere _ hpage hcopies with he | ⟨-, -, hp | ⟨s, hs, hp⟩⟩
  · rw [← he, hd]
  · exact absurd hp (not_prefix_htmlDirectory hr.1)
  · exact absurd hp (not_prefix_dropLast htree hr hs List.prefix_rfl)

theorem Built.writesAside (h : Built project page before after) (htree : before.IsTree)
    (haside : WritesAside project before) : WritesAside project after := by
  refine ⟨haside.page, fun r hr => ?_⟩
  have hr' := (h.isAsset_iff haside).1 hr
  rw [h.landing_eq htree hr']
  exact haside.copies r hr'

/-- What is built on what has been built, with the same page, is what is there. -/
theorem Built.again (h : Built project page before after) (htree : before.IsTree)
    (haside : WritesAside project before) (h' : Built project page after last) (l : Location) :
    last.entryAt l = after.entryAt l := by
  by_cases hpage : l = pageLocation project
  · rw [hpage, h'.page_eq, h.page_eq, Entry.over_again]
  by_cases hcopy : ∃ r, IsAsset after project.assetsPath.parts r ∧
      l = landing after (copiesLocation project ++ r)
  · obtain ⟨r, hr, rfl⟩ := hcopy
    have hr' := (h.isAsset_iff haside).1 hr
    obtain ⟨hne, content, executable, hfile⟩ := id hr'
    have hlast := (h'.assets r content executable hne ((h.file_iff haside).2 hfile)).2
    have hafter := (h.assets r content executable hne hfile).2
    rw [← h.landing_eq htree hr'] at hafter
    rw [hlast, hafter, Entry.over_over]
  · rcases h'.elsewhere l hpage fun r hr he => hcopy ⟨r, hr, he⟩ with he | ⟨hn, -, hp⟩
    · exact he
    · -- Every directory that the copies need is there.
      have hopen : after.Open l := by
        rcases hp with hp | ⟨r, hr, hp⟩
        · exact fun k hk => h.isOpen k (hk.trans hp)
        · obtain ⟨hne, content, executable, hfile⟩ := (h.isAsset_iff haside).1 hr
          exact fun k hk => (h.assets r content executable hne hfile).1 k (hk.trans hp)
      rw [hopen.entryAt_eq] at hn
      cases hn

end Assets

section Renderer

variable {σ : Type} {settings settings' : Settings} {render : Text → StateT σ Run Text}
  {project : Project} {c c' : σ} {w w' : World} {document : Text}

/-- An action that leaves the files alone and gives the same whenever it runs. -/
def Gives {α : Type} (x : StateT σ Run α) (r : Except Fault α) : Prop :=
  ∀ c w, ∃ c' w', (x.run c).run.run w = (r.map fun a => (a, c'), w') ∧ SameFiles w w'

theorem simulates_gives :
    Diagram.Simulates (m := StateT σ Run) (n := Except Fault) fun _ => Gives := by
  refine ⟨fun a c w => ⟨c, w, rfl, rfl⟩, fun {α β x r f g} hx hf c w => ?_⟩
  obtain ⟨c₁, w₁, hrun, hfiles⟩ := hx c w
  cases r with
  | error fault => exact ⟨c₁, w₁, run_bind_of_error hrun _, hfiles⟩
  | ok a =>
    obtain ⟨c₂, w₂, hrun', hfiles'⟩ := hf a c₁ w₁
    exact ⟨c₂, w₂, (run_bind_of_ok hrun _).trans hrun', sameFiles_trans _ _ _ hfiles hfiles'⟩

/-- A renderer that answers by the source alone. -/
def AnswersBySource (render : Text → StateT σ Run Text) : Prop :=
  ∃ answer : Text → Except Fault Text, ∀ source, Gives (render source) (answer source)

theorem AnswersBySource.leavesFiles (h : AnswersBySource render) : LeavesFiles render := by
  obtain ⟨answer, hanswer⟩ := h
  intro source c w r w' hrun _
  obtain ⟨c₁, w₁, hrun₁, hfiles⟩ := hanswer source c w
  obtain rfl : w' = w₁ := congrArg Prod.snd (hrun.symm.trans hrun₁)
  exact hfiles

theorem run_compileDocument_eq_ok
    (h : ((compileDocument render project.entryPath).run c).run.run w = (.ok (document, c'), w')) :
    ∃ composed, Composition.composeFile w.toSite project.entryPath = .ok composed ∧
      ((compile (some render) composed).run c).run.run w = (.ok (document, c'), w') := by
  unfold compileDocument at h
  rw [StateT.run_bind] at h
  obtain ⟨⟨composed, c₁⟩, w₁, hask, h⟩ := run_bind_eq_ok_iff.1 h
  obtain ⟨hcomposed, rfl⟩ := run_liftM_eq_ok_iff.1 hask
  rw [run_ask] at hcomposed
  obtain rfl : w = w₁ := congrArg Prod.snd hcomposed
  exact ⟨composed, congrArg Prod.fst hcomposed, h⟩

theorem compile_eq_ok_of_gives {answer : Text → Except Fault Text}
    (hanswer : ∀ source, Gives (render source) (answer source)) {markdown : Text}
    (h : ((compile (some render) markdown).run c).run.run w = (.ok (document, c'), w')) :
    compile (some answer) markdown = .ok document := by
  obtain ⟨c₁, w₁, hrun, -⟩ :=
    Diagram.compile_related simulates_gives render answer hanswer markdown c w
  have hmap := congrArg Prod.fst (hrun.symm.trans h)
  cases hcompile : compile (some answer) markdown with
  | error fault =>
    rw [hcompile] at hmap
    cases hmap
  | ok a =>
    rw [hcompile] at hmap
    rw [(Prod.mk.inj (Except.ok.inj hmap)).1]

theorem IsPage.eq_of_built {w₂ : World} {c₂ : σ} {page page' : Bytes} (hload : project.IsLoaded)
    (hr : AnswersBySource render) (hfree : w.files.LinkFree) (hfree' : w₂.files.LinkFree)
    (hreads : ReadsAside project w.toSite) (h : IsPage render project c w page)
    (hbuilt : Built project page w.files w₂.files) (h' : IsPage render project c₂ w₂ page') :
    page' = page := by
  obtain ⟨answer, hanswer⟩ := hr
  obtain ⟨document, content, c₁, w₁, hrun, hread, hpage⟩ := h
  obtain ⟨document', content', c₃, w₃, hrun', hread', hpage'⟩ := h'
  obtain ⟨composed, hcomposed, hcompiled⟩ := run_compileDocument_eq_ok hrun
  obtain ⟨composed', hcomposed', hcompiled'⟩ := run_compileDocument_eq_ok hrun'
  have hagain : Composition.composeFile w₂.toSite project.entryPath = .ok composed :=
    hbuilt.composeFile hfree hfree' hload hreads hcomposed w₂.here
  obtain rfl := Except.ok.inj (hcomposed'.symm.trans hagain)
  obtain rfl := Except.ok.inj
    ((compile_eq_ok_of_gives hanswer hcompiled').symm.trans (compile_eq_ok_of_gives hanswer hcompiled))
  have hplain := hload.isPlain_templatePath
  have hread₂ : w₂.toSite.readText project.templatePath = .ok content := by
    rw [← hbuilt.readText_of_aside hfree hfree' hplain hreads.template hread]
    exact Site.readText_of_isAbsolute hplain.isAbsolute w₂.files w₂.here w.here
  obtain rfl := Except.ok.inj (hread'.symm.trans hread₂)
  exact Option.some.inj (hpage'.symm.trans hpage)

end Renderer

section Again

variable {σ : Type} {settings settings' : Settings} {render : Text → StateT σ Run Text}
  {project : Project} {c c' c₂ c₂' : σ} {w w' w₂ w₂' : World} {product product' : Product}

/-- A second build leaves the files as they are: no file is added, changed or removed. What the first
build read is outside of the output, and what it wrote is outside of the assets. -/
theorem build_again (hload : project.IsLoaded) (hr : AnswersBySource render)
    (hfree : w.files.LinkFree) (htree : w.files.IsTree) (haside : WritesAside project w.files)
    (hreads : ReadsAside project w.toSite)
    (h : ((build settings render project (text "html")).run c).run.run w = (.ok (product, c'), w'))
    (hfiles : w₂.files = w'.files)
    (h' : ((build settings' render project (text "html")).run c₂).run.run w₂ =
      (.ok (product', c₂'), w₂')) (l : Location) :
    w₂'.files.entryAt l = w'.files.entryAt l := by
  obtain ⟨-, hfree', htree', page, hpage, hbuilt⟩ :=
    run_build_html_eq_ok hload hr.leavesFiles hfree htree haside h
  have haside' := hbuilt.writesAside htree haside
  rw [← hfiles] at hbuilt hfree' htree' haside'
  obtain ⟨-, -, -, page', hpage', hbuilt'⟩ :=
    run_build_html_eq_ok hload hr.leavesFiles hfree' htree' haside' h'
  obtain rfl := hpage.eq_of_built hload hr hfree hfree' hreads hbuilt hpage'
  rw [← hfiles]
  exact hbuilt.again htree haside hbuilt' l

end Again

section Manual

theorem readsAside_of_noImports {project : Project} {s : Site} (code : Text)
    (he : ¬outputLocation project <+: project.entryPath.parts)
    (ht : ¬outputLocation project <+: project.templatePath.parts)
    (hr : s.readText project.entryPath = .ok code)
    (hlines : ∀ line ∈ Composition.sourceLines code,
      Text.after? Composition.importMarker line = none) : ReadsAside project s := by
  refine ⟨he, ht, fun code' p hr' hasks => ?_⟩
  obtain rfl := Except.ok.inj (hr.symm.trans hr')
  cases id hasks with
  | line _ _ hd =>
    cases hasks.eq_directory (Composition.container_eq_ok_iff.1 hd).1 hlines

theorem answersBySource_pictureless : AnswersBySource pictureless :=
  ⟨fun _ => .ok [], fun _ c w => ⟨c, w, rfl, rfl⟩⟩

def buildPage (project : Project) (w : World) : Except Fault (Product × Unit) × World :=
  ((build manualSettings pictureless project (text "html")).run ()).run.run w

theorem exists_buildPage_twice (project : Project) (w : World)
    (h : (buildPage project w).1.toOption.isSome = true)
    (h' : (buildPage project (buildPage project w).2).1.toOption.isSome = true) :
    ∃ product product' w' w₂', buildPage project w = (.ok (product, ()), w') ∧
      buildPage project w' = (.ok (product', ()), w₂') := by
  obtain ⟨⟨product, ⟨⟩⟩, w', hrun⟩ := exists_run_eq_ok h
  obtain ⟨⟨product', ⟨⟩⟩, w₂', hrun'⟩ := exists_run_eq_ok h'
  have hw : (buildPage project w).2 = w' := congrArg Prod.snd hrun
  rw [hw] at hrun'
  exact ⟨product, product', w', w₂', hrun, hrun'⟩

theorem build_again_manual :
    ∃ product product' w' w₂',
      buildPage manualProject (World.still ⟨manual [], []⟩) = (.ok (product, ()), w') ∧
      buildPage manualProject w' = (.ok (product', ()), w₂') ∧
      ∀ l, w₂'.files.entryAt l = w'.files.entryAt l := by
  obtain ⟨product, product', w', w₂', hrun, hrun'⟩ :=
    exists_buildPage_twice manualProject (World.still ⟨manual [], []⟩)
      (by decide +kernel) (by decide +kernel)
  have hreads : ReadsAside manualProject ⟨manual [], []⟩ :=
    readsAside_of_noImports (text "Hello") (by decide) (by decide)
      (Composition.eq_ok_of_toOption (by decide +kernel)) (by decide)
  refine ⟨product, product', w', w₂', hrun, hrun', ?_⟩
  exact build_again isLoaded_manualProject answersBySource_pictureless
    (linkFree_of_all (by decide +kernel)) (isTree_of_forall (by decide +kernel))
    (writesAside_of_apart (by decide) (by decide) _) hreads hrun rfl hrun'

/-- A document with a template, and an empty directory for the assets. -/
def nested : FileSystem :=
  ⟨[([text "start.md"], .file (Text.Utf8.encodeLenient (text "Hello")) false),
    ([text "t.html"], .file (Text.Utf8.encodeLenient (text "[#\x7bcontenido\x7d#]")) false),
    ([text "assets"], .directory)]⟩

def nestedProject : Project :=
  ⟨.ofText (text "/"), .ofText (text "/"), .ofText (text "./assets"), .ofText (text "start.md"),
    .ofText (text "t.html"), .ofText (text "assets/build")⟩

/-- Where the second build finds the page of the first one, as seen from the assets. -/
def nestedPage : Location := [text "build", text "html", pageName]

/-- The page of the first build is an asset of the second one, which copies it. -/
theorem build_again_nested :
    nestedProject.IsLoaded ∧ AnswersBySource pictureless ∧ nested.LinkFree ∧ nested.IsTree ∧
      ReadsAside nestedProject ⟨nested, []⟩ ∧
      ∃ product product' w' w₂',
        buildPage nestedProject (World.still ⟨nested, []⟩) = (.ok (product, ()), w') ∧
        buildPage nestedProject w' = (.ok (product', ()), w₂') ∧
        w'.files.entryAt (copiesLocation nestedProject ++ nestedPage) = none ∧
        w₂'.files.entryAt (copiesLocation nestedProject ++ nestedPage) ≠ none := by
  have hload : nestedProject.IsLoaded := by constructor <;> decide
  have hreads : ReadsAside nestedProject ⟨nested, []⟩ :=
    readsAside_of_noImports (text "Hello") (by decide) (by decide)
      (Composition.eq_ok_of_toOption (by decide +kernel)) (by decide)
  refine ⟨hload, answersBySource_pictureless, linkFree_of_all (by decide +kernel),
    isTree_of_forall (by decide +kernel), hreads, ?_⟩
  obtain ⟨product, product', w', w₂', hrun, hrun'⟩ :=
    exists_buildPage_twice nestedProject (World.still ⟨nested, []⟩)
      (by decide +kernel) (by decide +kernel)
  have hold : (buildPage nestedProject (World.still ⟨nested, []⟩)).2.files.entryAt
      (copiesLocation nestedProject ++ nestedPage) = none := by
    decide +kernel
  have hnew : (buildPage nestedProject
      (buildPage nestedProject (World.still ⟨nested, []⟩)).2).2.files.entryAt
        (copiesLocation nestedProject ++ nestedPage) ≠ none := by
    decide +kernel
  rw [hrun] at hold hnew
  rw [hrun'] at hnew
  exact ⟨product, product', w', w₂', hrun, hrun', hold, hnew⟩

end Manual

end Build

end DocPress
