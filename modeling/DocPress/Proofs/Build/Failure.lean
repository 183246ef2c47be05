import DocPress.Proofs.Assets.Listing
import DocPress.Proofs.Build.Printing
import DocPress.Proofs.Build.Stages
import DocPress.Proofs.Composition.Faults
import DocPress.Proofs.Diagram.Drawing

namespace DocPress

open World FileSystem

namespace Assets

theorem failsWith_copyFile (source target : Path) :
    FailsWith Fault.IsForeign (copyFile source target) := by
  unfold copyFile
  refine FailsWith.bind (fun _ _ _ h => by cases h) fun w => ?_
  have hcopy : FailsWith Fault.IsForeign (World.ask (·.readBytes source.toText)) :=
    failsWith_ask fun _ _ => Site.isForeign_of_readBytes
  dsimp only
  refine FailsWith.ite ((failsWith_throw fun h => h).bind fun _ => ?_) ?_ <;>
    exact hcopy.bind fun _ => (failsWith_change _ _).bind fun _ => failsWith_change _ _

theorem failsWith_copyBelow (source destination : Path) (parts : List Text) :
    FailsWith Fault.IsForeign (copyBelow source destination parts) :=
  (failsWith_makeDirectories _).bind fun _ => failsWith_copyFile _ _

theorem failsWith_checkLabel (parts : List Text) : FailsWith Fault.IsForeign (checkLabel parts) := by
  unfold checkLabel
  split
  · exact failsWith_pure _
  · exact failsWith_throw id

theorem failsWith_copyAll (source destination : Path) (files : List (List Text)) :
    FailsWith Fault.IsForeign (copyAll source destination files) := by
  refine FailsWith.bind (FailsWith.forIn (fun parts _ => ?_) _) fun _ => ?_
  · refine FailsWith.bind ?_ fun _ => failsWith_pure _
    exact (failsWith_copyBelow source destination parts).tryCatch fun fault h =>
      (failsWith_checkLabel parts).bind fun _ => failsWith_throw h
  · cases files.getLast? with
    | none => exact failsWith_pure _
    | some parts => exact failsWith_checkLabel parts

variable {w w' : World} {fault : Fault} {source : Path}

theorem run_list_eq_error (h : (list source).run.run w = (.error fault, w')) (hown : fault.IsOwn) :
    w = w' ∧ fault = .project (.noAssets source) := by
  rcases run_bind_eq_error_iff.1 h with h | ⟨b, w₁, hask, h⟩
  · rw [run_ask] at h
    exact absurd hown (Site.isForeign_of_holds (congrArg Prod.fst h))
  rw [run_ask] at hask
  obtain rfl : w = w₁ := congrArg Prod.snd hask
  by_cases hb : b = true
  · rw [if_pos hb] at h
    rw [run_ask] at h
    exact absurd hown (isForeign_of_filesIn (congrArg Prod.fst h))
  · rw [if_neg hb] at h
    cases h
    exact ⟨rfl, rfl⟩

/-- Of the faults of the program itself, copying the assets meets one only: that they are missing.
Then it has not begun. -/
theorem run_copy_eq_error {destination : Path}
    (h : (copy source destination).run.run w = (.error fault, w')) (hown : fault.IsOwn) :
    w = w' ∧ fault = .project (.noAssets source) := by
  rcases run_bind_eq_error_iff.1 h with h | ⟨files, w₁, -, h⟩
  · exact run_list_eq_error h hown
  · have hprint : ∀ t, FailsWith Fault.IsForeign (World.print t) := fun _ _ _ _ h => by cases h
    refine absurd hown (FailsWith.bind
      ((failsWith_copyAll source destination files).tryCatch fun fault hfault => ?_)
      (fun _ => (hprint _).bind fun _ => failsWith_pure _) _ _ _ h)
    split
    · exact failsWith_throw hfault
    · exact (hprint _).bind fun _ => failsWith_throw hfault

end Assets

namespace Build

variable {σ : Type} {settings : Settings} {project : Project} {w w' : World} {fault : Fault}

/-- Of the faults of the program itself, only the missing of the assets comes up while a page is
written. Until then there are but new directories. -/
theorem run_writePage_eq_error {page : Text}
    (h : (writePage project page).run.run w = (.error fault, w')) (hown : fault.IsOwn) :
    Opens w w' ∧ fault = .project (.noAssets project.assetsPath) := by
  rcases run_bind_eq_error_iff.1 h with h | ⟨_, w₁, hmade, h⟩
  · exact absurd hown (failsWith_makeDirectories _ _ _ _ h)
  have hopens : Opens w w₁ := within_makeDirectories _ _ _ _ hmade fun _ _ => trivial
  rw [discard_eq_bind, bind_assoc] at h
  rcases run_bind_eq_error_iff.1 h with h | ⟨_, w₂, -, h⟩
  · obtain ⟨rfl, rfl⟩ := Assets.run_copy_eq_error h hown
    exact ⟨hopens, rfl⟩
  · have hrest : FailsWith Fault.IsForeign (do
        World.writeText (project.htmlDirectory.child pageName) page
        return project.htmlDirectory.child pageName) :=
      (failsWith_writeText _ _).bind fun _ => failsWith_pure _
    rw [pure_bind] at h
    exact absurd hown (hrest _ _ _ h)

theorem run_finish_eq_error {format : Format} {page : Text}
    (h : (finish settings project format page).run.run w = (.error fault, w')) (hown : fault.IsOwn)
    (hprint : ∀ e, fault ≠ .print e) :
    Opens w w' ∧ fault = .project (.noAssets project.assetsPath) := by
  rcases run_bind_eq_error_iff.1 h with h | ⟨file, w₁, -, h⟩
  · exact run_writePage_eq_error h hown
  cases format with
  | html => cases h
  | pdf =>
    have hpdf : FailsWith Pdf.IsPrinting (writePdf settings project file) :=
      (Pdf.failsWith_isPrinting (failsWith_makeDirectories _)).bind fun _ =>
        Pdf.failsWith_write _ _ _ _
    rcases run_bind_eq_error_iff.1 h with h | ⟨_, _, -, h⟩
    · rcases hpdf _ _ _ h with ⟨e, he⟩ | hf
      · exact absurd he (hprint e)
      · exact absurd hown hf
    · cases h

/-- The entries of these locations are as before. -/
def Spares (kept : Location → Prop) (w w' : World) : Prop :=
  ∀ l, kept l → w'.files.entryAt l = w.files.entryAt l

theorem spares_refl (kept : Location → Prop) (w : World) : Spares kept w w := fun _ _ => rfl

theorem spares_trans (kept : Location → Prop) (a b c : World) (h : Spares kept a b)
    (h' : Spares kept b c) : Spares kept a c :=
  fun l hl => (h' l hl).trans (h l hl)

/-- A renderer that leaves these locations alone. -/
def Careful (kept : Location → Prop) (render : Text → StateT σ Run Text) : Prop :=
  ∀ source c, Within (Spares kept) (fun _ => True) ((render source).run c)

theorem run_build_eq_error {kept : Location → Prop} {render : Text → StateT σ Run Text}
    (hr : Careful kept render) {format : Text} {c : σ}
    (h : ((build settings render project format).run c).run.run w = (.error fault, w'))
    (hown : fault.IsOwn) (hprint : ∀ e, fault ≠ .print e) :
    ((prepare render project format).run c).run.run w = (.error fault, w') ∧ Spares kept w w' ∨
      fault = .project (.noAssets project.assetsPath) ∧
        ∃ w₁, Spares kept w w₁ ∧ Opens w₁ w' := by
  have hprepare := within_prepare (spares_refl kept) (spares_trans kept) hr project format c
  rcases run_build_eq_error_iff.1 h with h | ⟨format', page, c₁, w₁, hp, h⟩
  · exact .inl ⟨h, hprepare _ _ _ h fun _ _ => trivial⟩
  · obtain ⟨hopens, hfault⟩ := run_finish_eq_error h hown hprint
    exact .inr ⟨hfault, w₁, hprepare _ _ _ hp fun _ he => (by cases he), hopens⟩

end Build

namespace CommandLine

open Drawer

variable {w w' w₁ : World} {fault : Fault}

theorem run_reporting_eq_failure {action : Run Unit} (h : action.run.run w = (.error fault, w₁))
    (hown : fault.IsOwn) :
    ∃ w', (reporting action).run.run w = (.ok .failure, w') ∧ w'.files = w₁.files := by
  obtain ⟨message, hm⟩ := Option.isSome_iff_exists.1 hown.isSome_message?
  have hthrow : action.run.run w = (throw fault : Run Unit).run.run w₁ := h
  refine ⟨Composition.told w₁ message, ?_, rfl⟩
  rw [run_reporting_congr hthrow, Composition.run_reporting_throw, hm]

def rendered (settings : Settings) (diagrams : Bool) (file : Path) : Run Text := do
  compile (if diagrams then some (draw settings) else none) (← composed file)

theorem runRender_eq (settings : Settings) (output : Option Text) (diagrams : Bool) (file : Path) :
    runRender settings output diagrams file =
      reporting (rendered settings diagrams file >>= fun t => emit t output) := by
  rw [rendered, bind_assoc]
  rfl

theorem within_rendered (settings : Settings) (diagrams : Bool) (file : Path) :
    Within Tidy Fault.IsOwn (rendered settings diagrams file) := by
  refine (within_ask tidy_refl _).bind tidy_trans fun markdown => ?_
  cases diagrams with
  | false => exact within_pure tidy_refl _
  | true =>
    have hsim : Diagram.Simulates (m := Run) (n := Id) fun _ x _ => Within Tidy Fault.IsOwn x :=
      ⟨fun a => within_pure tidy_refl a, fun hx hf => hx.bind tidy_trans hf⟩
    exact Diagram.compile_related hsim (draw settings) (fun source => source)
      (within_draw settings .standard) markdown

theorem run_composed_eq_error {file : Path}
    (h : (composed file).run.run w = (.error fault, w')) : w = w' := by
  rw [composed, run_ask] at h
  exact congrArg Prod.snd h

end CommandLine

/-- A build that fails with a fault of the program itself, other than one of printing, has written no
file: where the renderer leaves entries alone, no regular file is new, changed or gone. If the format,
the document, a diagram or the template is at fault, and not the assets, no entry is. A command that
fails to compose a document, or to compile it with a program that draws in place, leaves all entries
of a tree as they were. -/
theorem own_fault_leaves_files :
    (∀ {σ : Type} {kept : Location → Prop} {settings : Settings} {render : Text → StateT σ Run Text}
      {project : Project} {format : Text} {c : σ} {w w' : World} {fault : Fault},
      Build.Careful kept render →
      ((Build.build settings render project format).run c).run.run w = (.error fault, w') →
      fault.IsOwn → (∀ e, fault ≠ .print e) →
      (∀ l, kept l → ∀ content executable, w'.files.entryAt l = some (.file content executable) ↔
        w.files.entryAt l = some (.file content executable)) ∧
      (((Build.prepare render project format).run c).run.run w = (.error fault, w') ∨
          (∀ directory, fault ≠ .project (.noAssets directory)) →
        ∀ l, kept l → w'.files.entryAt l = w.files.entryAt l)) ∧
    (∀ {file : Path} {w w₁ : World} {fault : Fault} (output : Option Text),
      (CommandLine.composed file).run.run w = (.error fault, w₁) → fault.IsOwn →
      ∃ w', (CommandLine.runPreprocess output file).run.run w = (.ok .failure, w') ∧
        w'.files = w.files) ∧
    ∀ {settings : Settings} {diagrams : Bool} {file : Path} {w w₁ : World} {fault : Fault}
      (output : Option Text),
      w.files.IsTree → Drawer.DrawsInPlace w.run →
      (CommandLine.rendered settings diagrams file).run.run w = (.error fault, w₁) → fault.IsOwn →
      ∃ w', (CommandLine.runRender settings output diagrams file).run.run w = (.ok .failure, w') ∧
        ∀ l, w'.files.entryAt l = w.files.entryAt l := by
  refine ⟨?_, ?_, ?_⟩
  · intro σ kept settings render project format c w w' fault hr h hown hprint
    -- Once something is written, only missing assets are a fault of the program itself.
    rcases Build.run_build_eq_error hr h hown hprint with ⟨-, hspares⟩ | ⟨hfault, w₁, hspares, hopens⟩
    · exact ⟨fun l hl _ _ => by rw [hspares l hl], fun _ => hspares⟩
    · refine ⟨fun l hl content executable => ?_, ?_⟩
      · rw [hopens.file_iff l content executable, hspares l hl]
      · rintro (hp | hassets)
        · exact Build.within_prepare (Build.spares_refl kept) (Build.spares_trans kept) hr project
            format c _ _ _ hp fun _ _ => trivial
        · exact absurd hfault (hassets _)
  · intro file w w₁ fault output h hown
    obtain rfl := CommandLine.run_composed_eq_error h
    exact CommandLine.run_reporting_eq_failure (run_bind_of_error h _) hown
  · intro settings diagrams file w w₁ fault output ht hd h hown
    have hsame : Drawer.Unchanged w w₁ :=
      CommandLine.within_rendered _ _ _ _ _ _ h (fun _ he => Except.error.inj he ▸ hown) ht hd
    obtain ⟨w', hrun, hfiles⟩ := CommandLine.run_reporting_eq_failure
      (run_bind_of_error h fun t => CommandLine.emit t output) hown
    rw [CommandLine.runRender_eq]
    exact ⟨w', hrun, fun l => by rw [hfiles, hsame.entryAt_eq]⟩

/-- A document with a diagram, a template, and a program that is to draw, but no assets. -/
def bare : FileSystem :=
  ⟨[([text "a.md"], .file (Text.Utf8.encodeLenient (text "```mermaid\npie\n```")) false),
    ([text "t.html"], .file [] false), ([text "mmdc"], .file [] true)]⟩

def bareProject : Project :=
  ⟨.ofText (text "/"), .ofText (text "/"), .ofText (text "img"), .ofText (text "a.md"),
    .ofText (text "t.html"), .ofText (text "out")⟩

def bareSettings : Settings :=
  ⟨.ofText (text "/c"), .string (text "/mmdc"), .string Settings.transparent, none, .string []⟩

def bareWorld : World := World.still ⟨bare, []⟩

theorem own_fault_leaves_files_bare :
    (∃ w', ((Build.build bareSettings Build.pictureless bareProject (text "html")).run ()).run.run
        bareWorld = (.error (.project (.noAssets (.ofText (text "/img")))), w') ∧
      ∀ l content executable, w'.files.entryAt l = some (.file content executable) ↔
        bare.entryAt l = some (.file content executable)) ∧
    (∃ w', (CommandLine.runPreprocess (some (text "/o")) (.ofText (text "/b.md"))).run.run
      bareWorld = (.ok .failure, w') ∧ w'.files = bare) ∧
    ∃ w', (CommandLine.runRender bareSettings (some (text "/o")) true
        (.ofText (text "/a.md"))).run.run bareWorld = (.ok .failure, w') ∧
      ∀ l, w'.files.entryAt l = bare.entryAt l := by
  obtain ⟨hbuild, hpreprocess, hrender⟩ := own_fault_leaves_files
  refine ⟨?_, ?_, ?_⟩
  · have hcareful : Build.Careful (fun _ => True) Build.pictureless := fun _ _ =>
      within_pure (Build.spares_refl _) _
    obtain ⟨w', hrun⟩ : ∃ w', ((Build.build bareSettings Build.pictureless bareProject
        (text "html")).run ()).run.run bareWorld =
          (.error (.project (.noAssets (.ofText (text "/img")))), w') :=
      exists_run_eq (by decide +kernel)
    exact ⟨w', hrun, fun l => (hbuild hcareful hrun trivial nofun).1 l trivial⟩
  · obtain ⟨w₁, hrun⟩ : ∃ w₁, (CommandLine.composed (.ofText (text "/b.md"))).run.run bareWorld =
        (.error (.unread (.ofText (text "/b.md")) (.system ⟨.noEntry, text "/b.md"⟩)), w₁) :=
      exists_run_eq (by decide +kernel)
    exact hpreprocess _ hrun trivial
  · obtain ⟨w₁, hrun⟩ : ∃ w₁, (CommandLine.rendered bareSettings true
        (.ofText (text "/a.md"))).run.run bareWorld =
          (.error (.diagram (.notStarted ⟨.noEntry, text "/mmdc"⟩)), w₁) :=
      exists_run_eq (by decide +kernel)
    have htree : bare.IsTree := isTree_of_forall (by decide +kernel)
    have hdraws : Drawer.DrawsInPlace bareWorld.run := fun _ _ _ _ _ _ _ _ _ => rfl
    exact hrender _ htree hdraws hrun trivial

end DocPress
