import DocPress.Proofs.Build.Effect
import DocPress.Proofs.Diagram.Verdict

namespace DocPress

open World
open Drawer (IsText)

namespace Pdf

variable {w w' : World} {settings : Settings} {page output : Path} {r : Except Fault Path}

/-- What keeps a browser from being started. -/
inductive Unstarted (settings : Settings) (page output : Path) (w : World) : Fault → Prop where
  | unsearched {fault : Fault} (h : Tool.browser w settings = .error fault) :
      Unstarted settings page output w fault
  | noBrowser (h : Tool.browser w settings = .ok none) :
      Unstarted settings page output w (.print .noBrowser)
  | unresolved {p : Path} {fault : Fault} (hp : p = page ∨ p = output)
      (h : resolved w.toSite p = .error fault) : Unstarted settings page output w fault
  /-- The settings name it by the number of an open file. -/
  | numbered {value : Toml.Value} (hbrowser : Tool.browser w settings = .ok (some (.number value)))
      (hopen : Tool.IsOpenNumber w settings.browser) : Unstarted settings page output w .wrongType
  | refused {program : Text} {page' output' : Path} {fault : Fault}
      (hbrowser : Tool.browser w settings = .ok (some (.program program)))
      (hpage : resolved w.toSite page = .ok page') (houtput : resolved w.toSite output = .ok output')
      (h : (program :: arguments page' output').forM Site.check = .error fault) :
      Unstarted settings page output w fault

/-- The verdict on a run of the browser, by how it ended, what it printed and which files are there
then. -/
inductive Verdict (program : Text) (output : Path) (s : Site) : Outcome → Except Fault Path → Prop where
  | notStarted (e : Errno) :
      Verdict program output s (.notStarted e) (.error (.print (.notStarted program ⟨e, program⟩)))
  | late : Verdict program output s .late (.error (.print (.nothingWritten output)))
  /-- It printed what is no text. -/
  | garbled {status : Int} {written errors : Bytes} (hprinted : ¬(IsText written ∧ IsText errors)) :
      Verdict program output s (.ended status written errors) (.error .notDecodable)
  | exited {status : Int} {written errors : Bytes} {t : Text}
      (hwritten : IsText written) (herrors : Drawer.writtenText errors = .ok t) (hstatus : status ≠ 0) :
      Verdict program output s (.ended status written errors) (.error (.print (.exited status t)))
  | unseen {written errors : Bytes} {fault : Fault} (hprinted : IsText written ∧ IsText errors)
      (hfile : s.isFile output = .error fault) :
      Verdict program output s (.ended 0 written errors) (.error fault)
  | nothingWritten {written errors : Bytes} (hprinted : IsText written ∧ IsText errors)
      (hfile : s.isFile output = .ok false) :
      Verdict program output s (.ended 0 written errors) (.error (.print (.nothingWritten output)))
  | written {written errors : Bytes} (hprinted : IsText written ∧ IsText errors)
      (hfile : s.isFile output = .ok true) :
      Verdict program output s (.ended 0 written errors) (.ok output)

theorem run_writeWith_cases {found : Tool.Found}
    (hbrowser : Tool.browser w settings = .ok (some found))
    (h : (writeWith page output (some found)).run.run w = (r, w')) :
    (∃ fault, Unstarted settings page output w fault ∧ r = .error fault ∧ w' = w) ∨
      ∃ program page' output' launch, Tool.browser w settings = .ok (some (.program program)) ∧
        resolved w.toSite page = .ok page' ∧ resolved w.toSite output = .ok output' ∧
        launch = ⟨program, arguments page' output', [], w.environment, w.here, none⟩ ∧
        w' = { w with files := (w.run launch w.files).2 } ∧
        Verdict program output' w'.toSite (w.run launch w.files).1 r := by
  unfold writeWith at h
  rcases run_ask_bind_cases h with ⟨fault, hpage, rfl, rfl⟩ | ⟨page', hpage, h⟩
  · exact .inl ⟨_, .unresolved (.inl rfl) hpage, rfl, rfl⟩
  rcases run_ask_bind_cases h with ⟨fault, houtput, rfl, rfl⟩ | ⟨output', houtput, h⟩
  · exact .inl ⟨_, .unresolved (.inr rfl) houtput, rfl, rfl⟩
  cases found with
  | number value =>
    cases h
    exact .inl ⟨_, .numbered hbrowser (Tool.isOpenNumber_of_find hbrowser), rfl, rfl⟩
  | program program =>
    rcases run_launch_bind_cases h with ⟨fault, hcheck, rfl, rfl⟩ | ⟨-, launch, w₁, hlaunch, hw, h⟩
    · exact .inl ⟨_, .refused hbrowser hpage houtput hcheck, rfl, rfl⟩
    refine .inr ⟨program, page', output', launch, hbrowser, hpage, houtput, hlaunch, ?_⟩
    rw [← hw]
    generalize (w.run launch w.files).1 = outcome at h ⊢
    -- From here on the world is only looked at.
    cases outcome with
    | notStarted e =>
      cases h
      exact ⟨rfl, .notStarted e⟩
    | late =>
      cases h
      exact ⟨rfl, .late⟩
    | ended status written errors =>
      rcases Drawer.run_printed_bind_cases h with ⟨hno, rfl, rfl⟩ | ⟨t, hwritten, herrors, h⟩
      · exact ⟨rfl, .garbled hno⟩
      by_cases hstatus : status ≠ 0
      · rw [if_pos hstatus] at h
        cases h
        exact ⟨rfl, .exited hwritten herrors hstatus⟩
      rw [if_neg hstatus] at h
      have hprinted := And.intro hwritten (Drawer.writtenText_eq_ok herrors)
      rw [Decidable.not_not.1 hstatus]
      rcases run_ask_bind_cases h with ⟨fault, hfile, rfl, rfl⟩ | ⟨there, hfile, h⟩
      · exact ⟨rfl, .unseen hprinted hfile⟩
      cases there with
      | false =>
        cases h
        exact ⟨rfl, .nothingWritten hprinted hfile⟩
      | true =>
        cases h
        exact ⟨rfl, .written hprinted hfile⟩

theorem run_write_cases (h : (write settings none page output).run.run w = (r, w')) :
    (∃ fault, Unstarted settings page output w fault ∧ r = .error fault ∧ w' = w) ∨
      ∃ program page' output' launch, Tool.browser w settings = .ok (some (.program program)) ∧
        resolved w.toSite page = .ok page' ∧ resolved w.toSite output = .ok output' ∧
        launch = ⟨program, arguments page' output', [], w.environment, w.here, none⟩ ∧
        w' = { w with files := (w.run launch w.files).2 } ∧
        Verdict program output' w'.toSite (w.run launch w.files).1 r := by
  unfold write at h
  rw [run_get_bind] at h
  rcases run_ask_bind_cases h with ⟨fault, hbrowser, rfl, rfl⟩ | ⟨found, hbrowser, h⟩
  · exact .inl ⟨_, .unsearched hbrowser, rfl, rfl⟩
  cases found with
  | none =>
    cases h
    exact .inl ⟨_, .noBrowser hbrowser, rfl, rfl⟩
  | some found => exact run_writeWith_cases hbrowser h

/-- A run has left a file where a path leads, and it is not the one that was there. -/
def Wrote (before after : Site) (output : Path) : Prop :=
  ∃ l e, Site.isRegular e = true ∧
    after.files.find after.here output.toText true = .ok (l, e) ∧
    before.files.find before.here output.toText true ≠ .ok (l, e)

/-- The verdict, said of what is returned: the path of the PDF if and only if the browser ended well,
all that it printed is text, and a file is there. It is one that the browser has written, unless one
was there before. -/
structure Reported (output : Path) (before after : Site) (outcome : Outcome)
    (r : Except Fault Path) : Prop where
  isOk_iff : ∀ p, r = .ok p ↔ p = output ∧
    (∃ written errors, outcome = .ended 0 written errors ∧ IsText written ∧ IsText errors) ∧
    after.isFile output = .ok true
  wrote : ∀ p, r = .ok p → before.isFile output ≠ .ok true → Wrote before after output
  nothingWritten : ∀ written errors, outcome = .ended 0 written errors → IsText written →
    IsText errors → after.isFile output = .ok false → r = .error (.print (.nothingWritten output))
  isPrint : ∀ fault, r = .error fault → (∃ cause, fault = .print cause) ∨
    fault = .system ⟨.nameTooLong, output.toText⟩ ∨
    ∃ status written errors, outcome = .ended status written errors ∧
      ¬(IsText written ∧ IsText errors)

theorem wrote_of_isFile {before after : Site} (hbefore : before.isFile output ≠ .ok true)
    (hafter : after.isFile output = .ok true) : Wrote before after output := by
  obtain ⟨hcheck, l, e, hfind, he⟩ := Site.isFile_eq_true_iff.1 hafter
  exact ⟨l, e, he, hfind, fun h => hbefore (Site.isFile_eq_true_iff.2 ⟨hcheck, l, e, h, he⟩)⟩

section Reported

variable {program : Text} {before after : Site} {outcome : Outcome}

theorem reported_of_error {fault : Fault}
    (hfile : ∀ written errors, outcome = .ended 0 written errors → IsText written → IsText errors →
      after.isFile output ≠ .ok true ∧
        (after.isFile output = .ok false → fault = .print (.nothingWritten output)))
    (hfault : (∃ cause, fault = .print cause) ∨ fault = .system ⟨.nameTooLong, output.toText⟩ ∨
      ∃ status written errors, outcome = .ended status written errors ∧
        ¬(IsText written ∧ IsText errors)) :
    Reported output before after outcome (.error fault) := by
  refine ⟨fun p => iff_of_false nofun ?_, nofun, fun written errors he hw hr hnone => ?_,
    fun fault' he => Except.error.inj he ▸ hfault⟩
  · rintro ⟨-, ⟨written, errors, he, hw, hr⟩, hthere⟩
    exact (hfile written errors he hw hr).1 hthere
  · rw [(hfile written errors he hw hr).2 hnone]

theorem Verdict.reported (h : Verdict program output after outcome r) :
    Reported output before after outcome r := by
  cases h with
  | notStarted e => exact reported_of_error nofun (.inl ⟨_, rfl⟩)
  | late => exact reported_of_error nofun (.inl ⟨_, rfl⟩)
  | garbled hno =>
    refine reported_of_error (fun _ _ he hw hr => ?_) (.inr (.inr ⟨_, _, _, rfl, hno⟩))
    cases he
    exact absurd ⟨hw, hr⟩ hno
  | exited _ _ hstatus =>
    refine reported_of_error (fun _ _ he _ _ => ?_) (.inl ⟨_, rfl⟩)
    cases he
    exact absurd rfl hstatus
  | unseen _ hunseen =>
    refine reported_of_error (fun _ _ _ _ _ => ?_) (.inr (.inl (Site.isFile_eq_error hunseen)))
    rw [hunseen]
    exact ⟨nofun, nofun⟩
  | nothingWritten _ hnone =>
    refine reported_of_error (fun _ _ _ _ _ => ⟨?_, fun _ => rfl⟩) (.inl ⟨_, rfl⟩)
    rw [hnone]
    nofun
  | written hprinted hthere =>
    refine ⟨fun p => ⟨fun hp => ?_, ?_⟩, fun _ _ hold => wrote_of_isFile hold hthere,
      fun _ _ _ _ _ hnone => ?_, nofun⟩
    · exact ⟨(Except.ok.inj hp).symm, ⟨_, _, rfl, hprinted⟩, hthere⟩
    · rintro ⟨rfl, -⟩
      rfl
    · rw [hthere] at hnone
      cases hnone

end Reported

end Pdf

namespace Build

variable {σ : Type} {settings : Settings} {render : Text → StateT σ Run Text} {project : Project}
  {c : σ} {w w' : World}

theorem run_build_pdf_eq_error {fault : Fault}
    (h : ((beforePrinting render project).run c).run.run w = (.error fault, w')) :
    ((build settings render project (text "pdf")).run c).run.run w = (.error fault, w') := by
  unfold beforePrinting at h
  simp only [StateT.run_bind] at h
  rw [run_build_eq_error_iff]
  rcases run_bind_eq_error_iff.1 h with hprepare | ⟨⟨⟨format, page⟩, c₁⟩, w₁, hprepare, h⟩
  · exact .inl hprepare
  obtain rfl : Format.pdf = format := Option.some.inj (run_prepare_eq_ok hprepare).1
  refine .inr ⟨_, page, c₁, w₁, hprepare, ?_⟩
  rcases run_bind_eq_error_iff.1 (run_liftM_eq_error_iff.1 h) with hwrite | ⟨file, w₂, hwrite, h⟩
  · rw [finish, run_bind_of_error hwrite]
  rw [finish, run_bind_of_ok hwrite]
  rcases run_bind_eq_error_iff.1 h with hmake | ⟨_, _, _, h⟩
  · exact run_bind_of_error (run_bind_of_error hmake _) _
  · cases h

/-- How a build with a PDF ends, by what keeps the browser from being started, or by its run. -/
inductive Reporting (settings : Settings) (render : Text → StateT σ Run Text) (project : Project)
    (c : σ) (w : World) : Except Fault (Product × σ) → World → Prop where
  | unready {fault : Fault} {w' : World}
      (hbefore : ((beforePrinting render project).run c).run.run w = (.error fault, w')) :
      Reporting settings render project c w (.error fault) w'
  | unstarted {file : Path} {c' : σ} {before : World} {fault : Fault}
      (hbefore : ((beforePrinting render project).run c).run.run w = (.ok (file, c'), before))
      (hunstarted : Pdf.Unstarted settings file (project.pdfDirectory.child pdfName) before fault) :
      Reporting settings render project c w (.error fault) before
  | started {file page output : Path} {c' : σ} {before : World} {program : Text} {launch : Launch}
      {pdf : Except Fault Path}
      (hbefore : ((beforePrinting render project).run c).run.run w = (.ok (file, c'), before))
      (hbrowser : Tool.browser before settings = .ok (some (.program program)))
      (hpage : Pdf.resolved before.toSite file = .ok page)
      (houtput : Pdf.resolved before.toSite (project.pdfDirectory.child pdfName) = .ok output)
      (hlaunch : launch = ⟨program, Pdf.arguments page output, [], before.environment, before.here,
        none⟩)
      (hreported : Pdf.Reported output before.toSite ⟨(before.run launch before.files).2, before.here⟩
        (before.run launch before.files).1 pdf) :
      Reporting settings render project c w (pdf.map fun pdf => (⟨file, some pdf⟩, c'))
        { before with files := (before.run launch before.files).2 }

/-- A build with a PDF ends as the run of its browser was judged, or with what kept that from being
started. -/
theorem build_reporting {r : Except Fault (Product × σ)}
    (h : ((build settings render project (text "pdf")).run c).run.run w = (r, w')) :
    Reporting settings render project c w r w' := by
  obtain ⟨before?, before, hbefore⟩ : ∃ r₁ w₁,
    ((beforePrinting render project).run c).run.run w = (r₁, w₁) := ⟨_, _, rfl⟩
  cases before? with
  | error fault =>
    obtain ⟨rfl, rfl⟩ := Prod.mk.inj ((run_build_pdf_eq_error hbefore).symm.trans h)
    exact .unready hbefore
  | ok found =>
    obtain ⟨file, c'⟩ := found
    obtain ⟨pdf, after, hprint⟩ : ∃ pdf after, (Pdf.write settings none file
      (project.pdfDirectory.child pdfName)).run.run before = (pdf, after) := ⟨_, _, rfl⟩
    obtain ⟨rfl, rfl⟩ := Prod.mk.inj ((run_build_pdf hbefore hprint).symm.trans h)
    rcases Pdf.run_write_cases hprint with ⟨fault, hunstarted, rfl, rfl⟩ |
      ⟨program, page, output, launch, hbrowser, hpage, houtput, hlaunch, rfl, hverdict⟩
    · exact .unstarted hbefore hunstarted
    · exact .started hbefore hbrowser hpage houtput hlaunch hverdict.reported

section Press

deriving instance DecidableEq for Product

/-- The manual beside a browser, which ends well once it has changed the files as it does. -/
def press (more : List (Location × Entry)) (change : FileSystem → FileSystem) : World where
  files := manual ([([text "chromium"], .file [] true)] ++ more)
  here := []
  environment := [(text "THENER_BROWSER", text "/chromium")]
  temporary := .ofText (text "/tmp")
  printed := []
  run _ files := (.ended 0 [] [], change files)

def printSomething (files : FileSystem) : FileSystem :=
  (files.write [] (text "/build/pdf/index.pdf") []).toOption.getD files

def pressProduct : Product :=
  ⟨.ofText (text "/build/html/index.html"), some (.ofText (text "/build/pdf/index.pdf"))⟩

theorem build_reporting_press :
    ∃ w', ((build manualSettings pictureless manualProject (text "pdf")).run ()).run.run
        (press [] printSomething) = (.ok (pressProduct, ()), w') ∧
      Reporting manualSettings pictureless manualProject () (press [] printSomething)
        (.ok (pressProduct, ())) w' := by
  obtain ⟨w', hrun⟩ : ∃ w', ((build manualSettings pictureless manualProject
      (text "pdf")).run ()).run.run (press [] printSomething) = (.ok (pressProduct, ()), w') :=
    exists_run_eq (by decide +kernel)
  exact ⟨w', hrun, build_reporting hrun⟩

def leftover : List (Location × Entry) :=
  [([text "build"], .directory), ([text "build", text "pdf"], .directory),
    ([text "build", text "pdf", text "index.pdf"],
      .file (Text.Utf8.encodeLenient (text "old")) false)]

/-- A browser that does nothing makes the first build fail, and a rebuild report the file that is
still there. -/
theorem build_reporting_leftover :
    (∀ launch files, (press leftover id).run launch files = (.ended 0 [] [], files)) ∧
      (((build manualSettings pictureless manualProject (text "pdf")).run ()).run.run
        (press [] id)).1 =
          .error (.print (.nothingWritten (.ofText (text "/build/pdf/index.pdf")))) ∧
      (((build manualSettings pictureless manualProject (text "pdf")).run ()).run.run
        (press leftover id)).1 = .ok (pressProduct, ()) ∧
      (((build manualSettings pictureless manualProject (text "pdf")).run ()).run.run
        (press leftover id)).2.files.entryAt [text "build", text "pdf", text "index.pdf"] =
          some (.file (Text.Utf8.encodeLenient (text "old")) false) :=
  ⟨fun _ _ => rfl, by decide +kernel, by decide +kernel, by decide +kernel⟩

end Press

end Build

end DocPress
