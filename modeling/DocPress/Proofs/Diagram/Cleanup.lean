import DocPress.Proofs.Diagram.Drawing
import DocPress.Proofs.FileSystem.Removal

namespace DocPress.Drawer

open World FileSystem

variable {w w' : World} {directory : Path} {settings : Settings} {request : Request} {source : Text}
  {r : Except Fault Text}

/-- The directory that a path leads to, if there is one, is gone with all in it, and nothing else is.
-/
structure TakesAway (here : Location) (path : Text) (before after : FileSystem) : Prop where
  gone : ∀ l, after.find here path false ≠ .ok (l, .directory)
  entryAt_eq : ∀ k, after.entryAt k = before.entryAt k ∨
    ∃ l, before.find here path false = .ok (l, .directory) ∧ l <+: k ∧ after.entryAt k = none

theorem takesAway_removeTree (hcheck : Site.check directory.toText = .ok ())
    (hroot : ∀ l, w.files.find w.here directory.toText false = .ok (l, .directory) → l ≠ []) :
    TakesAway w.here directory.toText w.files ((removeTree directory).run.run w).2.files := by
  obtain ⟨r, w', hrun⟩ : ∃ r w', (removeTree directory).run.run w = (r, w') := ⟨_, _, rfl⟩
  rw [hrun]
  cases r with
  | ok =>
    obtain ⟨files, -, hcall, rfl⟩ := run_change_eq_ok_iff.1 hrun
    obtain ⟨⟨l, e⟩, hfind, herase⟩ := bind_eq_ok_iff.1 hcall
    cases e with
    | directory =>
      cases herase
      refine ⟨fun k => find_erase (hroot l hfind) hfind _, fun k => ?_⟩
      by_cases hk : k = []
      · exact .inl (by rw [hk]; rfl)
      change (w.files.erase l).entryAt k = _ ∨ _
      rw [entryAt_erase _ _ hk]
      by_cases hp : l <+: k
      · exact .inr ⟨l, hfind, hp, if_pos hp⟩
      · exact .inl (if_neg hp)
    | file => cases herase
    | link => cases herase
    | sink => cases herase
  | error fault =>
    obtain rfl := run_change_eq_error hrun
    refine ⟨fun l hfind => ?_, fun k => .inl rfl⟩
    have hremoved : (removeTree directory).run.run w =
        (.ok (), { w with files := w.files.erase l }) :=
      run_change_eq_ok_iff.2 ⟨_, hcheck, by rw [hfind]; rfl, rfl⟩
    rw [hrun] at hremoved
    cases hremoved

theorem Launched.here_eq {arguments : List Text} (h : Launched arguments w w') : w'.here = w.here := by
  rcases h with rfl | ⟨launch, -, -, rfl⟩
  · rfl
  · rfl

/-- What a call that draws has left when it returns or fails. -/
inductive CleanedUp (settings : Settings) (request : Request) (w : World) :
    Except Fault Text → World → Prop where
  /-- No directory was made. -/
  | untouched (r : Except Fault Text) : CleanedUp settings request w r w
  /-- What was found is the number of an open file, or the background is no text: the directory is
  left. -/
  | left {found : Tool.Found} {directory : Path} {l : Location} {w₁ : World}
      (hprogram : programOf w settings request = .ok (some found))
      (hmake : makeTemporary.run.run w = (.ok directory, w₁)) (hholds : Holds w directory l w₁)
      (hwords : (∃ value, found = .number value) ∨ ∀ t, backgroundOf settings request ≠ .ok t) :
      CleanedUp settings request w (.error .wrongType) w₁
  /-- All that the program leaves is kept, but for what is where the directory was made. -/
  | removed {program background : Text} {directory : Path} {l : Location} {w₁ w₂ w' : World}
      {r : Except Fault Text}
      (hprogram : programOf w settings request = .ok (some (.program program)))
      (hmake : makeTemporary.run.run w = (.ok directory, w₁)) (hholds : Holds w directory l w₁)
      (hbackground : backgroundOf settings request = .ok background)
      (hlaunch : Launched (arguments background (directory.child picture)) w₁ w₂)
      (hgone : TakesAway w.here directory.toText w₂.files w'.files)
      (htidy : w.files.IsTree → DrawsInPlace w.run → Unchanged w w') :
      CleanedUp settings request w r w'

/-- The directory made for a picture is gone in the end with all in it, but where there were no words for
a command. -/
theorem draw_cleanup (hopen : w.files.Open w.here)
    (h : (draw settings request source).run.run w = (r, w')) :
    CleanedUp settings request w r w' := by
  cases course_of_run h with
  | unsearched => exact .untouched _
  | noTool => exact .untouched _
  | noDirectory => exact .untouched _
  | noWords hprogram hmake hwords =>
    obtain ⟨l, hholds⟩ := run_makeTemporary_eq_ok hmake
    exact .left hprogram hmake hholds hwords
  | drawn hprogram hmake hbackground hrun =>
    obtain ⟨l, hholds⟩ := run_makeTemporary_eq_ok hmake
    have hlaunch := within_runProgram _ _ _ _ _ _ _ _ hrun fun _ _ => trivial
    have hhere := hlaunch.here_eq.trans hholds.here_eq
    refine .removed hprogram hmake hholds hbackground hlaunch ?_ fun ht hd => hholds.ending ht hd hlaunch
    rw [← hhere]
    refine takesAway_removeTree hholds.check_eq fun k hfind => ?_
    exact ne_nil_of_locate hopen hholds.isNew hholds.locate_eq (find_eq_ok_iff_locate.1 hfind).1

/-- A place for temporary directories, a program, and settings with a background that is a number. -/
def workshopFiles : FileSystem :=
  ⟨[([text "tmp"], .directory), ([text "mmdc"], .file [] true),
    ([text "config.toml"],
      .file (Text.Utf8.encodeLenient (text "[renderer]\nbackground_color = 1\n")) false)]⟩

def leavePicture (launch : Launch) (files : FileSystem) : FileSystem :=
  (files.write launch.here (text "/tmp/thener_mmd_00000000/graph.svg")
    (Text.Utf8.encodeLenient (text "<svg/>"))).toOption.getD files

def workshop (outcome : Outcome) : World where
  files := workshopFiles
  here := []
  environment := [(text "THENER_HOME", text "/"), (text "MMDC_PATH", text "/mmdc")]
  temporary := .ofText (text "/tmp")
  printed := []
  run launch files := (outcome, leavePicture launch files)

def workshopSettings : Settings where
  file := .ofText (text "/config.toml")
  drawer := .string []
  background := .string Settings.transparent
  seconds := none
  browser := .string []

theorem draw_cleanup_workshop :
    workshopFiles.Open (workshop (.ended 3 [] [])).here ∧
      ∃ w', (draw workshopSettings .standard (text "pie")).run.run (workshop (.ended 3 [] [])) =
          (.error (.diagram (.exited 3 [])), w') ∧
        CleanedUp workshopSettings .standard (workshop (.ended 3 [] []))
          (.error (.diagram (.exited 3 []))) w' ∧
        w'.files.entries = workshopFiles.entries := by
  have hr : ((draw workshopSettings .standard (text "pie")).run.run
      (workshop (.ended 3 [] []))).1 = .error (.diagram (.exited 3 [])) := by decide +kernel
  exact ⟨open_nil, _, Prod.ext hr rfl, draw_cleanup open_nil (Prod.ext hr rfl), by decide +kernel⟩

def drawConfigured : Run Text := do
  draw (← Settings.read) .standard (text "pie")

/-- Settings that load leave the directory behind when their background is no text. -/
theorem draw_cleanup_left :
    (Settings.read.run.run (workshop .late)).1.toOption.isSome = true ∧
      workshopFiles.entryAt [text "tmp", text "thener_mmd_00000000"] = none ∧
      (drawConfigured.run.run (workshop .late)).1 = .error .wrongType ∧
      (drawConfigured.run.run (workshop .late)).2.files.entryAt
        [text "tmp", text "thener_mmd_00000000"] = some .directory := by
  refine ⟨?_, ?_, ?_, ?_⟩ <;> decide +kernel

def numberedSettings : Settings := { workshopSettings with drawer := .int 1 }

def numberedWorkshop : World := { workshop .late with openFiles := [1] }

/-- So does the number of an open file in the place of the program. -/
example :
    ((draw numberedSettings .standard (text "pie")).run.run numberedWorkshop).1 = .error .wrongType ∧
      ((draw numberedSettings .standard (text "pie")).run.run numberedWorkshop).2.files.entryAt
        [text "tmp", text "thener_mmd_00000000"] = some .directory := by
  decide +kernel

end DocPress.Drawer
