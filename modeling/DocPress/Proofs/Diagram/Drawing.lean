import DocPress.CommandLine
import DocPress.Proofs.Diagram.Finding
import DocPress.Proofs.Diagram.Simulation

namespace DocPress

open World FileSystem

theorem World.run_ending {α : Type} (cleanup : Run Unit) (action : Run α) (w : World) :
    (ending cleanup action).run.run w =
      ((action.run.run w).1, (cleanup.run.run (action.run.run w).2).2) := rfl

namespace Drawer

/-- Programs that draw change nothing outside the directory that they are to leave the picture in. -/
def DrawsInPlace (run : Launch → FileSystem → Outcome × FileSystem) : Prop :=
  ∀ (launch : Launch) (background : Text) (output : Path) (files : FileSystem) (directory : Location),
    launch.arguments = arguments background output →
    files.find launch.here output.parent.toText false = .ok (directory, .directory) →
    ∀ l, (directory <+: l → l = directory) → (run launch files).2.entryAt l = files.entryAt l

/-- All entries are as before, and programs do what they did. -/
structure Unchanged (w w' : World) : Prop where
  entryAt_eq : ∀ l, w'.files.entryAt l = w.files.entryAt l
  run_eq : w'.run = w.run

theorem unchanged_refl (w : World) : Unchanged w w := ⟨fun _ => rfl, rfl⟩

/-- Nothing is left behind in a tree, as long as programs draw in place. -/
def Tidy (w w' : World) : Prop := w.files.IsTree → DrawsInPlace w.run → Unchanged w w'

theorem tidy_refl (w : World) : Tidy w w := fun _ _ => unchanged_refl w

theorem tidy_trans (a b c : World) (h : Tidy a b) (h' : Tidy b c) : Tidy a c := by
  intro ht hd
  obtain ⟨hab, hrun⟩ := h ht hd
  obtain ⟨hbc, hrun'⟩ := h' ((isTree_congr hab).2 ht) (hrun ▸ hd)
  exact ⟨fun l => (hbc l).trans (hab l), hrun'.trans hrun⟩

variable {w w' : World} {directory : Path} {l : Location}

/-- A directory that was just made, with all that a program has since left below it. -/
structure Holds (before : World) (directory : Path) (l : Location) (w : World) : Prop where
  check_eq : Site.check directory.toText = .ok ()
  locate_eq : before.files.locate before.here directory.toText false = .ok l
  isNew : before.files.entryAt l = none
  here_eq : w.here = before.here
  run_eq : w.run = before.run
  isDirectory : w.files.entryAt l = some .directory
  elsewhere : ∀ k, ¬l <+: k → w.files.entryAt k = before.files.entryAt k

theorem Holds.find_eq (h : Holds w directory l w') (ht : w.files.IsTree) :
    w'.files.find w'.here directory.toText false = .ok (l, .directory) := by
  refine find_eq_ok_iff_locate.2 ⟨?_, h.isDirectory⟩
  rw [h.here_eq]
  refine locate_of_added (fun k e hk => ?_) (fun _ target hl => ?_) h.locate_eq
  · have hbelow : ¬l <+: k := by
      intro hp
      by_cases hlk : l = k
      · rw [← hlk, h.isNew] at hk
        cases hk
      · rw [ht.entryAt_below (by simp [h.isNew]) hp hlk] at hk
        cases hk
    rw [h.elsewhere k hbelow, hk]
  · rw [h.isDirectory] at hl
    cases hl

theorem Holds.removeTree (h : Holds w directory l w') (ht : w.files.IsTree) :
    (removeTree directory).run.run w' = (.ok (), { w' with files := w'.files.erase l }) := by
  refine run_change_eq_ok_iff.2 ⟨_, h.check_eq, ?_, rfl⟩
  rw [h.find_eq ht]
  rfl

theorem Holds.unchanged (h : Holds w directory l w') (ht : w.files.IsTree) :
    Unchanged w { w' with files := w'.files.erase l } := by
  refine ⟨fun k => ?_, h.run_eq⟩
  by_cases hk : k = []
  · subst hk
    rfl
  change (w'.files.erase l).entryAt k = _
  rw [entryAt_erase _ _ hk]
  by_cases hp : l <+: k
  · rw [if_pos hp]
    by_cases hlk : l = k
    · rw [← hlk, h.isNew]
    · exact (ht.entryAt_below (by simp [h.isNew]) hp hlk).symm
  · rw [if_neg hp, h.elsewhere k hp]

theorem run_makeTemporary_eq_ok (h : makeTemporary.run.run w = (.ok directory, w')) :
    ∃ l, Holds w directory l w' := by
  obtain ⟨w₀, w₁, hget, h⟩ := run_bind_eq_ok_iff.1 h
  cases hget
  obtain ⟨⟨⟩, w₁, hmake, h⟩ := run_bind_eq_ok_iff.1 h
  cases h
  obtain ⟨files, hc, hmade, rfl⟩ := run_change_eq_ok_iff.1 hmake
  obtain ⟨l, hl, hn, rfl⟩ := makeDirectory_eq_ok_iff.1 hmade
  have hput := entryAt_put w.files (ne_nil_of_none hn) .directory
  refine ⟨l, hc, hl, hn, rfl, rfl, (hput l).trans (if_pos rfl), fun k hk => ?_⟩
  exact (hput k).trans (if_neg fun he : k = l => hk (he ▸ List.prefix_rfl))

theorem run_makeTemporary_eq_error {fault : Fault}
    (h : makeTemporary.run.run w = (.error fault, w')) : w = w' := by
  rcases run_bind_eq_error_iff.1 h with h | ⟨w₀, w₁, hget, h⟩
  · cases h
  cases hget
  rcases run_bind_eq_error_iff.1 h with h | ⟨_, _, -, h⟩
  · exact run_change_eq_error h
  · cases h

/-- A program was run with these arguments, or none. -/
def Launched (arguments : List Text) (w w' : World) : Prop :=
  w = w' ∨ ∃ launch : Launch, launch.arguments = arguments ∧ launch.here = w.here ∧
    w' = { w with files := (w.run launch w.files).2 }

theorem within_launch (program : Text) (arguments : List Text) (input : Bytes)
    (seconds : Option Float) :
    Within (Launched arguments) (fun _ => True)
      (World.launch program arguments input seconds) := by
  intro w r w' h _
  rcases run_launch_cases h with ⟨fault, -, -, rfl⟩ | ⟨-, launch, rfl, -, rfl⟩
  · exact .inl rfl
  · exact .inr ⟨_, rfl, rfl, rfl⟩

theorem still_ask {α : Type} (question : Site → Except Fault α) :
    Within Eq (fun _ => True) (ask question) :=
  within_ask (fun _ => rfl) question

theorem still_throw {α : Type} (fault : Fault) :
    Within Eq (fun _ => True) (throw fault : Run α) :=
  within_throw (fun _ => rfl) fault

theorem within_runProgram (program background source : Text) (seconds : Option Toml.Value)
    (output : Path) :
    Within (Launched (arguments background output)) (fun _ => True)
      (runProgram program background source seconds output) := by
  refine (within_launch _ _ _ _).bind_still fun outcome => ?_
  cases outcome with
  | notStarted => exact still_throw _
  | late =>
    exact (still_ask _).discard.bind_still fun _ => (still_ask _).discard.bind_still fun _ =>
      still_throw _
  | ended status =>
    refine (still_ask _).discard.bind_still fun _ => (still_ask _).discard.bind_still fun _ =>
      (still_ask _).discard.bind_still fun _ => (still_ask _).bind_still fun _ => ?_
    by_cases hs : status ≠ 0
    · rw [if_pos hs]
      exact (still_throw _).bind_still fun _ => still_ask _
    · rw [if_neg hs]
      exact still_ask _

/-- The picture's directory is still there when the program has run, and there alone is anything new. -/
theorem Holds.launched (h : Holds w directory l w') {w'' : World} {background : Text}
    (ht : w.files.IsTree) (hd : DrawsInPlace w.run)
    (hlaunch : Launched (arguments background (directory.child picture)) w' w'') :
    Holds w directory l w'' := by
  rcases hlaunch with rfl | ⟨launch, hargs, hhere, rfl⟩
  · exact h
  have hparent : (directory.child picture).parent = directory := by
    have hparts : (directory.child picture).parts = directory.parts ++ [picture] := rfl
    rw [Path.parent, hparts, List.dropLast_concat]
    rfl
  have hfind := h.find_eq ht
  rw [← hhere, ← hparent] at hfind
  have hsame := hd launch background _ _ _ hargs hfind
  rw [← h.run_eq] at hsame
  exact ⟨h.check_eq, h.locate_eq, h.isNew, h.here_eq, h.run_eq,
    (hsame l fun _ => rfl).trans h.isDirectory,
    fun k hk => (hsame k fun hp => absurd hp hk).trans (h.elsewhere k hk)⟩

theorem Holds.ending (h : Holds w directory l w') {w'' : World} {background : Text}
    (ht : w.files.IsTree) (hd : DrawsInPlace w.run)
    (hlaunch : Launched (arguments background (directory.child picture)) w' w'') :
    Unchanged w ((Drawer.removeTree directory).run.run w'').2 := by
  have hheld : Holds w directory l w'' := h.launched ht hd hlaunch
  rw [hheld.removeTree ht]
  exact hheld.unchanged ht

/-- There are no words for a command where what was found is a number or the background is no text. -/
theorem wordsOf_eq_error {found : Tool.Found} {settings : Settings} {request : Request}
    {fault : Fault} (h : wordsOf found settings request = .error fault) :
    fault = .wrongType ∧
      ((∃ value, found = .number value) ∨ ∀ t, backgroundOf settings request ≠ .ok t) := by
  rcases bind_eq_error_iff.1 h with h | ⟨program, -, h⟩
  · cases found with
    | program path => cases h
    | number value =>
      cases h
      exact ⟨rfl, .inl ⟨value, rfl⟩⟩
  · rcases bind_eq_error_iff.1 h with h | ⟨background, -, h⟩
    · refine ⟨?_, .inr fun t ht => by cases h.symm.trans ht⟩
      unfold backgroundOf at h
      split at h
      · cases h
      · cases h
      · exact (Except.error.inj h).symm
    · cases h

theorem wordsOf_eq_ok {found : Tool.Found} {settings : Settings} {request : Request}
    {program background : Text} (h : wordsOf found settings request = .ok (program, background)) :
    found = .program program ∧ backgroundOf settings request = .ok background := by
  obtain ⟨program', hprogram, h⟩ := bind_eq_ok_iff.1 h
  obtain ⟨background', hbackground, h⟩ := bind_eq_ok_iff.1 h
  cases h
  exact ⟨Tool.Found.word_eq_ok_iff.1 hprogram, hbackground⟩

/-- All that can become of drawing a diagram: it is given up before anything has changed, or with
its directory just made, or the program is run in that directory, which is then removed. -/
inductive Course (settings : Settings) (request : Request) (source : Text) (w : World) :
    Except Fault Text → World → Prop where
  | unsearched {fault : Fault} (hprogram : programOf w settings request = .error fault) :
      Course settings request source w (.error fault) w
  | noTool (hprogram : programOf w settings request = .ok none) :
      Course settings request source w (.error (.diagram .noTool)) w
  | noDirectory {found : Tool.Found} {fault : Fault}
      (hprogram : programOf w settings request = .ok (some found))
      (hmake : makeTemporary.run.run w = (.error fault, w)) :
      Course settings request source w (.error fault) w
  | noWords {found : Tool.Found} {directory : Path} {w₁ : World}
      (hprogram : programOf w settings request = .ok (some found))
      (hmake : makeTemporary.run.run w = (.ok directory, w₁))
      (hwords : (∃ value, found = .number value) ∨ ∀ t, backgroundOf settings request ≠ .ok t) :
      Course settings request source w (.error .wrongType) w₁
  | drawn {program background : Text} {directory : Path} {w₁ w₂ : World} {r : Except Fault Text}
      (hprogram : programOf w settings request = .ok (some (.program program)))
      (hmake : makeTemporary.run.run w = (.ok directory, w₁))
      (hbackground : backgroundOf settings request = .ok background)
      (hrun : (runProgram program background source (request.seconds.or settings.seconds)
        (directory.child picture)).run.run w₁ = (r, w₂)) :
      Course settings request source w r ((removeTree directory).run.run w₂).2

theorem course_of_run {settings : Settings} {request : Request} {source : Text}
    {r : Except Fault Text} (h : (draw settings request source).run.run w = (r, w')) :
    Course settings request source w r w' := by
  unfold draw at h
  rw [run_get_bind] at h
  rcases run_ask_bind_cases h with ⟨fault, hprogram, rfl, rfl⟩ | ⟨found, hprogram, h⟩
  · exact .unsearched hprogram
  cases found with
  | none =>
    cases h
    exact .noTool hprogram
  | some found =>
    rcases run_bind_cases h with ⟨fault, rfl, hmake⟩ | ⟨directory, w₁, hmake, h⟩
    · obtain rfl := run_makeTemporary_eq_error hmake
      exact .noDirectory hprogram hmake
    rcases run_ask_bind_cases h with
      ⟨fault, hwords, rfl, rfl⟩ | ⟨⟨program, background⟩, hwords, hdrawn⟩
    · obtain ⟨rfl, hno⟩ := wordsOf_eq_error hwords
      exact .noWords hprogram hmake hno
    · obtain ⟨rfl, hbackground⟩ := wordsOf_eq_ok hwords
      change (ending _ _).run.run w₁ = (r, w') at hdrawn
      rw [run_ending] at hdrawn
      obtain ⟨hr, rfl⟩ := Prod.mk.inj hdrawn
      exact .drawn hprogram hmake hbackground (Prod.ext hr rfl)

/-- A diagram is drawn, or fails to be for a reason of its own, and nothing of it is left. -/
theorem within_draw (settings : Settings) (request : Request) (source : Text) :
    Within Tidy Fault.IsOwn (draw settings request source) := by
  intro w r w' h htold ht hd
  cases course_of_run h with
  | unsearched => exact unchanged_refl w
  | noTool => exact unchanged_refl w
  | noDirectory => exact unchanged_refl w
  | noWords =>
    -- Only here would the directory be left, but such a fault is no own one.
    exact (htold _ rfl).elim
  | drawn hprogram hmake hbackground hrun =>
    obtain ⟨l, hholds⟩ := run_makeTemporary_eq_ok hmake
    exact hholds.ending ht hd (within_runProgram _ _ _ _ _ _ _ _ hrun fun _ _ => trivial)

end Drawer

end DocPress
