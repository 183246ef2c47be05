import DocPress.Proofs.Diagram.Cleanup
import DocPress.Proofs.FileSystem.Reading

namespace DocPress.Drawer

open World

variable {w w' : World} {settings : Settings} {request : Request} {source program : Text}
  {seconds : Option Toml.Value} {output : Path} {r : Except Fault Text}

/-- Bytes that can be read as a text. -/
def IsText (bytes : Bytes) : Prop := ∃ t, Text.Utf8.decode bytes = .ok t

theorem writtenText_eq_ok {bytes : Bytes} {t : Text} (h : writtenText bytes = .ok t) :
    IsText bytes := by
  unfold writtenText at h
  split at h
  · exact ⟨_, ‹_›⟩
  · cases h

theorem writtenText_eq_error {bytes : Bytes} {fault : Fault}
    (h : writtenText bytes = .error fault) : fault = .notDecodable ∧ ¬IsText bytes := by
  unfold writtenText at h
  split at h
  · cases h
  · rename_i found hfound
    refine ⟨(Except.error.inj h).symm, fun ⟨t, ht⟩ => ?_⟩
    rw [hfound] at ht
    cases ht

/-- What was printed is taken as text before anything else is made of it. -/
theorem run_printed_bind_cases {α : Type} {written errors : Bytes} {f : Text → Run α}
    {r : Except Fault α} (h : (do
      discard (World.ask fun _ => writtenText written)
      let errors ← World.ask fun _ => writtenText errors
      f errors : Run α).run.run w = (r, w')) :
    (¬(IsText written ∧ IsText errors) ∧ r = .error .notDecodable ∧ w' = w) ∨
      ∃ t, IsText written ∧ writtenText errors = .ok t ∧ (f t).run.run w = (r, w') := by
  rcases run_discard_ask_bind_cases h with ⟨fault, hwritten, rfl, rfl⟩ | ⟨_, hwritten, h⟩
  · obtain ⟨rfl, hno⟩ := writtenText_eq_error hwritten
    exact .inl ⟨fun hprinted => hno hprinted.1, rfl, rfl⟩
  rcases run_ask_bind_cases h with ⟨fault, herrors, rfl, rfl⟩ | ⟨t, herrors, h⟩
  · obtain ⟨rfl, hno⟩ := writtenText_eq_error herrors
    exact .inl ⟨fun hprinted => hno hprinted.2, rfl, rfl⟩
  · exact .inr ⟨t, writtenText_eq_ok hwritten, herrors, h⟩

/-- The verdict on a run of the program, by how the run ended, what it printed and which files it
left. -/
inductive Verdict (program : Text) (seconds : Option Toml.Value) (output : Path) (s : Site) :
    Outcome → Except Fault Text → Prop where
  | notStarted (e : Errno) :
      Verdict program seconds output s (.notStarted e) (.error (.diagram (.notStarted ⟨e, program⟩)))
  /-- The time that it may take is no such time, which shows only when it has started. -/
  | noLimit {outcome : Outcome} {fault : Fault} (hstarted : ∀ e, outcome ≠ .notStarted e)
      (hlimit : seconds.mapM limit = .error fault) :
      Verdict program seconds output s outcome (.error fault)
  | late {limited : Option Float} (hlimit : seconds.mapM limit = .ok limited) :
      Verdict program seconds output s .late
        (.error (.diagram (.late ((seconds.map Toml.Value.shown).getD []))))
  /-- It printed what is no text. -/
  | garbled {limited : Option Float} {status : Int} {written errors : Bytes}
      (hlimit : seconds.mapM limit = .ok limited) (hprinted : ¬(IsText written ∧ IsText errors)) :
      Verdict program seconds output s (.ended status written errors) (.error .notDecodable)
  | exited {limited : Option Float} {status : Int} {written errors : Bytes} {t : Text}
      (hlimit : seconds.mapM limit = .ok limited) (hwritten : IsText written)
      (herrors : writtenText errors = .ok t) (hstatus : status ≠ 0) :
      Verdict program seconds output s (.ended status written errors)
        (.error (.diagram (.exited status t)))
  | noPicture {limited : Option Float} {written errors : Bytes} {reason : Unread}
      (hlimit : seconds.mapM limit = .ok limited) (hprinted : IsText written ∧ IsText errors)
      (hread : s.readText output = .error (.unread output reason)) :
      Verdict program seconds output s (.ended 0 written errors)
        (.error (.diagram (.noPicture reason)))
  | drawn {limited : Option Float} {written errors : Bytes} {t : Text}
      (hlimit : seconds.mapM limit = .ok limited) (hprinted : IsText written ∧ IsText errors)
      (hread : s.readText output = .ok t) :
      Verdict program seconds output s (.ended 0 written errors) (.ok t)

theorem readPicture_cases (s : Site) (hcheck : Site.check output.toText = .ok ()) :
    (∃ t, s.readText output = .ok t ∧ readPicture s output = .ok t) ∨
      ∃ reason, s.readText output = .error (.unread output reason) ∧
        readPicture s output = .error (.diagram (.noPicture reason)) := by
  cases hread : s.readText output with
  | ok t => exact .inl ⟨t, rfl, by rw [readPicture, hread]⟩
  | error fault =>
    obtain ⟨reason, rfl⟩ := Site.exists_unread_of_readText hcheck hread
    exact .inr ⟨reason, rfl, by rw [readPicture, hread]⟩

theorem check_of_forM {path : Text} {paths : List Text} (h : paths.forM Site.check = .ok ())
    (hp : path ∈ paths) : Site.check path = .ok () := by
  induction paths with
  | nil => cases hp
  | cons first rest ih =>
    obtain ⟨⟨⟩, hfirst, hrest⟩ := bind_eq_ok_iff.1 h
    rcases List.mem_cons.1 hp with rfl | hp
    · exact hfirst
    · exact ih hrest hp

/-- The program is refused for what the system does not take, or it is run and judged. -/
theorem verdict_of_run {background : Text} (hsource : source.isUnicode = true)
    (h : (runProgram program background source seconds output).run.run w = (r, w')) :
    (∃ fault, (program :: arguments background output).forM Site.check = .error fault ∧
        r = .error fault ∧ w' = w) ∨
      ∃ bytes launch, Text.Utf8.encode? source = some bytes ∧
        launch = ⟨program, arguments background output, bytes, w.environment, w.here,
          (seconds.mapM limit).toOption.join⟩ ∧
        w' = { w with files := (w.run launch w.files).2 } ∧
        Verdict program seconds output w'.toSite (w.run launch w.files).1 r := by
  obtain ⟨bytes, hbytes⟩ : ∃ bytes, Text.Utf8.encode? source = some bytes :=
    ⟨_, if_pos hsource⟩
  have hinput : sourceBytes source = .ok bytes := by rw [sourceBytes, hbytes]
  unfold runProgram at h
  rw [hinput] at h
  rcases run_launch_bind_cases h with ⟨fault, hcheck, rfl, rfl⟩ |
    ⟨hcheck, launch, w₁, hlaunch, hw, h⟩
  · exact .inl ⟨_, hcheck, rfl, rfl⟩
  have hpath : Site.check output.toText = .ok () :=
    check_of_forM hcheck (by simp [arguments])
  refine .inr ⟨bytes, launch, hbytes, hlaunch, ?_⟩
  rw [← hw]
  generalize (w.run launch w.files).1 = outcome at h ⊢
  -- From here on the world is only looked at.
  cases outcome with
  | notStarted e =>
    cases h
    exact ⟨rfl, .notStarted e⟩
  | late =>
    rcases run_discard_ask_bind_cases h with ⟨fault, hlimit, rfl, rfl⟩ | ⟨limited, hlimit, h⟩
    · exact ⟨rfl, .noLimit nofun hlimit⟩
    rcases run_discard_ask_bind_cases h with ⟨_, hbad, -, -⟩ | ⟨_, -, h⟩
    · cases hbad
    cases h
    exact ⟨rfl, .late hlimit⟩
  | ended status written errors =>
    rcases run_discard_ask_bind_cases h with ⟨fault, hlimit, rfl, rfl⟩ | ⟨limited, hlimit, h⟩
    · exact ⟨rfl, .noLimit nofun hlimit⟩
    rcases run_discard_ask_bind_cases h with ⟨_, hbad, -, -⟩ | ⟨_, -, h⟩
    · cases hbad
    rcases run_printed_bind_cases h with ⟨hno, rfl, rfl⟩ | ⟨t, hwritten, herrors, h⟩
    · exact ⟨rfl, .garbled hlimit hno⟩
    have hprinted := And.intro hwritten (writtenText_eq_ok herrors)
    by_cases hstatus : status ≠ 0
    · rw [if_pos hstatus] at h
      cases h
      exact ⟨rfl, .exited hlimit hprinted.1 herrors hstatus⟩
    · rw [if_neg hstatus, run_ask] at h
      obtain ⟨hr, rfl⟩ := Prod.mk.inj h
      rw [← hr, Decidable.not_not.1 hstatus]
      rcases readPicture_cases w₁.toSite hpath with ⟨t, hread, hpicture⟩ | ⟨reason, hread, hpicture⟩
      · rw [hpicture]
        exact ⟨rfl, .drawn hlimit hprinted hread⟩
      · rw [hpicture]
        exact ⟨rfl, .noPicture hlimit hprinted hread⟩

/-- The program ended in time and well, all that it printed is text, and so is the picture. -/
structure Succeeds (seconds : Option Toml.Value) (output : Path) (s : Site) (outcome : Outcome)
    (t : Text) : Prop where
  hasLimit : ∃ limited, seconds.mapM limit = .ok limited
  ended : ∃ written errors, outcome = .ended 0 written errors ∧ IsText written ∧ IsText errors
  picture : ∃ content decoded, s.readBytes output.toText = .ok content ∧
    Text.Utf8.decode content = .ok decoded ∧ t = Text.unifyNewlines decoded

/-- The verdict, said of what is returned: the text of the picture if all went well, else a fault of
the diagram's own, but for two that are not. -/
structure Judged (seconds : Option Toml.Value) (output : Path) (s : Site) (outcome : Outcome)
    (r : Except Fault Text) : Prop where
  isOk_iff : ∀ t, r = .ok t ↔ Succeeds seconds output s outcome t
  noLimit : ∀ fault, seconds.mapM limit = .error fault → (∀ e, outcome ≠ .notStarted e) →
    r = .error fault
  garbled : ∀ limited status written errors, seconds.mapM limit = .ok limited →
    outcome = .ended status written errors → ¬(IsText written ∧ IsText errors) →
    r = .error .notDecodable
  isDiagram : ∀ fault, r = .error fault → (∃ cause, fault = .diagram cause) ∨
    seconds.mapM limit = .error fault ∨
    ∃ status written errors, outcome = .ended status written errors ∧
      ¬(IsText written ∧ IsText errors)

section Judged

variable {s : Site} {outcome : Outcome}

theorem judged_of_diagram {cause : DiagramFault} (hno : ∀ t, ¬Succeeds seconds output s outcome t)
    (hlimit : (∀ e, outcome ≠ .notStarted e) → ∃ limited, seconds.mapM limit = .ok limited)
    (hprinted : ∀ status written errors, outcome = .ended status written errors →
      IsText written ∧ IsText errors) :
    Judged seconds output s outcome (.error (.diagram cause)) := by
  refine ⟨fun t => iff_of_false nofun (hno t), fun fault hfault hstarted => ?_,
    fun _ status written errors _ houtcome hnot => absurd (hprinted _ _ _ houtcome) hnot,
    fun fault hfault => .inl ⟨cause, (Except.error.inj hfault).symm⟩⟩
  obtain ⟨limited, hok⟩ := hlimit hstarted
  rw [hok] at hfault
  cases hfault

theorem not_succeeds_of_ne (h : ∀ written errors, outcome ≠ .ended 0 written errors) (t : Text) :
    ¬Succeeds seconds output s outcome t := by
  intro hs
  obtain ⟨written, errors, houtcome, -⟩ := hs.ended
  exact h written errors houtcome

theorem judged_of_noLimit {fault : Fault} (hlimit : seconds.mapM limit = .error fault) :
    Judged seconds output s outcome (.error fault) := by
  have hno : ∀ limited, seconds.mapM limit ≠ .ok limited := by
    intro limited hok
    rw [hlimit] at hok
    cases hok
  refine ⟨fun t => iff_of_false nofun fun hs => ?_, fun fault' hfault _ => ?_,
    fun limited _ _ _ hok => absurd hok (hno limited),
    fun fault' hfault => .inr (.inl (hlimit.trans (congrArg _ (Except.error.inj hfault))))⟩
  · obtain ⟨limited, hok⟩ := hs.hasLimit
    exact hno limited hok
  · exact congrArg _ (Except.error.inj (hlimit.symm.trans hfault))

theorem Verdict.judged (h : Verdict program seconds output s outcome r) :
    Judged seconds output s outcome r := by
  cases h with
  | notStarted e =>
    exact judged_of_diagram (not_succeeds_of_ne nofun) (fun hstarted => absurd rfl (hstarted e)) nofun
  | noLimit _ hlimit => exact judged_of_noLimit hlimit
  | late hlimit => exact judged_of_diagram (not_succeeds_of_ne nofun) (fun _ => ⟨_, hlimit⟩) nofun
  | garbled hlimit hprinted =>
    refine ⟨fun t => iff_of_false nofun fun hs => ?_, fun fault hfault => ?_,
      fun _ _ _ _ _ _ _ => rfl, fun fault _ => .inr (.inr ⟨_, _, _, rfl, hprinted⟩)⟩
    · obtain ⟨_, _, houtcome, htexts⟩ := hs.ended
      cases houtcome
      exact hprinted htexts
    · rw [hlimit] at hfault
      cases hfault
  | exited hlimit hwritten herrors hstatus =>
    refine judged_of_diagram (not_succeeds_of_ne fun _ _ he => ?_) (fun _ => ⟨_, hlimit⟩)
      fun _ _ _ he => ?_
    · cases he
      exact hstatus rfl
    · cases he
      exact ⟨hwritten, writtenText_eq_ok herrors⟩
  | noPicture hlimit hprinted hread =>
    refine judged_of_diagram (fun t hs => ?_) (fun _ => ⟨_, hlimit⟩) fun _ _ _ he => ?_
    · rw [Site.readText_eq_ok_iff_readBytes.2 hs.picture] at hread
      cases hread
    · cases he
      exact hprinted
  | drawn hlimit hprinted hread =>
    refine ⟨fun t => ⟨fun ht => ?_, fun hs => ?_⟩, fun fault hfault => ?_,
      fun _ _ _ _ _ he hnot => ?_, nofun⟩
    · cases ht
      exact ⟨⟨_, hlimit⟩, ⟨_, _, rfl, hprinted⟩, Site.readText_eq_ok_iff_readBytes.1 hread⟩
    · rw [← hread]
      exact Site.readText_eq_ok_iff_readBytes.2 hs.picture
    · rw [hlimit] at hfault
      cases hfault
    · cases he
      exact absurd hprinted hnot

end Judged

theorem programOf_eq_error {fault : Fault} (h : programOf w settings request = .error fault)
    (path : Text) : settings.drawer ≠ .string path := by
  unfold programOf at h
  split at h
  · cases h
  · exact (Tool.of_find_eq_error h).1 path

theorem isOpenNumber_of_programOf {number : Toml.Value}
    (h : programOf w settings request = .ok (some (.number number))) :
    Tool.IsOpenNumber w settings.drawer := by
  unfold programOf at h
  split at h
  · cases h
  · exact Tool.isOpenNumber_of_find h

/-- How a call that draws ends, by what keeps the program from being run, or by its run. -/
inductive Ending (settings : Settings) (request : Request) (source background : Text) (w : World) :
    Except Fault Text → Prop where
  /-- The settings name the program by what is no text. -/
  | unsearched {fault : Fault} (hprogram : programOf w settings request = .error fault)
      (hdrawer : ∀ path, settings.drawer ≠ .string path) :
      Ending settings request source background w (.error fault)
  | noTool (hprogram : programOf w settings request = .ok none) :
      Ending settings request source background w (.error (.diagram .noTool))
  | noDirectory {fault : Fault} (hmake : makeTemporary.run.run w = (.error fault, w)) :
      Ending settings request source background w (.error fault)
  /-- The settings name it by the number of an open file. -/
  | numbered {value : Toml.Value} {directory : Path} {w₁ : World}
      (hprogram : programOf w settings request = .ok (some (.number value)))
      (hmake : makeTemporary.run.run w = (.ok directory, w₁))
      (hdrawer : Tool.IsOpenNumber w settings.drawer) :
      Ending settings request source background w (.error .wrongType)
  /-- The program or the background is what the system does not take. -/
  | refused {program : Text} {directory : Path} {w₁ : World} {fault : Fault}
      (hprogram : programOf w settings request = .ok (some (.program program)))
      (hmake : makeTemporary.run.run w = (.ok directory, w₁))
      (hcheck : (program :: arguments background (directory.child picture)).forM Site.check =
        .error fault) : Ending settings request source background w (.error fault)
  | judged {program : Text} {directory : Path} {w₁ : World} {bytes : Bytes} {launch : Launch}
      {r : Except Fault Text}
      (hprogram : programOf w settings request = .ok (some (.program program)))
      (hmake : makeTemporary.run.run w = (.ok directory, w₁))
      (hbytes : Text.Utf8.encode? source = some bytes)
      (hlaunch : launch = ⟨program, arguments background (directory.child picture), bytes,
        w₁.environment, w₁.here, ((request.seconds.or settings.seconds).mapM limit).toOption.join⟩)
      (hjudged : Judged (request.seconds.or settings.seconds) (directory.child picture)
        ⟨(w₁.run launch w₁.files).2, w₁.here⟩ (w₁.run launch w₁.files).1 r) :
      Ending settings request source background w r

/-- Drawing ends as its program was judged, or with what kept that from being run. -/
theorem draw_outcome {background : Text} (hsource : source.isUnicode = true)
    (hbackground : backgroundOf settings request = .ok background)
    (h : (draw settings request source).run.run w = (r, w')) :
    Ending settings request source background w r := by
  cases course_of_run h with
  | unsearched hprogram => exact .unsearched hprogram (programOf_eq_error hprogram)
  | noTool hprogram => exact .noTool hprogram
  | noDirectory _ hmake => exact .noDirectory hmake
  | noWords hprogram hmake hwords =>
    obtain ⟨value, rfl⟩ := hwords.resolve_right fun hno => hno _ hbackground
    exact .numbered hprogram hmake (isOpenNumber_of_programOf hprogram)
  | drawn hprogram hmake hfound hrun =>
    obtain rfl := Except.ok.inj (hbackground.symm.trans hfound)
    rcases verdict_of_run hsource hrun with
      ⟨fault, hcheck, rfl, -⟩ | ⟨bytes, launch, hbytes, hlaunch, rfl, hverdict⟩
    · exact .refused hprogram hmake hcheck
    · exact .judged hprogram hmake hbytes hlaunch hverdict.judged

theorem draw_outcome_workshop :
    (text "pie").isUnicode = true ∧
      backgroundOf workshopSettings .standard = .ok Settings.transparent ∧
      ∃ w', (draw workshopSettings .standard (text "pie")).run.run (workshop (.ended 0 [] [])) =
          (.ok (text "<svg/>"), w') ∧
        Ending workshopSettings .standard (text "pie") Settings.transparent
          (workshop (.ended 0 [] [])) (.ok (text "<svg/>")) := by
  have hsource : (text "pie").isUnicode = true := by decide
  have hbackground : backgroundOf workshopSettings .standard = .ok Settings.transparent := rfl
  obtain ⟨w', hrun⟩ : ∃ w', (draw workshopSettings .standard (text "pie")).run.run
      (workshop (.ended 0 [] [])) = (.ok (text "<svg/>"), w') :=
    World.exists_run_eq (by decide +kernel)
  exact ⟨hsource, hbackground, w', hrun, draw_outcome hsource hbackground hrun⟩

/-- A program that leaves the same picture and ends as well, but prints a byte that is no text. -/
theorem draw_outcome_garbled :
    (text "pie").isUnicode = true ∧
      backgroundOf workshopSettings .standard = .ok Settings.transparent ∧
      (∀ launch files, (workshop (.ended 0 [0xFF] [])).run launch files =
        (.ended 0 [0xFF] [], leavePicture launch files)) ∧
      ((draw workshopSettings .standard (text "pie")).run.run
        (workshop (.ended 0 [] []))).1 = .ok (text "<svg/>") ∧
      ((draw workshopSettings .standard (text "pie")).run.run
        (workshop (.ended 0 [0xFF] []))).1 = .error .notDecodable :=
  ⟨by decide, rfl, fun _ _ => rfl, by decide +kernel, by decide +kernel⟩

end DocPress.Drawer
