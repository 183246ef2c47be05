import DocPress.Pdf
import DocPress.Proofs.Diagram.Drawing

namespace DocPress.Pdf

open World Drawer

section Faults

/-- A fault of printing, or none of the program itself. -/
def IsPrinting (fault : Fault) : Prop := (∃ e, fault = .print e) ∨ fault.IsForeign

theorem isForeign_of_forM_check {arguments : List Text} {fault : Fault}
    (h : arguments.forM Site.check = .error fault) : fault.IsForeign := by
  induction arguments with
  | nil => cases h
  | cons argument arguments ih =>
    rcases bind_eq_error_iff.1 h with h | ⟨_, -, h⟩
    · exact Site.isForeign_of_check h
    · exact ih h

theorem isForeign_of_browserOf {w : World} {settings : Settings} {browser : Option Text}
    {fault : Fault} (h : browserOf w settings browser = .error fault) : fault.IsForeign := by
  unfold browserOf at h
  split at h
  · cases h
  · exact (Tool.of_find_eq_error h).2

theorem isForeign_of_resolved {s : Site} {p : Path} {fault : Fault}
    (h : resolved s p = .error fault) : fault.IsForeign := by
  rcases bind_eq_error_iff.1 h with h | ⟨_, -, h⟩
  · exact Site.isForeign_of_check h
  by_cases hstranded : s.isStranded p none = true
  · rw [if_pos hstranded] at h
    cases h
    exact id
  rw [if_neg hstranded] at h
  dsimp only at h
  split at h
  · cases h
  · cases h
    exact id

theorem isForeign_of_writtenText {bytes : Bytes} {fault : Fault}
    (h : Drawer.writtenText bytes = .error fault) : fault.IsForeign := by
  unfold Drawer.writtenText at h
  split at h
  · cases h
  · cases h
    exact id

theorem failsWith_launch (program : Text) (arguments : List Text) (input : Bytes)
    (seconds : Option Float) :
    FailsWith Fault.IsForeign (World.launch program arguments input seconds) := by
  refine (failsWith_ask fun _ _ => isForeign_of_forM_check).bind fun _ => ?_
  intro w fault w' h
  cases h

theorem failsWith_throw_print {α : Type} (e : PrintFault) :
    FailsWith IsPrinting (throw (.print e) : Run α) :=
  failsWith_throw (.inl ⟨e, rfl⟩)

theorem failsWith_isPrinting {α : Type} {x : Run α} (h : FailsWith Fault.IsForeign x) :
    FailsWith IsPrinting x :=
  h.mono fun _ h => .inr h

theorem failsWith_writeWith (page output : Path) (found : Option Tool.Found) :
    FailsWith IsPrinting (writeWith page output found) := by
  cases found with
  | none => exact failsWith_throw_print _
  | some found =>
    have hresolved : ∀ p, FailsWith IsPrinting (World.ask (resolved · p)) := fun p =>
      failsWith_isPrinting (failsWith_ask fun _ _ => isForeign_of_resolved)
    have htext : ∀ bytes, FailsWith IsPrinting (World.ask fun _ => Drawer.writtenText bytes) :=
      fun bytes => failsWith_isPrinting (failsWith_ask fun _ _ => isForeign_of_writtenText)
    refine (hresolved _).bind fun page => (hresolved _).bind fun output =>
      (failsWith_isPrinting (failsWith_ask fun _ _ => Tool.isForeign_of_word)).bind fun program =>
        (failsWith_isPrinting (failsWith_launch _ _ _ _)).bind fun outcome => ?_
    cases outcome with
    | notStarted => exact failsWith_throw_print _
    | late => exact failsWith_throw_print _
    | ended status =>
      have hwritten : FailsWith IsPrinting (do
          unless ← World.ask (·.isFile output) do throw (.print (.nothingWritten output))
          return output) := by
        refine (failsWith_isPrinting (failsWith_ask fun _ _ => Site.isForeign_of_holds)).bind
          fun there => ?_
        exact FailsWith.ite (failsWith_pure _)
          ((failsWith_throw_print _).bind fun _ => failsWith_pure _)
      exact (htext _).discard.bind fun _ => (htext _).bind fun _ =>
        FailsWith.ite ((failsWith_throw_print _).bind fun _ => hwritten) hwritten

/-- Printing fails with a fault of printing, or with none of the program itself. -/
theorem failsWith_write (settings : Settings) (browser : Option Text) (page output : Path) :
    FailsWith IsPrinting (write settings browser page output) := by
  refine FailsWith.bind (fun _ _ _ h => by cases h) fun w => ?_
  exact (failsWith_isPrinting (failsWith_ask fun _ _ => isForeign_of_browserOf)).bind
    (failsWith_writeWith page output)

end Faults

section Launch

/-- A browser was run to print a page, or nothing was. -/
def Printed (w w' : World) : Prop := ∃ page output, Launched (arguments page output) w w'

theorem printed_refl (w : World) : Printed w w := ⟨⟨.relative, []⟩, ⟨.relative, []⟩, .inl rfl⟩

theorem within_writeWith (page output : Path) (found : Option Tool.Found) :
    Within Printed (fun _ => True) (writeWith page output found) := by
  cases found with
  | none => exact within_throw printed_refl _
  | some found =>
    refine (still_ask _).still_bind printed_refl fun page =>
      (still_ask _).still_bind printed_refl fun output =>
        (still_ask _).still_bind printed_refl fun program => ?_
    have hlaunch : Within Printed (fun _ => True)
        (World.launch program (arguments page output) [] none) := fun w r w' h htold =>
      ⟨page, output, within_launch _ _ _ _ w r w' h htold⟩
    refine hlaunch.bind_still fun outcome => ?_
    cases outcome with
    | notStarted => exact still_throw _
    | late => exact still_throw _
    | ended status =>
      refine (still_ask _).discard.bind_still fun _ => (still_ask _).bind_still fun _ => ?_
      have hwritten : Within Eq (fun _ => True) (do
          unless ← World.ask (·.isFile output) do throw (.print (.nothingWritten output))
          return output) := by
        refine (still_ask _).bind_still fun there => ?_
        split
        · exact within_pure (fun _ => rfl) _
        · exact (still_throw _).bind_still fun _ => within_pure (fun _ => rfl) _
      by_cases hs : status ≠ 0
      · rw [if_pos hs]
        exact (still_throw _).bind_still fun _ => hwritten
      · rw [if_neg hs]
        exact hwritten

/-- What printing does to the world is what the browser does to it. -/
theorem within_write (settings : Settings) (browser : Option Text) (page output : Path) :
    Within Printed (fun _ => True) (write settings browser page output) := by
  intro w r w' h
  unfold write at h
  rw [run_get_bind] at h
  exact (still_ask _).still_bind printed_refl (within_writeWith page output) w r w' h

end Launch

end DocPress.Pdf
