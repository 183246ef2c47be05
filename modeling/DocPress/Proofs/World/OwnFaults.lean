import DocPress.Proofs.FileSystem.Growth
import DocPress.Proofs.FileSystem.Refusal
import DocPress.Proofs.World.Running

namespace DocPress

/-- The faults of the program itself, which say what is wrong with a document or a project; the
others come from the system, or from values that are not as they should be. -/
def Fault.IsOwn : Fault → Prop
  | importTooDeep .. | unread .. | unnamedFile _ | noDirectory _ | pathNotUnicode _ | diagram _
  | project _ | template _ | print _ => True
  | _ => False

instance : DecidablePred Fault.IsOwn := fun fault => by
  cases fault <;> first | exact isTrue trivial | exact isFalse id

theorem Fault.IsOwn.isSome_message? {fault : Fault} (h : fault.IsOwn) :
    fault.message?.isSome = true := by
  cases fault <;> first | rfl | exact h.elim

/-- No fault of the program itself. -/
def Fault.IsForeign (fault : Fault) : Prop := ¬fault.IsOwn

namespace Site

variable {s : Site} {fault : Fault}

theorem isForeign_of_check {path : Text} (h : check path = .error fault) : fault.IsForeign := by
  unfold check at h
  split at h
  · cases h
    exact id
  · split at h
    · cases h
    · cases h
      exact id

theorem isForeign_of_refuse {α : Type} {path : Text} {r : Except Errno α}
    (h : refuse path r = .error fault) : fault.IsForeign := by
  cases r with
  | ok a => cases h
  | error e =>
    cases h
    exact id

theorem isForeign_of_holds {accepts : Entry → Bool} {path : Text}
    (h : s.holds accepts path = .error fault) : fault.IsForeign := by
  unfold holds at h
  split at h
  · cases h
  · split at h
    · cases h
    · cases h
      exact id
  · cases h

theorem isForeign_of_readBytes {path : Text} (h : s.readBytes path = .error fault) :
    fault.IsForeign := by
  rcases bind_eq_error_iff.1 h with h | ⟨_, -, h⟩
  · exact isForeign_of_check h
  · exact isForeign_of_refuse h

end Site

namespace World

open FileSystem

variable {fault : Fault}

theorem failsWith_change (path : Text)
    (call : FileSystem → Location → Text → Except Errno FileSystem) :
    FailsWith Fault.IsForeign (change path call) := by
  intro w fault w' h
  rw [run_change] at h
  cases hc : called w.toSite path call with
  | ok files =>
    rw [hc] at h
    cases h
  | error e =>
    rw [hc] at h
    cases h
    rcases bind_eq_error_iff.1 hc with hc | ⟨_, -, hc⟩
    · exact Site.isForeign_of_check hc
    · exact Site.isForeign_of_refuse hc

theorem failsWith_writeText (p : Path) (t : Text) :
    FailsWith Fault.IsForeign (writeText p t) := by
  unfold writeText
  split
  · refine FailsWith.bind (fun _ _ _ h => by cases h) fun w => ?_
    split
    · exact failsWith_change _ _
    · exact (failsWith_change _ _).bind fun _ => failsWith_throw id
  · exact (failsWith_change _ _).bind fun _ => failsWith_throw id

theorem failsWith_unlessDirectory (p : Path) (h : fault.IsForeign) :
    FailsWith Fault.IsForeign (unlessDirectory p fault) := by
  refine (failsWith_ask fun s _ => Site.isForeign_of_holds).bind fun b => ?_
  split
  · exact failsWith_pure _
  · exact failsWith_throw h

theorem failsWith_makeDirectory (p : Path) : FailsWith Fault.IsForeign (makeDirectory p) :=
  failsWith_change _ _

theorem failsWith_makeFirstDirectories (p : Path) (count : Nat) :
    FailsWith Fault.IsForeign (makeFirstDirectories p count) := by
  induction count with
  | zero =>
    unfold makeFirstDirectories
    exact (failsWith_makeDirectory _).tryCatch fun _ h => failsWith_unlessDirectory _ h
  | succ count ih =>
    unfold makeFirstDirectories
    refine (failsWith_makeDirectory _).tryCatch fun fault h => ?_
    split
    · refine ih.bind fun _ => (failsWith_makeDirectory _).tryCatch fun fault h => ?_
      split
      · exact failsWith_throw id
      · exact failsWith_unlessDirectory _ h
    · exact failsWith_unlessDirectory _ id
    · exact failsWith_throw h

theorem failsWith_makeDirectories (p : Path) : FailsWith Fault.IsForeign (makeDirectories p) :=
  failsWith_makeFirstDirectories _ _

section Directories

theorem within_makeDirectories_of {R : World → World → Prop} (hrefl : ∀ w, R w w)
    (htrans : ∀ a b c, R a b → R b c → R a c)
    {p : Path} (hmake : ∀ (count : Nat) (w : World) (files : FileSystem),
      w.files.makeDirectory w.here ({ p with parts := p.parts.take count } : Path).toText = .ok files →
        R w { w with files := files }) :
    Within R (fun _ => True) (makeDirectories p) := by
  have hone : ∀ count, Within R (fun _ => True)
      (makeDirectory { p with parts := p.parts.take count }) := fun count =>
    within_change hrefl fun w files h => hmake count w files h
  have hunless : ∀ q fault, Within R (fun _ => True) (unlessDirectory q fault) := by
    intro q fault
    refine Within.bind htrans (within_ask hrefl _) fun b => ?_
    split
    · exact within_pure hrefl _
    · exact within_throw hrefl _
  unfold makeDirectories
  induction p.parts.length with
  | zero =>
    unfold makeFirstDirectories
    exact Within.tryCatch htrans (hone 0) fun _ => hunless _ _
  | succ count ih =>
    unfold makeFirstDirectories
    refine Within.tryCatch htrans (hone _) fun fault => ?_
    split
    · refine Within.bind htrans ih fun _ => Within.tryCatch htrans (hone _) fun fault => ?_
      split
      · exact within_throw hrefl _
      · exact hunless _ _
    · exact hunless _ _
    · exact within_throw hrefl _

/-- The files of two worlds differ by new directories. -/
def Opens (w w' : World) : Prop := NewDirectories w.files w'.files

theorem opens_refl (w : World) : Opens w w := newDirectories_refl _

theorem opens_trans (a b c : World) (h : Opens a b) (h' : Opens b c) : Opens a c :=
  NewDirectories.trans h h'

/-- Whether it succeeds or not, making directories makes directories and does nothing else. -/
theorem within_makeDirectories (p : Path) : Within Opens (fun _ => True) (makeDirectories p) :=
  within_makeDirectories_of opens_refl opens_trans (fun _ _ _ h => newDirectories_of_makeDirectory h)

end Directories

end World

end DocPress
