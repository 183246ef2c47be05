import DocPress.Proofs.Composition.Spelling
import DocPress.Proofs.FileSystem.Refusal

namespace DocPress

/-- The faults that composing is said to end with: imports that are too deep, a document that is not
read, a file without a name or a directory, and a path that is no valid Unicode. -/
def Fault.IsComposing : Fault → Prop
  | importTooDeep .. | unread .. | unnamedFile _ | noDirectory _ | pathNotUnicode _ => True
  | _ => False

theorem Fault.IsComposing.isSome_message? {fault : Fault} (h : fault.IsComposing) :
    fault.message?.isSome = true := by
  cases fault <;> first | rfl | exact h.elim

namespace Composition

/-- The other faults that composing from a directory can end with, where it asks this of the file
system. -/
inductive Escapes (s : Site) (asks : Question → Prop) : Fault → Prop
  /-- The path of an imported document has a NUL. -/
  | nul {p : Path} : asks (.document p) → CodePoint.ofChar '\x00' ∈ p.toText →
      Escapes s asks .badValue
  /-- The path of a directory is too long, or a name in it. -/
  | tooLong {p : Path} : asks (.directory p) →
      s.isDirectory p = .error (.system ⟨.nameTooLong, p.toText⟩) →
      Escapes s asks (.system ⟨.nameTooLong, p.toText⟩)

theorem Escapes.imp {s : Site} {asks asks' : Question → Prop} {fault : Fault}
    (h : Escapes s asks fault) (ha : ∀ q, asks q → asks' q) : Escapes s asks' fault := by
  cases h with
  | nul hq hn => exact .nul (ha _ hq) hn
  | tooLong hq hd => exact .tooLong (ha _ hq) hd

/-- Composing fails as it is said to, or on a path that it has come to; or else its first file has a
relative path, no base is given, and the working directory is gone. -/
def FailsAs (s : Site) (file : Path) (code : Text) (base : Option Path) (fault : Fault) : Prop :=
  fault.IsComposing ∨ Escapes s (Asks s file code base) fault ∨
    (s.isStranded file.parent base = true ∧ fault = .pathless .noEntry)

section Faults

variable {s : Site} {maximum depth : Int} {remaining : Nat} {fault : Fault}

theorem pathText_eq_error {t : Text} (h : Site.pathText t = .error fault) :
    fault = .pathNotUnicode t := by
  unfold Site.pathText at h
  split at h
  · cases h
  · exact (Except.error.inj h).symm

theorem discard_eq_error {α : Type} {x : Except Fault α}
    (h : (discard x : Except Fault Unit) = .error fault) : x = .error fault := by
  cases x with
  | ok a => cases h
  | error e =>
    have he : e = fault := Except.error.inj h
    rw [he]

/-- A path has no absolute form where that is no valid Unicode, or the working directory is gone. -/
theorem siteAbsolute_eq_error {p : Path} {base : Option Path} (h : s.absolute p base = .error fault) :
    fault.IsComposing ∨ (s.isStranded p base = true ∧ fault = .pathless .noEntry) := by
  cases hs : s.isStranded p base with
  | true =>
    rw [Site.absolute, hs] at h
    exact .inr ⟨rfl, (Except.error.inj h).symm⟩
  | false =>
    rw [Site.absolute_of_not_isStranded hs] at h
    rcases bind_eq_error_iff.1 h with h | ⟨_, -, h⟩
    · rw [pathText_eq_error (discard_eq_error h)]
      exact .inl trivial
    · cases h

theorem isComposing_of_displayName {file : Path} (h : displayName file = .error fault) :
    fault.IsComposing := by
  unfold displayName at h
  split at h
  · cases h
    trivial
  · rw [pathText_eq_error h]
    trivial

theorem isComposing_of_importedFile {directory : Path} {target : Text}
    (h : importedFile s directory target = .error fault) : fault.IsComposing := by
  unfold importedFile at h
  by_cases ht : target = []
  · rw [if_pos ht] at h
    cases h
    trivial
  rw [if_neg ht] at h
  rcases bind_eq_error_iff.1 h with h | ⟨file, -, h⟩
  · exact (siteAbsolute_eq_error h).resolve_right fun hs => by cases hs.1
  · split at h
    · cases h
    · cases h
      trivial

theorem container_eq_error {file : Path} {code name : Text} {base : Option Path}
    (hu : file.toText.isUnicode = true) (hn : displayName file = .ok name)
    (h : container s file base = .error fault) : FailsAs s file code base fault := by
  rcases bind_eq_error_iff.1 h with h | ⟨directory, hd, h⟩
  · exact (siteAbsolute_eq_error h).imp_right .inr
  rcases bind_eq_error_iff.1 h with h | ⟨there, -, h⟩
  · obtain rfl := Site.isDirectory_eq_error h
    exact .inr (.inl (.tooLong (.directory hu hn hd) h))
  · left
    cases there with
    | true => cases h
    | false =>
      cases h
      trivial

theorem partOf_eq_error
    (ih : ∀ {depth : Int} {file : Path} {code : Text} {base : Option Path},
      treeFrom s maximum remaining depth file code base = .error fault →
        FailsAs s file code base fault)
    {directory : Path} {line : Text}
    (h : partOf (importedTree s maximum remaining depth directory) line = .error fault) :
    fault.IsComposing ∨ Escapes s (LineAsks s directory line) fault := by
  unfold partOf at h
  cases ht : Text.after? importMarker line with
  | none =>
    rw [ht] at h
    cases h
  | some target =>
    rw [ht] at h
    rcases bind_eq_error_iff.1 h with h | ⟨document, hd, h⟩
    · exact .inl (isComposing_of_importedFile h)
    rcases bind_eq_error_iff.1 h with h | ⟨code, hc, h⟩
    · rcases Site.readText_eq_error (isUnicode_of_importedFile hd) h with ⟨_, rfl⟩ | ⟨rfl, hn⟩
      · exact .inl trivial
      · exact .inr (.nul (.document ht hd) hn)
    · -- A document that is imported has the directory of its file as a base.
      rcases ih h with hc' | he | hs
      · exact .inl hc'
      · exact .inr (he.imp fun _ hq => .within ht hd hc hq)
      · cases hs.1

/-- Composing a file fails as it is said to, or on a path that it has come to or cannot name. -/
theorem treeFrom_eq_error {file : Path} {code : Text} {base : Option Path}
    (h : treeFrom s maximum remaining depth file code base = .error fault) :
    FailsAs s file code base fault := by
  induction remaining generalizing depth file code base with
  | zero =>
    unfold treeFrom at h
    rcases bind_eq_error_iff.1 h with h | ⟨_, -, h⟩
    · rw [pathText_eq_error h]
      exact .inl trivial
    · cases h
      exact .inl trivial
  | succ remaining ih =>
    rw [treeFrom_succ] at h
    rcases bind_eq_error_iff.1 h with h | ⟨_, hu, h⟩
    · rw [pathText_eq_error (discard_eq_error h)]
      exact .inl trivial
    rw [discard_pathText_eq_ok] at hu
    rcases bind_eq_error_iff.1 h with h | ⟨name, hn, h⟩
    · exact .inl (isComposing_of_displayName h)
    rcases bind_eq_error_iff.1 h with h | ⟨directory, hd, h⟩
    · exact container_eq_error hu hn h
    rcases bind_eq_error_iff.1 h with h | ⟨_, -, h⟩
    · obtain ⟨before, line, after, parts, hl, hb, h⟩ := mapM_eq_error_iff.1 h
      -- The lines before have been composed, so this one is asked about.
      have hparts : HasParts s directory before parts :=
        ((mapM_partOf_eq_ok_iff treeFrom_eq_ok_iff).1 hb).1
      exact (partOf_eq_error ih h).imp_right fun he =>
        .inl (he.imp fun _ hq => .line hu hn hd hl hparts hq)
    · cases h

theorem composeAt_eq_error {file : Path} {code : Text} {base : Option Path}
    (h : composeAt s maximum depth file code base = .error fault) :
    FailsAs s file code base fault := by
  unfold composeAt at h
  cases ht : treeFrom s maximum (maximum - depth).toNat depth file code base with
  | ok tree =>
    rw [ht] at h
    cases h
  | error fault' =>
    rw [ht] at h
    cases h
    exact treeFrom_eq_error ht

end Faults

section Reporting

open CommandLine (reporting runPreprocess runRender)

variable {w : World} {fault : Fault}

def told (w : World) (message : Text) : World :=
  { w with printed := w.printed ++
      Console.message (CommandLine.consoleWidth w) CommandLine.failureMark message }

theorem run_reporting_throw (w : World) (fault : Fault) :
    (reporting (throw fault)).run.run w =
      match fault.message? with
      | some message => (.ok .failure, told w message)
      | none => (.error fault, w) := by
  cases fault <;> rfl

theorem run_reporting_of_error {x : Run Unit} {message : Text} (h : x.run.run w = (.error fault, w))
    (hm : fault.message? = some message) :
    (reporting x).run.run w = (.ok .failure, told w message) := by
  have hthrow : x.run.run w = (throw fault : Run Unit).run.run w := h
  rw [World.run_reporting_congr hthrow, run_reporting_throw, hm]

theorem run_reporting_composed {file : Path} {message : Text}
    (h : composeFile w.toSite file = .error fault) (hm : fault.message? = some message)
    (k : Text → Run Unit) :
    (reporting (CommandLine.composed file >>= k)).run.run w = (.ok .failure, told w message) := by
  have hcomposed : (CommandLine.composed file).run.run w = (.error fault, w) := by
    rw [← h]
    exact World.run_ask _ _
  exact run_reporting_of_error (World.run_bind_of_error hcomposed k) hm

theorem run_runBuild_composed {settings : Settings} {projectFile file : Path} {format : Text}
    {project : Project} {message : Text} (h : composeFile w.toSite file = .error fault)
    (hm : fault.message? = some message)
    (hformat : (Build.Format.named.lookup format).isSome = true)
    (hread : Project.read w.toSite projectFile = .ok project) (hentry : project.entryPath = file) :
    (CommandLine.runBuild settings projectFile format).run.run w = (.ok .failure, told w message) := by
  subst hentry
  obtain ⟨known, hknown⟩ := Option.isSome_iff_exists.1 hformat
  have hproject : (World.ask (Project.read · projectFile)).run.run w = (.ok project, w) := by
    rw [World.run_ask, hread]
  have hcomposed : (World.ask fun s => composeFile s project.entryPath).run.run w =
      (.error fault, w) := by
    rw [World.run_ask, h]
  have hbuild : (Build.build settings (CommandLine.draw settings) project format :
      Run Build.Product).run.run w = (.error fault, w) := by
    unfold Build.build
    rw [hknown]
    exact World.run_bind_of_error (World.run_bind_of_error hcomposed _) _
  unfold CommandLine.runBuild
  rw [hknown]
  refine run_reporting_of_error ?_ hm
  exact (World.run_bind_of_ok hproject _).trans (World.run_bind_of_error hbuild _)

end Reporting

/-- The commands that compose a file end with a failure that they have told of. -/
structure Reported (w : World) (file : Path) (message : Text) : Prop where
  preprocess (output : Option Text) :
    (CommandLine.runPreprocess output file).run.run w = (.ok .failure, told w message)
  render (settings : Settings) (output : Option Text) (diagrams : Bool) :
    (CommandLine.runRender settings output diagrams file).run.run w =
      (.ok .failure, told w message)
  build (settings : Settings) (projectFile : Path) (format : Text) (project : Project) :
    (Build.Format.named.lookup format).isSome = true →
    Project.read w.toSite projectFile = .ok project → project.entryPath = file →
    (CommandLine.runBuild settings projectFile format).run.run w = (.ok .failure, told w message)

theorem reported_of_composeFile {w : World} {file : Path} {fault : Fault} {message : Text}
    (h : composeFile w.toSite file = .error fault) (hm : fault.message? = some message) :
    Reported w file message where
  preprocess _ := run_reporting_composed h hm _
  render _ _ _ := run_reporting_composed h hm _
  build _ _ _ _ := run_runBuild_composed h hm

/-- Composing gives a document or fails as it is said to, but for a NUL in the path of an import, a
directory whose path is too long, and a working directory that is gone. Of a file that can be read, the
commands report every fault except the first of these. No directory refuses to be searched: a
`FileSystem` has no access rights. -/
theorem compose_outcome (s : Site) (maximum depth : Int) (file : Path) (code : Text)
    (base : Option Path) :
    ((∃ document, composeAt s maximum depth file code base = .ok document) ∨
      ∃ fault, composeAt s maximum depth file code base = .error fault ∧
        FailsAs s file code base fault) ∧
    ∀ w : World, w.toSite = s → s.readText file = .ok code →
      ∀ fault, compose s file code none = .error fault →
        (∃ message, fault.message? = some message ∧ Reported w file message) ∨
          fault = .badValue ∧ ∃ p, Asks s file code none (.document p) ∧
            CodePoint.ofChar '\x00' ∈ p.toText := by
  constructor
  · cases h : composeAt s maximum depth file code base with
    | ok document => exact .inl ⟨document, rfl⟩
    | error fault => exact .inr ⟨fault, rfl, composeAt_eq_error h⟩
  · rintro w rfl hr fault h
    have hfile : composeFile w.toSite file = .error fault := (composeFile_of_readText hr).trans h
    rcases composeAt_eq_error h with hc | he | ⟨-, rfl⟩
    · obtain ⟨message, hm⟩ := Option.isSome_iff_exists.1 hc.isSome_message?
      exact .inl ⟨message, hm, reported_of_composeFile hfile hm⟩
    · cases he with
      | nul hq hn => exact .inr ⟨rfl, _, hq, hn⟩
      | tooLong => exact .inl ⟨_, rfl, reported_of_composeFile hfile rfl⟩
    · exact .inl ⟨_, rfl, reported_of_composeFile hfile rfl⟩

def torn : FileSystem :=
  ⟨[([text "a.md"], .file (Text.Utf8.encodeLenient (text "@import b")) false)]⟩

theorem compose_outcome_torn :
    Site.readText ⟨torn, []⟩ (.ofText (text "/a.md")) = .ok (text "@import b") ∧
      compose ⟨torn, []⟩ (.ofText (text "/a.md")) (text "@import b") none =
        .error (.unread (.ofText (text "/b.md")) (.system ⟨.noEntry, text "/b.md"⟩)) ∧
      Reported (World.still ⟨torn, []⟩) (.ofText (text "/a.md"))
        (text "Could not read file /b.md: [Errno 2] No such file or directory: '/b.md'") := by
  have hr : Site.readText ⟨torn, []⟩ (.ofText (text "/a.md")) = .ok (text "@import b") :=
    eq_ok_of_toOption (by decide +kernel)
  have h : compose ⟨torn, []⟩ (.ofText (text "/a.md")) (text "@import b") none =
      .error (.unread (.ofText (text "/b.md")) (.system ⟨.noEntry, text "/b.md"⟩)) := by
    decide +kernel
  refine ⟨hr, h, ?_⟩
  rcases (compose_outcome ⟨torn, []⟩ 1 0 _ _ none).2 (World.still ⟨torn, []⟩) rfl hr _ h with
    ⟨message, hm, hreported⟩ | ⟨hbad, -⟩
  · have hm' : (Fault.unread (.ofText (text "/b.md"))
        (.system ⟨.noEntry, text "/b.md"⟩)).message? =
        some (text "Could not read file /b.md: [Errno 2] No such file or directory: '/b.md'") := by
      decide +kernel
    rwa [Option.some.inj (hm'.symm.trans hm)]
  · cases hbad

def longName : Text := List.replicate 64 (CodePoint.ofChar '😀')

/-- A NUL in an import, a directory with a long name, and a working directory that is gone: none of
these faults is one that composing is said to end with. -/
theorem compose_escapes_nul :
    (text "@import b\x00c").isUnicode = true ∧
      compose ⟨.empty, []⟩ (.ofText (text "/a.md")) (text "@import b\x00c") none =
        .error .badValue ∧
      compose ⟨.empty, []⟩ ⟨.single, [longName, text "a.md"]⟩ (text "x") none =
        .error (.system ⟨.nameTooLong, text "/" ++ longName⟩) ∧
      compose ⟨.empty, [text "w"]⟩ (.ofText (text "a.md")) (text "x") none =
        .error (.pathless .noEntry) ∧
      ¬Fault.badValue.IsComposing ∧
      ¬(Fault.system ⟨.nameTooLong, text "/" ++ longName⟩).IsComposing ∧
      ¬(Fault.pathless .noEntry).IsComposing :=
  ⟨by decide, by decide +kernel, by decide +kernel, by decide +kernel, id, id, id⟩

end Composition

end DocPress
