import DocPress.Site

namespace DocPress

/-- A program to be run; `seconds` is how long it may take. -/
structure Launch where
  program : Text
  arguments : List Text
  input : Bytes
  environment : List (Text × Text)
  here : Location
  seconds : Option Float

inductive Outcome where
  | notStarted (errno : Errno)
  | late
  /-- A program that a signal has ended has the negative number of the signal as its status. -/
  | ended (status : Int) (output errors : Bytes)

/-- A write that was cut short: only the first `count` bytes got there. -/
structure Refusal where
  errno : Errno
  count : Nat

/-- What a command acts on. An action that fails keeps what it has done until then. -/
structure World extends Site where
  environment : List (Text × Text)
  /-- The directory for temporary ones. -/
  temporary : Path
  /-- What has been printed. -/
  printed : Text
  run : Launch → FileSystem → Outcome × FileSystem
  /-- Whether a text that is written to an opened file gets there: its path and bytes are given. What is
  copied from file to file always gets there. -/
  refusal : Site → Text → Bytes → Option Refusal := fun _ _ _ => none
  /-- The numbers under which regular files are open. -/
  openFiles : List Nat := []

abbrev Run := ExceptT Fault (StateM World)

namespace World

def variableNamed (w : World) (name : Text) : Option Text := w.environment.lookup name

def ask {α : Type} (question : Site → Except Fault α) : Run α := do
  liftExcept (question (← get).toSite)
where
  liftExcept : Except Fault α → Run α
    | .ok a => pure a
    | .error fault => throw fault

def change (path : Text) (call : FileSystem → Location → Text → Except Errno FileSystem) :
    Run Unit := do
  let files ← ask fun s => do
    Site.check path
    Site.refuse path (call s.files s.here path)
  modify fun w => { w with files := files }

def launch (program : Text) (arguments : List Text) (input : Bytes) (seconds : Option Float) :
    Run Outcome := do
  ask fun _ => (program :: arguments).forM Site.check
  let w ← get
  let launch : Launch := ⟨program, arguments, input, w.environment, w.here, seconds⟩
  let (outcome, files) := w.run launch w.files
  set { w with files := files }
  return outcome

def print (t : Text) : Run Unit := modify fun w => { w with printed := w.printed ++ t }

/-- Ends with `cleanup`, whether `action` fails or not; what `cleanup` itself meets is dropped. -/
def ending {α : Type} (cleanup : Run Unit) (action : Run α) : Run α :=
  ExceptT.mk fun w =>
    let (r, w) := action.run w
    (r, (cleanup.run w).2)

def writeBytes (p : Path) (content : Bytes) : Run Unit :=
  change p.toText fun files here path => files.write here path content

/-- Writes a text as UTF-8. The file is emptied first: it stays so when the text is no valid Unicode,
and holds the beginning when the system takes no more. -/
def writeText (p : Path) (t : Text) : Run Unit :=
  match Text.Utf8.encode? t with
  | some bytes => do
    let w ← get
    match w.refusal w.toSite p.toText bytes with
    | none => writeBytes p bytes
    | some refusal => do
      writeBytes p (bytes.take refusal.count)
      throw (.pathless refusal.errno)
  | none => do
    writeBytes p []
    throw .notEncodable

def makeDirectory (p : Path) : Run Unit :=
  change p.toText FileSystem.makeDirectory

def unlessDirectory (p : Path) (fault : Fault) : Run Unit := do
  unless ← ask (·.isDirectory p) do throw fault

/-- Makes the directory that the first `count` components of a path name, and those above it where
they are missing. -/
def makeFirstDirectories (p : Path) : Nat → Run Unit
  | 0 =>
    let top : Path := { p with parts := [] }
    try makeDirectory top catch fault => unlessDirectory top fault
  | count + 1 =>
    let q : Path := { p with parts := p.parts.take (count + 1) }
    try makeDirectory q catch
      | .system ⟨.noEntry, _⟩ => do
        makeFirstDirectories p count
        try makeDirectory q catch
          | .system ⟨.noEntry, path⟩ => throw (.system ⟨.noEntry, path⟩)
          | fault => unlessDirectory q fault
      | .system fault => unlessDirectory q (.system fault)
      | fault => throw fault

/-- Makes a directory and those above it; one that is there is kept. -/
def makeDirectories (p : Path) : Run Unit := makeFirstDirectories p p.parts.length

end World

end DocPress
