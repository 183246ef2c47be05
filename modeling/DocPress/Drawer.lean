import DocPress.Diagram
import DocPress.Tool

namespace DocPress.Drawer

structure Request where
  program : Option Text
  background : Option Text
  seconds : Option Toml.Value

def Request.standard : Request := ⟨none, none, none⟩

def maxMilliseconds : Float := 2147483647

/-- A number of seconds as a limit; one below zero is over at once. -/
def limit : Toml.Value → Except Fault Float
  | .bool b => .ok (if b then 1 else 0)
  | .int i => check (Float.ofInt i)
  | .real x => check x
  | _ => .error .wrongType
where
  check (x : Float) : Except Fault Float :=
    if x.isNaN then .error .badValue
    else if maxMilliseconds < x * 1000 then .error .tooLarge
    else .ok x

def directoryPrefix : Text := text "thener_mmd_"

def makeTemporary : Run Path := do
  let w ← get
  let candidates := (List.range (w.files.entries.length + 1)).map fun n =>
    w.temporary.join ⟨.relative, [directoryPrefix ++ Text.hex 8 n]⟩
  let free (p : Path) : Bool := !(w.exists_ p).toOption.getD true
  let directory := (candidates.find? free).getD w.temporary
  World.makeDirectory directory
  return directory

def removeTree (directory : Path) : Run Unit :=
  World.change directory.toText fun files here path => do
    match ← files.find here path false with
    | (l, .directory) => .ok (files.erase l)
    | _ => .error .notDirectory

def picture : Text := text "graph.svg"

def arguments (background : Text) (output : Path) : List Text :=
  [text "--input", text "-", text "--backgroundColor", background, text "--output", output.toText]

def writtenText (bytes : Bytes) : Except Fault Text :=
  match Text.Utf8.decode bytes with
  | .ok t => .ok (Text.unifyNewlines t)
  | .error _ => .error .notDecodable

def sourceBytes (source : Text) : Except Fault Bytes :=
  match Text.Utf8.encode? source with
  | some bytes => .ok bytes
  | none => .error .notEncodable

def readPicture (s : Site) (output : Path) : Except Fault Text :=
  match s.readText output with
  | .error (.unread _ reason) => .error (.diagram (.noPicture reason))
  | r => r

def runProgram (program background source : Text) (seconds : Option Toml.Value) (output : Path) :
    Run Text := do
  let limited := seconds.mapM limit
  let bytes := sourceBytes source
  let outcome ← World.launch program (arguments background output) (bytes.toOption.getD [])
    (limited.toOption.join)
  match outcome with
  | .notStarted e => throw (.diagram (.notStarted ⟨e, program⟩))
  | .late =>
    discard (World.ask fun _ => limited)
    discard (World.ask fun _ => bytes)
    throw (.diagram (.late ((seconds.map Toml.Value.shown).getD [])))
  | .ended status written errors =>
    discard (World.ask fun _ => limited)
    discard (World.ask fun _ => bytes)
    discard (World.ask fun _ => writtenText written)
    let errors ← World.ask fun _ => writtenText errors
    if status ≠ 0 then throw (.diagram (.exited status errors))
    World.ask (readPicture · output)

def backgroundOf (settings : Settings) (request : Request) : Except Fault Text :=
  match request.background, settings.background with
  | some t, _ => .ok t
  | none, .string t => .ok t
  | none, _ => .error .wrongType

def wordsOf (found : Tool.Found) (settings : Settings) (request : Request) :
    Except Fault (Text × Text) := do
  return (← found.word, ← backgroundOf settings request)

def programOf (w : World) (settings : Settings) (request : Request) :
    Except Fault (Option Tool.Found) :=
  match request.program.filter (· ≠ []) with
  | some program => .ok (some (.program program))
  | none => Tool.drawer w settings

def drawWith (settings : Settings) (request : Request) (source : Text) :
    Option Tool.Found → Run Text
  | none => throw (.diagram .noTool)
  | some found => do
    let directory ← makeTemporary
    -- The directory is not removed yet when there are no words for a command.
    let (program, background) ← World.ask fun _ => wordsOf found settings request
    World.ending (removeTree directory)
      (runProgram program background source (request.seconds.or settings.seconds)
        (directory.child picture))

def draw (settings : Settings) (request : Request) (source : Text) : Run Text := do
  let w ← get
  drawWith settings request source (← World.ask fun _ => programOf w settings request)

end DocPress.Drawer
