import DocPress.FileSystem.Walk
import DocPress.Shell.Glob
import DocPress.Shell.Script

namespace DocPress.Shell

inductive Target where
  | output
  | errors
  | file (l : Location)
  | nowhere

structure Machine where
  files : FileSystem
  here : Location
  environment : List (Text × Text)
  name : Text
  arguments : List Text
  status : Nat
  input : Bytes
  output : Bytes
  errors : Bytes
  targets : List (Nat × Target)
  elapsed : Float
  limit : Option Float

/-- Why a script ends before its last command. -/
inductive Stop where
  | exited (status : Nat)
  | killed (signal : Nat)
  | late

abbrev Act := ExceptT Stop (StateM Machine)

def processNumber : Nat := 4242

namespace Act

def target (descriptor : Nat) : Act Target := do
  return ((← get).targets.lookup descriptor).getD .nowhere

def redirect (descriptor : Nat) (t : Target) : Act Unit := modify fun m =>
  { m with targets := (descriptor, t) :: m.targets.filter (·.1 ≠ descriptor) }

def emitTo (t : Target) (bytes : Bytes) : Act Unit := modify fun m =>
  match t with
  | .output => { m with output := m.output ++ bytes }
  | .errors => { m with errors := m.errors ++ bytes }
  | .nowhere => m
  | .file l =>
    match m.files.entryAt l with
    | some (.file content executable) =>
      { m with files := m.files.put l (.file (content ++ bytes) executable) }
    | _ => m

def emit (descriptor : Nat) (t : Text) : Act Unit := do
  emitTo (← target descriptor) (Text.Utf8.encodeLenient t)

def complain (message : Text) : Act Unit := do
  emit 2 ((← get).name ++ text ": 1: " ++ message ++ text "\n")

def variable_ (name : Text) : Act (Option Text) := do
  let m ← get
  let list (ts : List Text) : Option Text := some (Text.join (text " ") ts)
  if name = text "@" ∨ name = text "*" then return list m.arguments
  else if name = text "#" then return some (Text.ofNat m.arguments.length)
  else if name = text "?" then return some (Text.ofNat m.status)
  else if name = text "$" then return some (Text.ofNat processNumber)
  else if name = text "0" then return some m.name
  else if name.all CodePoint.isDigit then return m.arguments[Text.digitsValue 10 name - 1]?
  else return m.environment.lookup name

def assign (name value : Text) : Act Unit := modify fun m =>
  { m with environment := (name, value) :: m.environment.filter (·.1 ≠ name) }

def wait (seconds : Float) : Act Unit := do
  modify fun m => { m with elapsed := m.elapsed + seconds }
  let m ← get
  if m.limit.any (· ≤ m.elapsed) then throw .late

def openFile (append : Bool) (path : Text) : Act (Except Errno Target) := do
  let m ← get
  match m.files.locate m.here path true with
  | .error e => return .error e
  | .ok l =>
    match m.files.entryAt l with
    | some .sink => return .ok .nowhere
    | some .directory | some (.link _) => return .error .isDirectory
    | some (.file _ executable) =>
      unless append do set { m with files := m.files.put l (.file [] executable) }
      return .ok (.file l)
    | none =>
      set { m with files := m.files.put l (.file [] false) }
      return .ok (.file l)

def readFile (path : Text) : Act (Except Errno Bytes) := do
  let m ← get
  return m.files.read m.here path

def change (call : FileSystem → Location → Except Errno FileSystem) : Act (Option Errno) := do
  let m ← get
  match call m.files m.here with
  | .ok files =>
    set { m with files := files }
    return none
  | .error e => return some e

end Act

end DocPress.Shell
