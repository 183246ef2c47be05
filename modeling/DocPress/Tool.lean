import DocPress.Settings

namespace DocPress.Tool

/-- What is found: a program by its path, or a file that is open under a number. -/
inductive Found where
  | program (path : Text)
  | number (value : Toml.Value)

/-- What was found as a word of a command, which a number is not. -/
def Found.word : Found → Except Fault Text
  | program path => .ok path
  | number _ => .error .wrongType

def Found.shown : Found → Text
  | program path => path
  | number value => value.shown

def isDescriptor (i : Int) : Bool := -2147483648 ≤ i && i ≤ 2147483647

def isProgram (s : Site) (path : Text) : Bool :=
  (s.holds (fun e => match e with
    | .file _ executable => executable
    | _ => false) path).toOption.getD false

def systemPath : Text := text "/bin:/usr/bin"

def directories (w : World) : List Text :=
  match w.variableNamed (text "PATH") with
  | none => Text.splitAt ':' systemPath
  | some [] => []
  | some path => Text.splitAt ':' path

def pathIn (directory name : Text) : Text :=
  if directory = [] ∨ directory.getLast? = some Path.slash then directory ++ name
  else directory ++ text "/" ++ name

/-- The first program of one of the names; a name is looked for everywhere before the next. -/
def search (w : World) (names : List Text) : Option Text :=
  (names.flatMap fun name => (directories w).map (pathIn · name)).find? (isProgram w.toSite)

def openNumber (w : World) (value : Toml.Value) (i : Int) : Option Found :=
  if w.openFiles.any (fun n => (n : Int) = i) then some (.number value) else none

/-- The configured path, if a file is there. A number stands for an open file, and so does what is
true, as one. -/
def configured (w : World) (value : Toml.Value) : Except Fault (Option Found) :=
  if value.isEmpty then .ok none
  else match value with
    | .string path => .ok (if w.hasFile path then some (.program path) else none)
    | .bool _ => .ok (openNumber w value 1)
    | .int i => if isDescriptor i then .ok (openNumber w value i) else .error .tooLarge
    | _ => .error .wrongType

def find (w : World) (value : Toml.Value) (variableName : Text) (names : List Text) :
    Except Fault (Option Found) := do
  match ← configured w value with
  | some found => return found
  | none =>
    match w.variableNamed variableName with
    | some path =>
      if path ≠ [] ∧ w.hasFile path then return some (.program path)
      else return (search w names).map .program
    | none => return (search w names).map .program

def drawer (w : World) (s : Settings) : Except Fault (Option Found) :=
  find w s.drawer (text "MMDC_PATH") [text "mmdc"]

def browserNames : List Text :=
  [text "chromium", text "chromium-browser", text "google-chrome", text "google-chrome-stable"]

def browser (w : World) (s : Settings) : Except Fault (Option Found) :=
  find w s.browser (text "THENER_BROWSER") browserNames

end DocPress.Tool
