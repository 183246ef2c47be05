import DocPress.Shell.Utility

namespace DocPress.Shell

/-- A point of an expanded word, a sign that something quoted stood there, or the end of a field. -/
inductive Atom where
  | point (c : CodePoint) (quoted : Bool)
  | mark
  | gap

def isFieldBlank (c : CodePoint) : Bool := c == ' ' || c == '\t' || c == '\n'

def quotedAtoms (t : Text) : List Atom := .mark :: t.map (.point · true)

/-- What is put in without quotes falls into fields at its blanks. -/
def looseAtoms (t : Text) : List Atom := t.map fun c => if isFieldBlank c then .gap else .point c false

def atomsOf (quoted : Bool) (t : Text) : List Atom := if quoted then quotedAtoms t else looseAtoms t

def pointsOf (atoms : List Atom) : Glob := atoms.filterMap fun a => match a with
  | .point c quoted => some (c, quoted)
  | .gap => some (' ', true)
  | .mark => none

def textOf (atoms : List Atom) : Text := (pointsOf atoms).map (·.1)

/-- The fields between gaps; one without anything in it, not even quotes, is none. -/
def fields (atoms : List Atom) : List Text :=
  let (done, open_) := atoms.foldl (fun (done, open_) a => match a with
    | .gap => (done ++ [open_], [])
    | a => (done, open_ ++ [a])) (([] : List (List Atom)), ([] : List Atom))
  (done ++ [open_]).filterMap fun piece => if piece.isEmpty then none else some (textOf piece)

/-- A value with a change made to it. -/
def changed (change : Change) (value : Option Text) (pattern : Glob) (operand : Text) : Text :=
  let t := value.getD []
  match change with
  | .keep => t
  | .trimStart longest => t.drop ((pattern.startLength longest t).getD 0)
  | .trimEnd longest => t.take (t.length - (pattern.endLength longest t).getD 0)
  | .default ifEmpty => if value.isNone || (ifEmpty && t.isEmpty) then operand else t
  | .alternative ifEmpty => if value.isNone || (ifEmpty && t.isEmpty) then [] else operand

def captured (action : Act Unit) : Act Bytes := do
  let m ← get
  set { m with output := [] }
  Act.redirect 1 .output
  action
  let written := (← get).output
  modify fun now => { now with output := m.output, targets := m.targets }
  return written

/-- Runs an action in a process of its own: only the files, what is written, the status and the time
come back. -/
def detached (action : Act Unit) : Act Unit := do
  let m ← get
  try action catch
    | .exited status => modify fun now => { now with status := status }
    | .killed signal => modify fun now => { now with status := 128 + signal }
    | .late => throw .late
  modify fun now =>
    { m with files := now.files, output := now.output, errors := now.errors, status := now.status,
             elapsed := now.elapsed, input := now.input }

def shellNames : List Text := [text "sh", text "dash", text "bash"]

def interpreterOf? (content : Bytes) : Option Text :=
  match Text.after? (text "#!") (Text.Utf8.decodeLenient content) with
  | none => none
  | some rest =>
    let line := (rest.takeWhile (· ≠ ('\n' : CodePoint))).dropWhile isFieldBlank
    let name := line.takeWhile (!isFieldBlank ·)
    if name = [] then none else some name

/-- The script that starting a program runs, or why it cannot be started. -/
def startable (fs : FileSystem) (here : Location) (path : Text) : Except Errno Text := do
  match ← fs.find here path true with
  | (_, .file content true) =>
    match interpreterOf? content with
    | none => .error .badFormat
    | some interpreter =>
      match ← fs.find here interpreter true with
      | (l, .file _ true) =>
        if shellNames.contains (l.getLastD []) then .ok (Text.Utf8.decodeLenient content)
        else .error .badFormat
      | _ => .error .denied
  | _ => .error .denied

def searchPaths (environment : List (Text × Text)) (name : Text) : List Text :=
  if Path.slash ∈ name then [name]
  else
    let path := (environment.lookup (text "PATH")).getD (text "/bin:/usr/bin")
    (Text.splitAt ':' path).map fun d =>
      if d = [] then name else if d.getLast? = some Path.slash then d ++ name else d ++ text "/" ++ name

/-- Tries the paths in order. An error other than that nothing is there is kept. -/
def startFirst (fs : FileSystem) (here : Location) : Errno → List Text → Except Errno (Text × Text)
  | e, [] => .error e
  | e, path :: rest =>
    match startable fs here path with
    | .ok script => .ok (path, script)
    | .error found =>
      startFirst fs here (if found = .noEntry ∨ found = .notDirectory then e else found) rest

def hasSystemPath (m : Machine) : Bool :=
  (Text.splitAt ':' ((m.environment.lookup (text "PATH")).getD [])).any fun d =>
    d = text "/bin" ∨ d = text "/usr/bin"

def redirectFault (e : Errno) : Text :=
  match e with
  | .noEntry | .notDirectory => text "Directory nonexistent"
  | e => text e.message

def finishedWith (status : Nat) : Act Unit := modify fun m => { m with status := status }

def restoring (action : Act Unit) : Act Unit := do
  let m ← get
  action
  modify fun now => { now with targets := m.targets }

mutual

def expandPiece : Nat → Piece → Act (List Atom)
  | 0, _ => throw .late
  | fuel + 1, piece => do
    match piece with
    | .plain t quoted => return if quoted then quotedAtoms t else t.map (.point · false)
    | .output script quoted =>
      let bytes ← captured (detached (runScript fuel script))
      let t := Text.Utf8.decodeLenient bytes
      return atomsOf quoted ((t.reverse.dropWhile (· = ('\n' : CodePoint))).reverse)
    | .variable name change operand quoted =>
      let atoms ← expandWord fuel operand
      match change with
      | .keep =>
        if name = text "@" ∧ quoted then
          return ((← get).arguments.map quotedAtoms).intersperse [.gap] |>.flatten
        else return atomsOf quoted ((← Act.variable_ name).getD [])
      | change =>
        return atomsOf quoted (changed change (← Act.variable_ name) (pointsOf atoms) (textOf atoms))

def expandWord : Nat → Word → Act (List Atom)
  | 0, _ => throw .late
  | _, [] => return []
  | fuel + 1, piece :: rest => do
    return (← expandPiece fuel piece) ++ (← expandWord fuel rest)

def expandWords : Nat → List Word → Act (List Text)
  | 0, _ => throw .late
  | _, [] => return []
  | fuel + 1, w :: rest => do
    return fields (← expandWord fuel w) ++ (← expandWords fuel rest)

/-- Makes redirections in order; `false` if one fails. -/
def redirectAll : Nat → List Redirection → Act Bool
  | 0, _ => throw .late
  | _, [] => return true
  | fuel + 1, r :: rest => do
    match r with
    | .write descriptor append w =>
      let path := textOf (← expandWord fuel w)
      match ← Act.openFile append path with
      | .ok t => Act.redirect descriptor t
      | .error e =>
        Act.complain (text "cannot create " ++ path ++ text ": " ++ redirectFault e)
        return false
    | .read w =>
      let path := textOf (← expandWord fuel w)
      match ← Act.readFile path with
      | .ok bytes => modify fun m => { m with input := bytes }
      | .error _ =>
        Act.complain (text "cannot open " ++ path ++ text ": No such file")
        return false
    | .copy descriptor w =>
      let source := textOf (← expandWord fuel w)
      if source = text "-" then Act.redirect descriptor .nowhere
      else Act.redirect descriptor (← Act.target (Text.digitsValue 10 source))
    redirectAll fuel rest

def call : Nat → Text → List Text → Act Unit
  | 0, _, _ => throw .late
  | fuel + 1, name, arguments => do
    let is (s : String) : Bool := name == text s
    let m ← get
    if is "exit" then
      throw (.exited ((arguments.head?.map (Text.digitsValue 10)).getD m.status % 256))
    else if is "shift" then
      set { m with arguments := m.arguments.drop ((arguments.head?.map (Text.digitsValue 10)).getD 1) }
      finishedWith 0
    else if is "cd" then
      match m.files.find m.here (arguments.headD (text "/")) true with
      | .ok (l, .directory) => set { m with here := l, status := 0 }
      | _ => finishedWith 2
    else if is "set" || is "export" || is "unset" || is "trap" || is "umask" || is "wait" then
      for a in arguments do
        match Text.breakOn (text "=") a with
        | some (name, value) => Act.assign name value
        | none => pure ()
      finishedWith 0
    else
      match Utility.builtins.lookup name with
      | some utility => finishedWith (← utility arguments)
      | none =>
        match if hasSystemPath m then Utility.programs.lookup name else none with
        | some utility => finishedWith (← utility arguments)
        | none =>
          match startFirst m.files m.here .noEntry (searchPaths m.environment name) with
          | .ok (path, script) => detached do
              modify fun m => { m with name := path, arguments := arguments }
              runScript fuel script
          | .error e =>
            let found := e ≠ .noEntry
            Act.complain (name ++ text ": " ++ text (if found then e.message else "not found"))
            finishedWith (if found then 126 else 127)

def runCommand : Nat → Command → Act Unit
  | 0, _ => throw .late
  | fuel + 1, command => do
    match command with
    | .nothing => pure ()
    | .sequence first second =>
      runCommand fuel first
      runCommand fuel second
    | .both first second =>
      runCommand fuel first
      if (← get).status = 0 then runCommand fuel second
    | .either first second =>
      runCommand fuel first
      if (← get).status ≠ 0 then runCommand fuel second
    | .negation body =>
      runCommand fuel body
      finishedWith (if (← get).status = 0 then 1 else 0)
    | .pipe first second =>
      let bytes ← captured (detached (runCommand fuel first))
      detached do
        modify fun m => { m with input := bytes }
        runCommand fuel second
    | .subshell body => detached (runCommand fuel body)
    | .redirected body rs => restoring do
      if ← redirectAll fuel rs then runCommand fuel body else finishedWith 2
    | .choice condition yes no =>
      runCommand fuel condition
      if (← get).status = 0 then runCommand fuel yes
      else
        finishedWith 0
        runCommand fuel no
    | .loop until_ condition body =>
      runCommand fuel condition
      if ((← get).status = 0) = !until_ then
        runCommand fuel body
        runCommand fuel (.loop until_ condition body)
      else finishedWith 0
    | .each name words body =>
      let items ← match words with
        | some ws => expandWords fuel ws
        | none => pure (← get).arguments
      runEach fuel name items body
    | .cases w arms =>
      let t := textOf (← expandWord fuel w)
      runArms fuel t arms
    | .simple assignments words rs =>
      let before := (← get).environment
      for (name, w) in assignments do
        Act.assign name (textOf (← expandWord fuel w))
      match ← expandWords fuel words with
      | [] =>
        restoring do
          if ← redirectAll fuel rs then finishedWith 0 else throw (.exited 2)
      | name :: arguments =>
        if name = text "exec" then
          if !(← redirectAll fuel rs) then throw (.exited 2)
          match arguments with
          | [] => finishedWith 0
          | program :: rest =>
            call fuel program rest
            throw (.exited (← get).status)
        else
          restoring do
            if ← redirectAll fuel rs then call fuel name arguments
            else if name = text ":" then throw (.exited 2)
            else finishedWith 2
          unless assignments.isEmpty do modify fun m => { m with environment := before }

def runEach : Nat → Text → List Text → Command → Act Unit
  | 0, _, _, _ => throw .late
  | _, _, [], _ => pure ()
  | fuel + 1, name, item :: rest, body => do
    Act.assign name item
    runCommand fuel body
    runEach fuel name rest body

def runArms : Nat → Text → List (List Word × Command) → Act Unit
  | 0, _, _ => throw .late
  | _, _, [] => finishedWith 0
  | fuel + 1, t, (patterns, body) :: rest => do
    let globs ← expandPatterns fuel patterns
    if globs.any (·.accepts t) then
      finishedWith 0
      runCommand fuel body
    else runArms fuel t rest

def expandPatterns : Nat → List Word → Act (List Glob)
  | 0, _ => throw .late
  | _, [] => return []
  | fuel + 1, w :: rest => do
    return pointsOf (← expandWord fuel w) :: (← expandPatterns fuel rest)

def runScript : Nat → Text → Act Unit
  | 0, _ => throw .late
  | fuel + 1, script =>
    match parse? script with
    | some command => runCommand fuel command
    | none => do
      Act.complain (text "Syntax error")
      throw (.exited 2)

end

end DocPress.Shell
