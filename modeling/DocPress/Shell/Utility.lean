import DocPress.Shell.Machine

namespace DocPress.Shell.Utility

def octal (n : Nat) (t : Text) : Nat × Text :=
  let ds := (t.take n).takeWhile fun c => 0x30 ≤ c.val && c.val ≤ 0x37
  (Text.digitsValue 8 ds, t.drop ds.length)

/-- A byte as a code point that is written as that byte. -/
def bytePoint (n : Nat) : CodePoint :=
  let n := n % 256
  if n < 0x80 then .ofNat n else .ofNat (Text.Utf8.escapeBase + n)

def letterEscapes : List (CodePoint × CodePoint) :=
  [('a', '\x07'), ('b', '\x08'), ('f', '\x0c'), ('n', '\n'), ('r', '\r'), ('t', '\t'), ('v', '\x0b'),
    ('\\', '\\')]

/-- The code point of an escape after its backslash. With `leadingZero`, octal digits have a zero
before them. -/
def escape? (leadingZero : Bool) (t : Text) : Option (CodePoint × Text) :=
  match t with
  | [] => none
  | c :: rest =>
    match letterEscapes.lookup c with
    | some e => some (e, rest)
    | none =>
      if leadingZero then
        if c = '0' then
          let (n, rest) := octal 3 rest
          some (bytePoint n, rest)
        else none
      else if 0x30 ≤ c.val && c.val ≤ 0x37 then
        let (n, rest) := octal 3 (c :: rest)
        some (bytePoint n, rest)
      else none

/-- A text with its escapes replaced; one of them ends all output. -/
def unescape (leadingZero : Bool) : Nat → Text → Text × Bool
  | 0, _ => ([], false)
  | _, [] => ([], false)
  | fuel + 1, c :: rest =>
    if c = '\\' then
      if rest.head? = some ('c' : CodePoint) then ([], true)
      else
        match escape? leadingZero rest with
        | some (e, rest) =>
          let (t, stop) := unescape leadingZero fuel rest
          (e :: t, stop)
        | none =>
          let (t, stop) := unescape leadingZero fuel rest
          (c :: t, stop)
    else
      let (t, stop) := unescape leadingZero fuel rest
      (c :: t, stop)

def echo (arguments : List Text) : Act Nat := do
  let plain := arguments.head? = some (text "-n")
  let t := Text.join (text " ") (if plain then arguments.drop 1 else arguments)
  let (t, stop) := unescape true (t.length + 1) t
  Act.emit 1 (if plain || stop then t else t ++ text "\n")
  return 0

def isConversion (c : CodePoint) : Bool := c ∈ text "sdiucbxo%"

def convert (c : CodePoint) (argument : Option Text) : Text :=
  if c = 's' then argument.getD []
  else if c = 'b' then (unescape true ((argument.getD []).length + 1) (argument.getD [])).1
  else if c = 'c' then (argument.getD []).take 1
  else (argument.filter (· ≠ [])).getD (text "0")

/-- A format once through, the arguments that are left, and whether it takes any. -/
def format : Nat → Text → List Text → Bool → Text × List Text × Bool
  | 0, _, arguments, took => ([], arguments, took)
  | _, [], arguments, took => ([], arguments, took)
  | fuel + 1, c :: rest, arguments, took =>
    let continueWith (t rest : Text) (arguments : List Text) (took : Bool) : Text × List Text × Bool :=
      let (more, arguments, took) := format fuel rest arguments took
      (t ++ more, arguments, took)
    if c = '\\' then
      match escape? false rest with
      | some (e, rest) => continueWith [e] rest arguments took
      | none => continueWith [c] rest arguments took
    else if c = '%' then
      match rest with
      | d :: rest' =>
        if d = '%' then continueWith [d] rest' arguments took
        else if isConversion d then
          continueWith (convert d arguments.head?) rest' (arguments.drop 1) true
        else continueWith [c] rest arguments took
      | [] => continueWith [c] rest arguments took
    else continueWith [c] rest arguments took

def formatAll (form : Text) : Nat → List Text → Text
  | 0, _ => []
  | fuel + 1, arguments =>
    let (t, arguments, took) := format (form.length + 1) form arguments false
    if took ∧ arguments ≠ [] then t ++ formatAll form fuel arguments else t

def printf (arguments : List Text) : Act Nat := do
  match arguments with
  | [] => return 2
  | form :: rest =>
    Act.emit 1 (formatAll form (rest.length + 1) rest)
    return 0

def report (name path : Text) (e : Errno) : Act Nat := do
  Act.emit 2 (name ++ text ": " ++ path ++ text ": " ++ text e.message ++ text "\n")
  return 1

/-- The highest status of a call on each argument. -/
def onEach (arguments : List Text) (call : Text → Act Nat) : Act Nat :=
  arguments.foldlM (fun status a => do return max status (← call a)) 0

def cat (arguments : List Text) : Act Nat := do
  let takeInput : Act Nat := do
    let m ← get
    set { m with input := [] }
    Act.emitTo (← Act.target 1) m.input
    return 0
  if arguments = [] then takeInput
  else onEach arguments fun a => do
    if a = text "-" then takeInput
    else match ← Act.readFile a with
      | .ok bytes =>
        Act.emitTo (← Act.target 1) bytes
        return 0
      | .error e => report (text "cat") a e

def splitOptions (arguments : List Text) : Text × List Text :=
  let (options, rest) := arguments.span fun a => a.head? = some ('-' : CodePoint) ∧ 1 < a.length
  (options.flatten, rest)

def changing (name : Text) (a : Text) (call : FileSystem → Location → Except Errno FileSystem) :
    Act Nat := do
  match ← Act.change call with
  | none => return 0
  | some e => report name a e

def rm (arguments : List Text) : Act Nat := do
  let (options, names) := splitOptions arguments
  let forced := ('f' : CodePoint) ∈ options
  let whole := ('r' : CodePoint) ∈ options || ('R' : CodePoint) ∈ options
  onEach names fun a => do
    match ← Act.change (fun fs here => do
      let (l, e) ← fs.find here a false
      if e = .directory ∧ !whole then .error .isDirectory else .ok (fs.erase l)) with
    | none => return 0
    | some e => if forced && e.meansAbsent then return 0 else report (text "rm") a e

def mkdir (arguments : List Text) : Act Nat := do
  let (options, names) := splitOptions arguments
  if ('p' : CodePoint) ∈ options then
    onEach names fun a => do
      let parts := Path.ofText a
      onEach ((List.range parts.parts.length).map fun n =>
          ({ parts with parts := parts.parts.take (n + 1) } : Path).toText) fun path =>
        changing (text "mkdir") path fun fs here =>
          match fs.makeDirectory here path with
          | .error .exists_ => .ok fs
          | r => r
  else onEach names fun a => changing (text "mkdir") a fun fs here => fs.makeDirectory here a

def touch (arguments : List Text) : Act Nat :=
  onEach (splitOptions arguments).2 fun a => changing (text "touch") a fun fs here =>
    match fs.find here a true with
    | .ok _ => .ok fs
    | .error _ => fs.write here a []

/-- Where a file put at `target` goes: into it, if that is a directory. -/
def placeFor (fs : FileSystem) (here : Location) (source target : Text) : Text :=
  match fs.find here target true with
  | .ok (_, .directory) => target ++ text "/" ++ (Path.ofText source).name
  | _ => target

def cp (arguments : List Text) : Act Nat := do
  match (splitOptions arguments).2 with
  | [source, target] => changing (text "cp") source fun fs here => do
    fs.write here (placeFor fs here source target) (← fs.read here source)
  | _ => return 1

def mv (arguments : List Text) : Act Nat := do
  match (splitOptions arguments).2 with
  | [source, target] => changing (text "mv") source fun fs here => do
    let (old, _) ← fs.find here source false
    let new ← fs.locate here (placeFor fs here source target) false
    let moved := fs.entries.filterMap fun (l, e) =>
      if old.isPrefixOf l then some (new ++ l.drop old.length, e) else none
    .ok (moved.foldl (fun fs (l, e) => fs.put l e) (fs.erase old))
  | _ => return 1

def ln (arguments : List Text) : Act Nat := do
  match splitOptions arguments with
  | (options, [source, target]) => changing (text "ln") target fun fs here => do
    let place := placeFor fs here source target
    let fs ← if ('f' : CodePoint) ∈ options then (fs.locate here place false).map fs.erase else .ok fs
    let l ← fs.locate here place false
    if (fs.entryAt l).isSome then .error .exists_
    else if ('s' : CodePoint) ∈ options then .ok (fs.put l (.link source))
    else .ok (fs.put l (← fs.find here source false).2)
  | _ => return 1

def sleep (arguments : List Text) : Act Nat := do
  let seconds (t : Text) : Float :=
    let (whole, rest) := t.span CodePoint.isDigit
    let fraction := (rest.drop 1).takeWhile CodePoint.isDigit
    Float.ofScientific (Text.digitsValue 10 (whole ++ fraction)) true fraction.length
  for a in arguments do Act.wait (seconds a)
  return 0

def signals : List (Text × Nat) :=
  [(text "HUP", 1), (text "INT", 2), (text "QUIT", 3), (text "ABRT", 6), (text "KILL", 9),
    (text "SEGV", 11), (text "PIPE", 13), (text "TERM", 15)]

def signalNumber (t : Text) : Nat :=
  if t ≠ [] ∧ t.all CodePoint.isDigit then Text.digitsValue 10 t else (signals.lookup t).getD 15

/-- Ends the script itself; there are no other processes. -/
def kill (arguments : List Text) : Act Nat := do
  let (signal, numbers) := match arguments with
    | a :: b :: rest =>
      if a = text "-s" then (signalNumber b, rest)
      else if a.head? = some ('-' : CodePoint) then (signalNumber (a.drop 1), b :: rest)
      else (15, a :: b :: rest)
    | rest => (15, rest)
  if numbers.contains (Text.ofNat processNumber) then
    if signal = 0 then return 0 else throw (.killed signal)
  else return 1

def directoryName (t : Text) : Text := (Path.ofText t).parent.toText

def entryOf (path : Text) : Act (Option Entry) := do
  let m ← get
  return (m.files.find m.here path true).toOption.map (·.2)

def holds : Nat → List Text → Act Bool
  | 0, _ => return false
  | fuel + 1, arguments => do
    match arguments with
    | [] => return false
    | [a] => return a ≠ []
    | [op, a] =>
      let is (s : String) : Bool := op == text s
      if is "!" then return a = []
      else if is "-n" then return a ≠ []
      else if is "-z" then return a = []
      else
        match ← entryOf a with
        | none => return false
        | some e =>
          if is "-d" then return e = .directory
          else if is "-f" || is "-x" || is "-s" then
            return match e with
              | .file content executable =>
                is "-f" || (is "-x" && executable) || (is "-s" && content ≠ [])
              | _ => false
          else return true
    | op :: rest =>
      if op = text "!" then return !(← holds fuel rest)
      match arguments with
      | [a, op, b] =>
        let is (s : String) : Bool := op == text s
        let x := Text.digitsValue 10 a
        let y := Text.digitsValue 10 b
        return (is "=" && a == b) || (is "!=" && a != b) || (is "-eq" && x == y) ||
          (is "-ne" && x != y) || (is "-lt" && x < y) || (is "-le" && x ≤ y) ||
          (is "-gt" && x > y) || (is "-ge" && x ≥ y)
      | _ => return false

def test (arguments : List Text) : Act Nat := do
  return if ← holds 16 arguments then 0 else 1

/-- The utilities that are programs, found through the search path. -/
def programs : List (Text × (List Text → Act Nat)) :=
  [(text "cat", cat), (text "rm", rm), (text "mkdir", mkdir), (text "touch", touch), (text "cp", cp),
    (text "mv", mv), (text "ln", ln), (text "sleep", sleep),
    (text "dirname", fun arguments => do
      Act.emit 1 (directoryName (arguments.headD []) ++ text "\n")
      return 0),
    (text "basename", fun arguments => do
      Act.emit 1 ((Path.ofText (arguments.headD [])).name ++ text "\n")
      return 0)]

/-- Those that are part of the command language. -/
def builtins : List (Text × (List Text → Act Nat)) :=
  [(text "echo", echo), (text "printf", printf), (text "kill", kill), (text "test", test),
    (text "[", fun arguments => test arguments.dropLast),
    (text "true", fun _ => return 0), (text "false", fun _ => return 1), (text ":", fun _ => return 0),
    (text "pwd", fun _ => do
      Act.emit 1 (text "/" ++ Text.join (text "/") (← get).here ++ text "\n")
      return 0)]

end DocPress.Shell.Utility
