import DocPress.Text.Basic

namespace DocPress.Shell

/-- What is done to the value of a variable where it is put in. -/
inductive Change where
  | keep
  /-- Without a start or an end that a pattern matches, the shortest or the longest. -/
  | trimStart (longest : Bool)
  | trimEnd (longest : Bool)
  /-- Another value where there is none, or where it is empty too. -/
  | default (ifEmpty : Bool)
  | alternative (ifEmpty : Bool)

inductive Piece where
  | plain (t : Text) (quoted : Bool)
  | variable (name : Text) (change : Change) (operand : List Piece) (quoted : Bool)
  | output (script : Text) (quoted : Bool)

abbrev Word := List Piece

inductive Redirection where
  | read (word : Word)
  | write (descriptor : Nat) (append : Bool) (word : Word)
  | copy (descriptor : Nat) (word : Word)

inductive Command where
  | simple (assignments : List (Text × Word)) (words : List Word) (redirections : List Redirection)
  | redirected (body : Command) (redirections : List Redirection)
  | nothing
  | sequence (first second : Command)
  | both (first second : Command)
  | either (first second : Command)
  | negation (body : Command)
  | pipe (first second : Command)
  | subshell (body : Command)
  | choice (condition yes no : Command)
  | loop (until_ : Bool) (condition body : Command)
  | each (name : Text) (words : Option (List Word)) (body : Command)
  | cases (word : Word) (arms : List (List Word × Command))

inductive Token where
  | word (w : Word)
  | operator (t : Text)
  /-- A redirection operator and the descriptor before it. -/
  | redirect (t : Text) (descriptor : Option Nat)
  | newline

def isNameStart (c : CodePoint) : Bool := c.isLetter || c == '_'

def isNamePoint (c : CodePoint) : Bool := c.isAlphanumeric || c == '_'

def specialNames : Text := text "@*#?$!-"

def operators : List Text :=
  ["&&", "||", ";;", ";", "&", "|", "(", ")"].map text

def redirectOperators : List Text := [">>", ">&", ">|", ">", "<&", "<"].map text

def isOperatorPoint (c : CodePoint) : Bool := c ∈ text ";&|()<>"

/-- The text up to the parenthesis that closes one that is open, and what follows it. -/
def readParenthesis : Nat → Nat → Text → Option (Text × Text)
  | 0, _, _ => none
  | _, _, [] => none
  | fuel + 1, depth, c :: rest =>
    if c = ')' ∧ depth = 0 then some ([], rest)
    else
      let depth := if c = '(' then depth + 1 else if c = ')' then depth - 1 else depth
      (readParenthesis fuel depth rest).map fun (t, rest) => (c :: t, rest)

/-- A change after the name of a variable in braces, and what follows it. -/
def readChange : Text → Change × Text
  | c :: d :: rest =>
    if c = '#' ∧ d = '#' then (.trimStart true, rest)
    else if c = '%' ∧ d = '%' then (.trimEnd true, rest)
    else if c = ':' ∧ d = '-' then (.default true, rest)
    else if c = ':' ∧ d = '+' then (.alternative true, rest)
    else if c = '#' then (.trimStart false, d :: rest)
    else if c = '%' then (.trimEnd false, d :: rest)
    else if c = '-' then (.default false, d :: rest)
    else if c = '+' then (.alternative false, d :: rest)
    else (.keep, c :: d :: rest)
  | t => (.keep, t)

mutual

def readDollar : Nat → Bool → Text → Option (Piece × Text)
  | 0, _, _ => none
  | fuel + 1, quoted, t =>
    match t with
    | [] => some (.plain (text "$") quoted, [])
    | c :: rest =>
      if c = '(' then
        (readParenthesis rest.length 0 rest).map fun (script, rest) => (.output script quoted, rest)
      else if c = '\x7b' then do
        let (name, rest) := match rest with
          | d :: more =>
            if d ∈ specialNames ∧ (d ≠ '#' ∨ more.head? = some ('\x7d' : CodePoint)) then ([d], more)
            else rest.span isNamePoint
          | [] => ([], [])
        let (change, rest) := readChange rest
        let (operand, rest) ← readPieces fuel false ('\x7d' : CodePoint) rest
        return (.variable name change operand quoted, rest)
      else if c ∈ specialNames ∨ c.isDigit then some (.variable [c] .keep [] quoted, rest)
      else if isNameStart c then
        let (name, rest) := (c :: rest).span isNamePoint
        some (.variable name .keep [] quoted, rest)
      else some (.plain (text "$") quoted, c :: rest)

/-- Pieces up to a closing code point that stands outside of quotes. -/
def readPieces : Nat → Bool → CodePoint → Text → Option (Word × Text)
  | 0, _, _, _ => none
  | _, _, _, [] => none
  | fuel + 1, quoted, close, c :: rest => do
    if c = close then return ([], rest)
    let (piece, rest) ←
      if c = '$' then readDollar fuel quoted rest
      else if c = '\\' then
        match rest with
        | [] => some (Piece.plain (text "\\") quoted, [])
        | d :: rest =>
          if !quoted ∨ d ∈ text "$\x22\x60\\" ∨ d = close then some (.plain [d] true, rest)
          else if d = '\n' then some (.plain [] true, rest)
          else some (.plain [c, d] true, rest)
      else if c = '\x27' ∧ !quoted then
        let (t, rest) := rest.span (· ≠ ('\x27' : CodePoint))
        some (.plain t true, rest.drop 1)
      else some (.plain [c] quoted, rest)
    let (pieces, rest) ← readPieces fuel quoted close rest
    return (piece :: pieces, rest)

end

def readWord : Nat → Text → Option (Word × Text)
  | 0, _ => none
  | _, [] => some ([], [])
  | fuel + 1, c :: rest =>
    if c = ' ' ∨ c = '\t' ∨ c = '\n' ∨ isOperatorPoint c then some ([], c :: rest)
    else do
      let (pieces, rest) ←
        if c = '\x27' then
          let (t, rest) := rest.span (· ≠ ('\x27' : CodePoint))
          some ([Piece.plain t true], rest.drop 1)
        else if c = '\x22' then
          (readPieces fuel true '\x22' rest).map fun (w, rest) => (Piece.plain [] true :: w, rest)
        else if c = '\\' then
          match rest with
          | [] => some ([Piece.plain (text "\\") true], [])
          | d :: rest => some ([Piece.plain (if d = '\n' then [] else [d]) (d ≠ '\n')], rest)
        else if c = '$' then (readDollar fuel false rest).map fun (p, rest) => ([p], rest)
        else some ([Piece.plain [c] false], rest)
      let (more, rest) ← readWord fuel rest
      return (pieces ++ more, rest)

def readOperator? (choices : List Text) (t : Text) : Option (Text × Text) :=
  choices.findSome? fun op => (Text.after? op t).map (op, ·)

/-- The descriptor that a word of digits right before a redirection names. -/
def descriptorOf? (w : Word) : Option Nat :=
  let digits? : Option Text := w.foldlM (fun acc p => match p with
    | .plain t false => some (acc ++ t)
    | _ => none) []
  digits?.bind fun t => if t ≠ [] ∧ t.all CodePoint.isDigit then some (Text.digitsValue 10 t) else none

def tokens : Nat → Text → Option (List Token)
  | 0, _ => none
  | _, [] => some []
  | fuel + 1, c :: rest =>
    if c = ' ' ∨ c = '\t' then tokens fuel rest
    else if c = '\n' then (tokens fuel rest).map (.newline :: ·)
    else if c = '#' then tokens fuel (rest.dropWhile (· ≠ ('\n' : CodePoint)))
    else
      match readOperator? redirectOperators (c :: rest) with
      | some (op, rest) => (tokens fuel rest).map (.redirect op none :: ·)
      | none =>
        match readOperator? operators (c :: rest) with
        | some (op, rest) => (tokens fuel rest).map (.operator op :: ·)
        | none => do
          let (w, rest) ← readWord (2 * rest.length + 4) (c :: rest)
          match descriptorOf? w, readOperator? redirectOperators rest with
          | some n, some (op, rest) => return .redirect op (some n) :: (← tokens fuel rest)
          | _, _ => return .word w :: (← tokens fuel rest)

def bareText? (w : Word) : Option Text :=
  w.foldlM (fun acc p => match p with
    | .plain t false => some (acc ++ t)
    | _ => none) []

def isReserved (s : String) : Token → Bool
  | .word w => bareText? w == some (text s)
  | _ => false

def isOperator (s : String) : Token → Bool
  | .operator t => t == text s
  | _ => false

def skipNewlines : List Token → List Token
  | .newline :: rest => skipNewlines rest
  | ts => ts

def assignment? (w : Word) : Option (Text × Word) :=
  let rec go (name : Text) : Word → Option (Text × Word)
    | .plain [c] false :: rest =>
      if c = '=' ∧ name ≠ [] then some (name, rest)
      else if isNamePoint c ∧ (name ≠ [] ∨ isNameStart c) then go (name ++ [c]) rest
      else none
    | _ => none
  go [] w

def readRedirection? : List Token → Option (Redirection × List Token)
  | .redirect op descriptor :: .word w :: rest =>
    let is (s : String) : Bool := op == text s
    let target := descriptor.getD 1
    if is "<" then some (.read w, rest)
    else if is "<&" then some (.copy (descriptor.getD 0) w, rest)
    else if is ">&" then some (.copy target w, rest)
    else some (.write target (is ">>") w, rest)
  | _ => none

def readRedirections : Nat → List Token → List Redirection × List Token
  | 0, ts => ([], ts)
  | fuel + 1, ts =>
    match readRedirection? ts with
    | some (r, rest) =>
      let (more, rest) := readRedirections fuel rest
      (r :: more, rest)
    | none => ([], ts)

structure SimpleParts where
  assignments : List (Text × Word)
  words : List Word
  redirections : List Redirection

def readSimple : Nat → SimpleParts → List Token → SimpleParts × List Token
  | 0, parts, ts => (parts, ts)
  | fuel + 1, parts, ts =>
    match readRedirection? ts with
    | some (r, rest) =>
      readSimple fuel { parts with redirections := parts.redirections ++ [r] } rest
    | none =>
      match ts with
      | .word w :: rest =>
        match if parts.words.isEmpty then assignment? w else none with
        | some a => readSimple fuel { parts with assignments := parts.assignments ++ [a] } rest
        | none => readSimple fuel { parts with words := parts.words ++ [w] } rest
      | _ => (parts, ts)

def expect (s : String) (ts : List Token) : Option (List Token) :=
  match skipNewlines ts with
  | t :: rest => if isReserved s t || isOperator s t then some rest else none
  | [] => none

def endsList (t : Token) : Bool :=
  ["then", "else", "elif", "fi", "do", "done", "esac", "\x7d"].any (isReserved · t) ||
    isOperator ")" t || isOperator ";;" t

def readPatterns : Nat → List Token → Option (List Word × List Token)
  | 0, _ => none
  | fuel + 1, .word w :: t :: rest =>
    if isOperator ")" t then some ([w], rest)
    else if isOperator "|" t then (readPatterns fuel rest).map fun (ws, rest) => (w :: ws, rest)
    else none
  | _, _ => none

def readWords : List Token → List Word × List Token
  | .word w :: rest =>
    let (ws, rest) := readWords rest
    (w :: ws, rest)
  | ts => ([], ts)

mutual

def readList : Nat → List Token → Option (Command × List Token)
  | 0, _ => none
  | fuel + 1, ts =>
    match skipNewlines ts with
    | [] => some (.nothing, [])
    | t :: rest =>
      if endsList t then some (.nothing, t :: rest)
      else do
        let (first, rest) ← readAndOr fuel (t :: rest)
        let rest := match rest with
          | u :: more => if isOperator ";" u || isOperator "&" u then more else u :: more
          | [] => []
        let (second, rest) ← readList fuel rest
        return (.sequence first second, rest)

def readAndOr : Nat → List Token → Option (Command × List Token)
  | 0, _ => none
  | fuel + 1, ts => do
    let (first, rest) ← readPipeline fuel ts
    readAndOrRest fuel first rest

/-- The operators are of one rank and are taken from the left. -/
def readAndOrRest : Nat → Command → List Token → Option (Command × List Token)
  | 0, _, _ => none
  | fuel + 1, first, ts =>
    match ts with
    | t :: rest =>
      if isOperator "&&" t then do
        let (second, rest) ← readPipeline fuel (skipNewlines rest)
        readAndOrRest fuel (.both first second) rest
      else if isOperator "||" t then do
        let (second, rest) ← readPipeline fuel (skipNewlines rest)
        readAndOrRest fuel (.either first second) rest
      else some (first, ts)
    | [] => some (first, [])

def readPipeline : Nat → List Token → Option (Command × List Token)
  | 0, _ => none
  | fuel + 1, ts =>
    match ts with
    | t :: rest =>
      if isReserved "!" t then do
        let (body, rest) ← readPipeline fuel rest
        return (.negation body, rest)
      else do
        let (first, rest) ← readCommand fuel ts
        match rest with
        | u :: more =>
          if isOperator "|" u then do
            let (second, rest) ← readPipeline fuel (skipNewlines more)
            return (.pipe first second, rest)
          else return (first, rest)
        | [] => return (first, [])
    | [] => none

def readCommand : Nat → List Token → Option (Command × List Token)
  | 0, _ => none
  | _, [] => none
  | fuel + 1, t :: rest =>
    let withRedirections (body : Command) (rest : List Token) : Command × List Token :=
      let (rs, rest) := readRedirections rest.length rest
      (if rs.isEmpty then body else .redirected body rs, rest)
    if isReserved "\x7b" t then do
      let (body, rest) ← readList fuel rest
      return withRedirections body (← expect "\x7d" rest)
    else if isOperator "(" t then do
      let (body, rest) ← readList fuel rest
      return withRedirections (.subshell body) (← expect ")" rest)
    else if isReserved "if" t then do
      let (body, rest) ← readChoice fuel rest
      return withRedirections body rest
    else if isReserved "while" t || isReserved "until" t then do
      let (condition, rest) ← readList fuel rest
      let (body, rest) ← readList fuel (← expect "do" rest)
      return withRedirections (.loop (isReserved "until" t) condition body) (← expect "done" rest)
    else if isReserved "for" t then
      match rest with
      | .word w :: rest => do
        let name ← bareText? w
        let (words, rest) := match skipNewlines rest with
          | u :: more =>
            if isReserved "in" u then
              let (ws, rest) := readWords more
              (some ws, rest)
            else (none, rest)
          | [] => (none, rest)
        let rest := match rest with
          | u :: more => if isOperator ";" u then more else u :: more
          | [] => []
        let (body, rest) ← readList fuel (← expect "do" rest)
        return withRedirections (.each name words body) (← expect "done" rest)
      | _ => none
    else if isReserved "case" t then
      match rest with
      | .word w :: rest => do
        let (arms, rest) ← readArms fuel (← expect "in" rest)
        return withRedirections (.cases w arms) rest
      | _ => none
    else
      let (parts, rest') := readSimple (rest.length + 1) ⟨[], [], []⟩ (t :: rest)
      if parts.words.isEmpty && parts.assignments.isEmpty && parts.redirections.isEmpty then none
      else some (.simple parts.assignments parts.words parts.redirections, rest')

def readChoice : Nat → List Token → Option (Command × List Token)
  | 0, _ => none
  | fuel + 1, ts => do
    let (condition, rest) ← readList fuel ts
    let (yes, rest) ← readList fuel (← expect "then" rest)
    match skipNewlines rest with
    | t :: rest =>
      if isReserved "elif" t then
        let (no, rest) ← readChoice fuel rest
        return (.choice condition yes no, rest)
      else if isReserved "else" t then
        let (no, rest) ← readList fuel rest
        return (.choice condition yes no, ← expect "fi" rest)
      else if isReserved "fi" t then return (.choice condition yes .nothing, rest)
      else none
    | [] => none

def readArms : Nat → List Token → Option (List (List Word × Command) × List Token)
  | 0, _ => none
  | fuel + 1, ts =>
    match skipNewlines ts with
    | [] => none
    | t :: rest =>
      if isReserved "esac" t then some ([], rest)
      else do
        let start := if isOperator "(" t then rest else t :: rest
        let (patterns, rest) ← readPatterns start.length start
        let (body, rest) ← readList fuel rest
        let rest := match skipNewlines rest with
          | u :: more => if isOperator ";;" u then more else u :: more
          | [] => []
        let (arms, rest) ← readArms fuel rest
        return ((patterns, body) :: arms, rest)

end

def parse? (script : Text) : Option Command := do
  let ts ← tokens (script.length + 1) script
  match ← readList (4 * ts.length + 8) ts with
  | (command, []) => return command
  | _ => none

end DocPress.Shell
