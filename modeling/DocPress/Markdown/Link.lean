import DocPress.Markdown.Escape
import DocPress.Text.Blank
import DocPress.Text.Caseless
import DocPress.Url.Basic

namespace DocPress.Markdown

def readPointed? (acc : Text) : Nat → Text → Option (Text × Text)
  | 0, _ => none
  | _, [] => none
  | fuel + 1, c :: rest =>
    if c = '\n' ∨ c = '<' then none
    else if c = '>' then some (acc.reverse, rest)
    else if c = '\\' then
      match rest with
      | [] => none
      | d :: rest => readPointed? (d :: c :: acc) fuel rest
    else readPointed? (c :: acc) fuel rest

def maxOpenBrackets : Nat := 32

/-- The text up to a space, a control character or a bracket that closes none of its own. Brackets
must be balanced and not be nested too deeply. -/
def readBare? (acc : Text) : Nat → Nat → Text → Option (Text × Text)
  | 0, _, _ => none
  | _, brackets, [] => if brackets = 0 then some (acc.reverse, []) else none
  | fuel + 1, brackets, c :: rest =>
    let stop := if brackets = 0 then some (acc.reverse, c :: rest) else none
    if c.val ≤ 0x20 || c.val = 0x7F then stop
    else if c = '\\' then
      match rest with
      | [] => readBare? (c :: acc) fuel brackets rest
      | d :: rest' =>
        if d = ' ' then stop else readBare? (d :: c :: acc) fuel brackets rest'
    else if c = '(' then
      if brackets + 1 > maxOpenBrackets then none
      else readBare? (c :: acc) fuel (brackets + 1) rest
    else if c = ')' then
      match brackets with
      | 0 => stop
      | n + 1 => readBare? (c :: acc) fuel n rest
    else readBare? (c :: acc) fuel brackets rest

/-- The destination a text begins with, escapes resolved, and what follows it. -/
def readDestination? (t : Text) : Option (Text × Text) :=
  let raw? := match t with
    | [] => none
    | c :: rest =>
      if c = '<' then readPointed? [] (rest.length + 1) rest
      else (readBare? [] (t.length + 1) 0 t).filter fun (raw, _) => raw ≠ []
  raw?.map fun (raw, rest) => (unescape raw, rest)

def readQuoted? (closing : CodePoint) (acc : Text) : Nat → Text → Option (Text × Text)
  | 0, _ => none
  | _, [] => none
  | fuel + 1, c :: rest =>
    if c = closing then some (acc.reverse, rest)
    else if c = '(' ∧ closing = ')' then none
    else if c = '\\' then
      match rest with
      | [] => none
      | d :: rest => readQuoted? closing (d :: c :: acc) fuel rest
    else readQuoted? closing (c :: acc) fuel rest

/-- The title a text begins with, in quotes or brackets, escapes resolved, and what follows it. -/
def readTitle? (t : Text) : Option (Text × Text) :=
  match t with
  | [] => none
  | c :: rest =>
    if c = '\x22' ∨ c = '\x27' ∨ c = '(' then
      (readQuoted? (if c = '(' then ')' else c) [] (rest.length + 1) rest).map fun (raw, after) =>
        (unescape raw, after)
    else none

/-- Labels are compared without regard to case and to the blanks in them. -/
def normalizeLabel (label : Text) : Text := Text.caseless (Text.collapseBlanks (Text.trim label))

structure Target where
  url : Text
  title : Text
deriving DecidableEq

/-- Normalized labels and their targets. The first definition of a label counts. -/
abbrev Definitions := List (Text × Target)

def isLineSpacing (c : CodePoint) : Bool := c.isSpace || c == '\n'

def readLabel? (acc : Text) : Nat → Text → Option (Text × Text)
  | 0, _ => none
  | _, [] => none
  | fuel + 1, c :: rest =>
    if c = '[' then none
    else if c = ']' then some (acc.reverse, rest)
    else if c = '\\' then
      match rest with
      | [] => none
      | d :: rest => readLabel? (d :: c :: acc) fuel rest
    else readLabel? (c :: acc) fuel rest

def atLineEnd (t : Text) : Bool := t.head?.all (· == ('\n' : CodePoint))

/-- A title after a destination, and what follows it and the spaces after it. Blanks stand before
the title unless it goes over more than one line. A title that is not the end of its line is none,
but an empty one there spoils the definition. -/
def readDefinitionTitle? (t : Text) : Option (Text × Text) :=
  let untitled := some ([], t.dropWhile CodePoint.isSpace)
  let start := t.dropWhile isLineSpacing
  match readTitle? start with
  | none => untitled
  | some (title, rest) =>
    let quoted := start.take (start.length - rest.length)
    if start.length = t.length ∧ ('\n' : CodePoint) ∉ quoted then untitled
    else
      let rest := rest.dropWhile CodePoint.isSpace
      if !atLineEnd rest && !title.isEmpty then untitled else some (title, rest)

/-- The definition at the beginning of the lines of a paragraph, and the number of lines it takes.
-/
def readDefinition? (t : Text) : Option ((Text × Target) × Nat) := do
  let (label, rest) ← readLabel? [] (t.length + 1) (t.drop 1)
  let rest ← Text.after? (text ":") rest
  let rest := rest.dropWhile isLineSpacing
  let line := rest.take ((rest.takeWhile (· ≠ ('\n' : CodePoint))).length + 1)
  let (destination, afterDestination) ← readDestination? line
  let url := Url.normalize destination
  let rest' := rest.drop (line.length - afterDestination.length)
  let (title, rest'') ←
    if afterDestination.isEmpty then some ([], rest') else readDefinitionTitle? rest'
  let endsLine := afterDestination.isEmpty || atLineEnd rest''
  let label := normalizeLabel label
  if Url.isSafe url && endsLine && !label.isEmpty then
    let consumed := t.take (t.length - rest''.length - 1)
    some ((label, ⟨url, title⟩), consumed.count ('\n' : CodePoint) + 1)
  else none

end DocPress.Markdown
