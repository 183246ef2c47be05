import DocPress.Text.Alphanumeric
import DocPress.Text.Blank
import DocPress.Toml.Basic

namespace DocPress.Toml

inductive KeyState where
  | outside
  | inside
  /-- After a key, or between the parts of a dotted one. -/
  | behind
deriving DecidableEq

structure Scan where
  cells : Array CodePoint
  openArrays : Int
  inString : Bool
  quote : Option CodePoint
  multiline : Bool
  inHeader : Bool
  inArrayHeader : Bool
  lineStart : Bool
  inComment : Bool
  key : KeyState
  dotted : Bool
deriving DecidableEq

namespace Scan

def start (t : Text) : Scan :=
  { cells := t.toArray, openArrays := 0, inString := false, quote := none, multiline := false,
    inHeader := false, inArrayHeader := false, lineStart := true, inComment := false,
    key := .outside, dotted := false }

/-- The code point at a position; those before the first are counted from the end. -/
def at? (s : Scan) (i : Int) : Option CodePoint :=
  if 0 ≤ i then s.cells[i.toNat]? else
    if i.natAbs ≤ s.cells.size then s.cells[s.cells.size - i.natAbs]? else none

def put (s : Scan) (i : Int) (c : CodePoint) : Scan :=
  let place := if 0 ≤ i then i.toNat else s.cells.size - i.natAbs
  { s with cells := s.cells.setIfInBounds place c }

/-- How often `c` stands right before a position, at most twice. -/
def countBefore (s : Scan) (i : Int) (c : CodePoint) : Nat :=
  if s.at? (i - 1) ≠ some c then 0 else if s.at? (i - 2) ≠ some c then 1 else 2

/-- Whether an odd number of backslashes stands right before a position. -/
def escapedFuel (s : Scan) : Nat → Int → Bool
  | 0, _ => false
  | fuel + 1, i => if s.at? (i - 1) = some '\\' then !escapedFuel s fuel (i - 1) else false

def isEscaped (s : Scan) (i : Int) : Bool := escapedFuel s (2 * s.cells.size + 2) i

/-- A quote opens or closes a string, the third in a row one of many lines. -/
def toggle (s : Scan) (c : CodePoint) (triple : Bool) : Scan :=
  let s := if triple then { s with multiline := !s.multiline, inString := !s.multiline }
    else { s with inString := !s.inString }
  { s with quote := if s.inString then some c else none }

def singleQuote (s : Scan) (i : Nat) : Scan :=
  s.toggle Text.singleQuote (s.countBefore i Text.singleQuote = 2)

def doubleQuote (s : Scan) (i : Nat) : Scan :=
  let quotes := s.countBefore i Text.doubleQuote
  let escaped := quotes ≠ 1 && s.isEscaped ((i : Int) - quotes)
  if escaped then
    { s with quote := if s.inString then some Text.doubleQuote else none }
  else s.toggle Text.doubleQuote (quotes = 2)

/-- Between the parts of a key, the next one may begin right after position `i`. -/
def awaitPart (s : Scan) (i : Nat) : Except Fault Scan :=
  match s.at? (i + 1) with
  | none => .error .noMember
  | some next => .ok (if !next.isBlank && next != '.' then { s with key := .inside } else s)

/-- One code point of a key, or the sign of equality after it. The answer tells whether there is
more to do with the code point. -/
def keyStep (s : Scan) (i : Nat) (c : CodePoint) : Except Fault (Scan × Bool) := do
  if c = '\n' then throw .malformed
  else if s.inString then
    if s.quote = some c then return ({ s with inString := false, quote := none, key := .behind }, false)
    else return (s, false)
  else if s.key = .inside ∧ c.isBlank then return ({ s with key := .behind }, false)
  else if s.key = .inside ∧ c = '.' then return ({ s with dotted := true }, false)
  else if s.key = .inside ∧ (c.isLetterOrNumeral || c == '_' || c == '-') then return (s, false)
  else if s.key = .inside ∧ s.dotted ∧ s.at? ((i : Int) - 1) = some '.' ∧
      (c = Text.doubleQuote ∨ c = Text.singleQuote) then
    return ({ s with inString := true, quote := some c }, false)
  else if s.key = .behind ∧ c.isBlank then
    if s.dotted then return (← s.awaitPart i, false) else return (s, false)
  else if s.key = .behind ∧ c = '.' then return (← awaitPart { s with dotted := true } i, false)
  else if c = '=' then return ({ s with key := .outside, dotted := false }, true)
  else throw .malformed

def bracketOpens (s : Scan) (i : Nat) : Scan :=
  if s.lineStart then
    if s.at? (i + 1) = some '[' then { s with inArrayHeader := true } else { s with inHeader := true }
  else { s with openArrays := s.openArrays + 1 }

def bracketCloses (s : Scan) (i : Nat) : Scan :=
  if s.inHeader then { s with inHeader := false }
  else if s.inArrayHeader then
    if s.at? ((i : Int) - 1) = some ']' then { s with inArrayHeader := false } else s
  else { s with openArrays := s.openArrays - 1 }

/-- The newline right after the quotes that open a string is not part of it. -/
def newlineInString (s : Scan) (i : Nat) : Except Fault Scan :=
  match s.at? ((i : Int) - 1), s.at? ((i : Int) - 2), s.at? ((i : Int) - 3) with
  | some a, some b, some c =>
    if (a = Text.singleQuote ∨ a = Text.doubleQuote) ∧ b = a then
      let s := s.put i a
      .ok (if c = a then s.put ((i : Int) - 3) ' ' else s)
    else .ok s
  | _, _, _ => .error .noMember

def newline (s : Scan) (i : Nat) : Except Fault Scan :=
  if s.inString ∨ s.multiline then
    if s.multiline then s.newlineInString i else .error .malformed
  else if s.openArrays ≠ 0 then .ok (s.put i ' ')
  else .ok { s with lineStart := true }

/-- What a code point that is not part of a key does. -/
def valueStep (s : Scan) (i : Nat) (c : CodePoint) : Except Fault Scan := do
  let s := if c = Text.singleQuote ∧ s.quote ≠ some Text.doubleQuote then s.singleQuote i else s
  let s := if c = Text.doubleQuote ∧ s.quote ≠ some Text.singleQuote then s.doubleQuote i else s
  let isFree := !s.inString && !s.inHeader && !s.inArrayHeader
  let startsComment := c == '#' && isFree
  let s := if startsComment then { s.put i ' ' with inComment := true } else s
  let s := if c = '[' ∧ isFree then s.bracketOpens i else s
  let s := if c = ']' ∧ !s.inString then s.bracketCloses i else s
  if c = '\n' then s.newline i
  else if s.lineStart ∧ !startsComment ∧ c ≠ ' ' ∧ c ≠ '\t' then
    if s.inHeader ∨ s.inArrayHeader then return { s with lineStart := false }
    else if c = '=' then throw .malformed
    else return { s with lineStart := false, key := .inside }
  else return s

def step (s : Scan) (i : Nat) : Except Fault Scan :=
  match s.cells[i]? with
  | none => .ok s
  | some c =>
    if s.inComment ∧ c ≠ '\n' then .ok (s.put i ' ')
    else
      let s := { s with inComment := false }
      if s.key = .outside then s.valueStep i c
      else do
        let (s, more) ← s.keyStep i c
        if more then s.valueStep i c else return s

end Scan

def logicalLines (t : Text) : Except Fault (List Text) := do
  let s ← (List.range t.length).foldlM Scan.step (Scan.start t)
  if s.key ≠ .outside ∨ s.inString then throw .malformed
  return Text.splitAt '\n' s.cells.toList

end DocPress.Toml
