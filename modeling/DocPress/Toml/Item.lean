import DocPress.Toml.Number
import DocPress.Toml.StringItem

namespace DocPress.Toml

/-- The kinds that the items of one array may not mix. -/
inductive Kind where
  | bool
  | int
  | float
  | string
  | array
  | inlineTable
  | clock
  | date
deriving DecidableEq

/-- The pieces outside and inside of quotes, in turn, as far as quotes of both kinds can be told
apart. -/
def mixedSplits : Nat → List Text → List Text → List Text × List Text
  | 0, single, double => (single, double)
  | _, single, [] => (single, [])
  | fuel + 1, single, d :: double =>
    if single.length % 2 = 0 then
      let last := single.getLastD [] ++ Text.doubleQuote :: d
      mixedSplits fuel (single.dropLast ++ Text.splitAt Text.singleQuote last) double
    else (single, d :: double)

def quoteSplits (line : Text) : List Text :=
  let double := Text.splitAt Text.doubleQuote line
  let first := double.headD []
  let (start, double) :=
    if 1 < double.length ∧ Text.singleQuote ∈ first then
      mixedSplits double.length (Text.splitAt Text.singleQuote first) (double.drop 1)
    else ([], double)
  match double with
  | [] => start
  | d :: rest => start ++ Text.splitAt Text.singleQuote d ++ rest

/-- How many times `marker` stands in the pieces before the first unquoted one that holds it. -/
def countBefore (marker : Text) : Bool → List Text → Nat
  | _, [] => 0
  | quoted, piece :: rest =>
    if !quoted && Text.contains marker piece then 0
    else (Text.pieces marker piece).length - 1 + countBefore marker (!quoted) rest

def splitTimes (marker : Text) : Nat → Text → List Text
  | 0, t => [t]
  | n + 1, t =>
    match Text.breakOn marker t with
    | some (before, after) => before :: splitTimes marker n after
    | none => [t]

def comma : Text := text ","

def equals : Text := text "="

/-- Whether a value right after the sign of equality has to be a number or a moment. -/
def isBareValue (t : Text) : Bool :=
  match t with
  | [] => false
  | c :: _ => c ∉ text " \t\x27\x22[\x7b" && t.trim != text "true" && t.trim != text "false"

/-- The parts before the value and the value: cuts at one more sign of equality until what is left
is a number or a moment. -/
def settleValue (line : Text) : Nat → Nat → List Text → Bool → Except Fault (List Text × Bool)
  | 0, _, _, _ => .error .malformed
  | fuel + 1, count, parts, strict =>
    let value := parts.getLastD []
    if !isBareValue value ∨ (float? value).isSome then .ok (parts, strict)
    else do
      let moment ← dateOrBoth value
      if moment.isSome ∨ (clockStart? value).isSome then return (parts, strict)
      let parts' := splitTimes equals (count + 1) line
      if parts'.getLastD [] = value then .error .malformed
      else settleValue line fuel (count + 1) parts' (strict && strictNumber (parts'.getLastD []))

/-- Underscores are dropped from a value that begins with a digit. -/
def dropUnderscores (parts : List Text) : List Text :=
  let value := parts.getLastD []
  if value.head?.any CodePoint.isDigit then
    parts.dropLast ++ [value.filter (· ≠ ('_' : CodePoint))]
  else parts

/-- The key and the value of a line, and whether a number may be read from it. -/
def keyAndValue (line : Text) : Except Fault (Text × Text × Bool) := do
  let count := 1 + countBefore equals false (quoteSplits line)
  let parts := splitTimes equals count line
  let strict := strictNumber (parts.getLastD [])
  let (parts, strict) ← settleValue line (line.length + 1) count (dropUnderscores parts) strict
  return ((Text.join equals parts.dropLast).trim, (parts.getLastD []).trim, strict)

def dropEmptyEnd (levels : List Text) : List Text := (levels.reverse.dropWhile (· = [])).reverse

/-- The parts of a dotted key, from its pieces outside and inside of quotes. -/
def quotedLevels : Bool → List Text → List Text
  | _, [] => []
  | true, piece :: rest => piece :: quotedLevels false rest
  | false, piece :: rest => (Text.splitAt '.' piece).map Text.trim ++ quotedLevels true rest

def keyLevels (key : Text) : List Text :=
  if Text.doubleQuote ∈ key ∨ Text.singleQuote ∈ key then quotedLevels false (quoteSplits key)
  else Text.splitAt '.' key

def keyPath (key : Text) : Except Fault (List Text × Text) :=
  if ('.' : CodePoint) ∈ key then
    match (dropEmptyEnd (keyLevels key)).reverse with
    | [] => .error .noMember
    | last :: above => .ok ((above.reverse.filter (· ≠ [])), last.trim)
  else
    match key.head? with
    | none => .error .noMember
    | some c =>
      if key.getLast? = some c ∧ (c = Text.doubleQuote ∨ c = Text.singleQuote) then
        (unescape (inner 1 key)).map ([], ·)
      else .ok ([], key)

def firstItemIsString (array : Text) : Bool :=
  match (inner 1 array).trim with
  | c :: _ => c == Text.doubleQuote || c == Text.singleQuote
  | [] => false

/-- The last string of an open array: the last piece with as many of those before it, last first, as
it takes to begin with a quote. -/
def lastString : Text → List Text → Except Fault Text
  | piece, [] => .ok piece
  | [], _ :: _ => .error .noMember
  | c :: piece, before :: more =>
    if c = Text.doubleQuote ∨ c = Text.singleQuote then .ok (c :: piece)
    else lastString (before ++ comma ++ c :: piece) more

/-- Whether a value begins a string of many lines that it does not end. -/
def opensString (t : Text) : Except Fault Bool := do
  if t.length < 3 then return false
  let isOpenArray := t.head? == some ('[' : CodePoint) && t.trim.getLast? != some (']' : CodePoint) &&
    firstItemIsString t
  let pieces := (Text.splitAt ',' (Text.trim (t.drop 1))).reverse
  let p ← if isOpenArray then lastString (pieces.headD []) (pieces.drop 1) else pure t
  match p with
  | a :: rest =>
    if a ≠ Text.doubleQuote ∧ a ≠ Text.singleQuote then return false
    match rest with
    | [] => throw .noMember
    | b :: more =>
      if b ≠ a then return false
      match more with
      | [] => throw .noMember
      | c :: _ =>
        if c ≠ a then return false
        return !(5 < p.length && p.drop (p.length - 3) == [a, a, a])
  | [] => throw .noMember

/-- A string of many lines that is open at the end of a line: what there is of it, and whether the
line end is escaped. -/
structure OpenString where
  key : Text
  content : Text
  joined : Bool

def openString (key value : Text) : OpenString :=
  if endsInOddBackslashes value then ⟨key, value.dropLast, true⟩
  else ⟨key, value ++ text "\n", false⟩

def isBoundedString (t : Text) : Bool :=
  match t with
  | [] => true
  | c :: _ =>
    if t.getLast? ≠ some c then false
    else ((t.drop 1).dropLast.reverse.takeWhile (· = backslash)).length % 2 == 0

def isCutString (piece : Text) : Bool :=
  let p := piece.trim
  let quote := p[0]?
  !isBoundedString p ||
    (2 < p.length && p[1]? == quote && p[2]? == quote && p[p.length - 2]? != quote &&
      p[p.length - 3]? != quote)

/-- Puts the pieces of strings with commas in them together again; `joined` tells that the first one
is put together from several. -/
def rejoinStrings : Nat → Bool → List Text → Except Fault (List Text)
  | fuel + 1, _, piece :: next :: rest =>
    if isCutString piece then rejoinStrings fuel true ((piece ++ comma ++ next) :: rest)
    else (rejoinStrings fuel false (next :: rest)).map (piece :: ·)
  | _, joined, pieces => if joined ∧ pieces.any isCutString then .error .noMember else .ok pieces

/-- The end of an inline table in an array: the position behind its closing brace. -/
def tableEnd (array : Text) : Nat → Nat → Bool → Nat → Nat → Option Nat
  | 0, _, _, _, _ => none
  | fuel + 1, i, inString, depth, size =>
    if size ≤ i then none
    else
      let c := array[i]?
      let isQuote := c == some Text.doubleQuote || c == some Text.singleQuote
      let escaped := inString && endsInOddBackslashes (array.take i)
      let inString := if isQuote then (if escaped then inString else !inString) else inString
      let depth := if !inString && c == some ('\x7b' : CodePoint) then depth + 1 else depth
      if inString ∨ c ≠ some ('\x7d' : CodePoint) then tableEnd array fuel (i + 1) inString depth size
      else if 1 < depth then tableEnd array fuel (i + 1) inString (depth - 1) size
      else some (i + 1)

def tablePieces (array : Text) : Nat → Nat → List Text
  | 0, _ => []
  | fuel + 1, start =>
    let size := array.length - 1
    let opened := if start = 1 ∧ array[1]? ≠ some ('\x7b' : CodePoint) then 0 else 1
    match tableEnd array array.length (start + 1) false opened size with
    | none => []
    | some stop =>
      let gap := ((array.drop (stop + 1)).take (size - (stop + 1))).takeWhile (· ≠ ('\x7b' : CodePoint))
      ((array.drop start).take (stop - start)) :: tablePieces array fuel (stop + 1 + gap.length)

/-- Pieces between the commas that stand in no inner array. -/
def arrayPieces : Int → Text → List Text
  | _, [] => [[]]
  | depth, c :: rest =>
    if c = ',' ∧ depth = 0 then [] :: arrayPieces depth rest
    else
      let depth := if c = '[' then depth + 1 else if c = ']' then depth - 1 else depth
      match arrayPieces depth rest with
      | piece :: more => (c :: piece) :: more
      | [] => [[c]]

def itemTexts (array : Text) : Except Fault (List Text) := do
  let a := array.trim
  let body := inner 1 a
  match Text.breakOn (text "[") body with
  | some (before, _) =>
    if before.trim = [] then return arrayPieces 0 body
  | none => pure ()
  let pieces := if body.trim.head? = some ('\x7b' : CodePoint) then tablePieces a a.length 1
    else Text.splitAt ',' body
  if firstItemIsString a then rejoinStrings (body.length + 1) false pieces else return pieces

def isWholeValue (value : Text) : Except Fault Bool :=
  match value with
  | [] => .error .noMember
  | c :: _ =>
    let last := value.getLast?
    .ok ((last == some c && (c == Text.doubleQuote || c == Text.singleQuote)) ||
      c ∈ text "-0123456789" || value == text "true" || value == text "false" ||
      (c == '[' && last == some (']' : CodePoint)) ||
      (c == '\x7b' && last == some ('\x7d' : CodePoint)))

/-- The members of an inline table: pieces between commas, put together until their value is whole.
-/
def memberTexts : Nat → List Text → Except Fault (List Text)
  | 0, _ => .ok []
  | _, [] => .ok []
  | fuel + 1, piece :: rest =>
    match Text.breakOn equals piece with
    | none => .error .malformed
    | some (_, value) => do
      if ← isWholeValue value.trim then return piece :: (← memberTexts fuel rest)
      match rest with
      | next :: more => memberTexts fuel ((piece ++ comma ++ next) :: more)
      | [] => throw .malformed

def inlineMembers (t : Text) : Except Fault (List Text) :=
  match Text.splitAt ',' (inner 1 t) with
  | [piece] => if piece.trim = [] then .ok [] else memberTexts (t.length + 1) [piece]
  | pieces => memberTexts (t.length + 1) pieces

def plainItem (t : Text) (strict : Bool) : Except Fault (Value × Kind) :=
  match clockStart? t with
  | some clock => if clock.isValid then .ok (.moment (.clock clock), .clock) else .error .malformed
  | none => do
    match ← dateOrBoth t with
    | some moment => return (.moment moment, .date)
    | none =>
      if !strict then .error .malformed
      else
        let (negative, body) := splitSign t
        let body := body.filter (· ≠ ('_' : CodePoint))
        let has (c : CodePoint) : Bool := c ∈ body
        let word := Text.toLower body
        let isFloat := has '.' || (!has 'x' && (has 'e' || has 'E'))
        let ofFloat (x : Float) : Value × Kind := (.real (if negative then 0 - x else x), .float)
        if isFloat then
          if (Text.breakOn (text ".") body).any (·.2 = []) then .error .malformed
          else if !(body.head?.any CodePoint.isDigit) then .error .malformed
          else ((float? body).map ofFloat).elim (.error .malformed) .ok
        else if word = text "inf" ∨ word = text "nan" then
          ((float? body).map ofFloat).elim (.error .malformed) .ok
        else
          match int? body with
          | some i => .ok (.int (if negative then -i else i), .int)
          | none => .error .malformed

/-- Walks down to the table that a dotted key names, making what is missing, and changes it. -/
def Table.modifyAt (change : Value → Except Fault Value) : List Text → Value → Except Fault Value
  | [], v => change v
  | level :: rest, .table members => do
    let inner ← modifyAt change rest ((Table.get? members level).getD (.table []))
    return .table (Table.put members level inner)
  | _ :: _, _ => .error .wrongType

def addMember (key : Text) (value : Value) : Value → Except Fault Value
  | .table members =>
    if (Table.get? members key).isSome then .error .malformed
    else .ok (.table (Table.put members key value))
  | _ => .error .malformed

mutual

def readItem : Nat → Text → Bool → Except Fault (Value × Kind)
  | 0, _, _ => .error .malformed
  | fuel + 1, t, strict =>
    if t = text "true" then .ok (.bool true, .bool)
    else if t = text "false" then .ok (.bool false, .bool)
    else if Text.toLower t = text "true" ∨ Text.toLower t = text "false" then .error .malformed
    else
      match t with
      | [] => .error .malformed
      | c :: _ =>
        if c = Text.doubleQuote ∨ c = Text.singleQuote then do
          return (.string (← stringItem c t), .string)
        else if c = '[' then do
          return (.array (← readItems fuel none (← itemTexts t)), .array)
        else if c = '\x7b' then do
          return (← readMembers fuel (← inlineMembers t) (.table []), .inlineTable)
        else plainItem t strict

/-- The items of an array, which are all of one kind; empty places count for nothing. -/
def readItems : Nat → Option Kind → List Text → Except Fault (List Value)
  | 0, _, _ => .error .malformed
  | _, _, [] => .ok []
  | fuel + 1, kind, piece :: rest =>
    if piece.trim = [] then readItems fuel kind rest
    else do
      let (v, k) ← readItem fuel piece.trim true
      if kind.any (· ≠ k) then throw .malformed
      return v :: (← readItems fuel (some k) rest)

/-- Puts the members of an inline table into a table; what follows an open string is dropped. -/
def readMembers : Nat → List Text → Value → Except Fault Value
  | 0, _, _ => .error .malformed
  | _, [], table => .ok table
  | fuel + 1, member :: rest, table => do
    let (table, opened) ← readLine fuel member table
    match opened with
    | none => readMembers fuel rest table
    | some _ => return table

/-- Puts the key and the value of a line into a table, or leaves a string open. The answer also has
the tables made on the way to the key. -/
def readLine : Nat → Text → Value → Except Fault (Value × Option OpenString)
  | 0, _, _ => .error .malformed
  | fuel + 1, line, table => do
    let (key, value, strict) ← keyAndValue line
    let (levels, name) ← keyPath key
    let table ← Table.modifyAt .ok levels table
    if ← opensString value then
      discard (Table.modifyAt (addMember name (.bool true)) levels table)
      return (table, some (openString name value))
    else
      let (v, _) ← readItem fuel value strict
      return (← Table.modifyAt (addMember name v) levels table, none)

end

end DocPress.Toml
