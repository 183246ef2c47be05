import DocPress.Json.Reader
import DocPress.Toml.Basic

namespace DocPress.Toml

/-- The text between the quotes, with double quotes escaped instead of single ones. -/
def escapedBody (t : Text) : Text :=
  let body := ((t.quoted).drop 1).dropLast
  if Text.quoteFor t = Text.singleQuote then
    Text.substitute (text "\x22") (text "\\\x22") (Text.substitute (text "\\\x27") (text "\x27") body)
  else body

/-- Every pair of backslashes becomes one, and what stood between the text and the next piece is put
back: the end of a numeric escape, or only its letter. -/
def gluing (t : Text) : Text :=
  let t := Text.substitute (text "\\\\") (text "\\") t
  let trailing := (t.reverse.takeWhile (· = ('\\' : CodePoint))).length
  let counted := if trailing = t.length then trailing - 1 else trailing
  t ++ if trailing = 0 ∨ counted % 2 = 1 then text "x" else text "u00"

/-- Joins the pieces between two-digit escapes; an empty first piece is passed over. -/
def joinEscapes : Text → List Text → Except Fault Text
  | t, [] => .ok t
  | [], [_] => .error .noMember
  | [], next :: third :: rest =>
    if next = [] then .error .noMember else joinEscapes (gluing next ++ third) rest
  | c :: t, next :: rest => joinEscapes (gluing (c :: t) ++ next) rest

def writeString (t : Text) : Except Fault Text := do
  let pieces := Text.pieces (text "\\x") (escapedBody t)
  return text "\x22" ++ (← joinEscapes (pieces.headD []) (pieces.drop 1)) ++ text "\x22"

/-- A number that has too many digits is not written. -/
def isShortInt (i : Int) : Bool := (Text.ofNat i.natAbs).length ≤ Json.maxIntegerDigits

def writeInt (i : Int) : Except Fault Text :=
  if isShortInt i then .ok (Text.ofInt i) else .error .malformed

def minutesInDay : Nat := 24 * 60

/-- Less than a day from the common clock. -/
def Moment.isNear : Moment → Bool
  | both _ _ (some minutes) => minutes.natAbs < minutesInDay
  | _ => true

/-- A moment in a file; the common clock is `Z`. -/
def writeMoment (m : Moment) : Except Fault Text :=
  if m.isNear then .ok (Text.substitute (text "+00:00") (text "Z") (m.write (text "T")))
  else .error .malformed

def isBareKeyPoint (c : CodePoint) : Bool := c.isAlphanumeric || c == '_' || c == '-'

/-- A key is quoted unless it has only letters, digits, `_` and `-`; a newline may end it. -/
def writeKey (key : Text) : Except Fault Text :=
  let body := if key.getLast? = some ('\n' : CodePoint) then key.dropLast else key
  if body ≠ [] ∧ body.all isBareKeyPoint then .ok key else writeString key

mutual

/-- A table inside an array counts as the array of its keys. -/
def writeValue : Value → Except Fault Text
  | .bool b => .ok (if b then text "true" else text "false")
  | .int i => writeInt i
  | .real x => .ok (Decimal.storedNumber.write x)
  | .string t => writeString t
  | .moment m => writeMoment m
  | .array items => do return text "[" ++ (← writeItems items) ++ text "]"
  | .table members => do return text "[" ++ (← writeKeys members) ++ text "]"

def writeItems : List Value → Except Fault Text
  | [] => .ok []
  | v :: rest => do return text " " ++ (← writeValue v) ++ text "," ++ (← writeItems rest)

def writeKeys : List (Text × Value) → Except Fault Text
  | [] => .ok []
  | (k, _) :: rest => do return text " " ++ (← writeString k) ++ text "," ++ (← writeKeys rest)

end

mutual

/-- Whether no number in a value has too many digits. -/
def Value.isShort : Value → Bool
  | .int i => isShortInt i
  | .array items => areShortItems items
  | .table members => areShortMembers members
  | _ => true

def areShortItems : List Value → Bool
  | [] => true
  | v :: rest => v.isShort && areShortItems rest

def areShortMembers : List (Text × Value) → Bool
  | [] => true
  | (_, v) :: rest => v.isShort && areShortMembers rest

end

def asKey : Value → Except Fault Text
  | .string t => .ok t
  | .moment m => writeMoment m
  | v => if v.isShort then .ok v.shown else .error .malformed

/-- An item of an array, taken as a table. What has nothing in it is an empty one; what has something
in it has no members under names, which shows when the first of them is looked for. -/
def itemTable : Value → Except Fault Table
  | .table members => .ok members
  | .string [] | .array [] => .ok []
  | .string (c :: _) => do
    let _ ← writeKey [c]
    .error .wrongType
  | .array (v :: _) => do
    let _ ← writeKey (← asKey v)
    .error .wrongType
  | _ => .error .wrongType

mutual

/-- More than the depth of a value. -/
def Value.size : Value → Nat
  | .array items => sizeItems items + 1
  | .table members => sizeMembers members + 1
  | _ => 1

def sizeItems : List Value → Nat
  | [] => 0
  | v :: rest => v.size + sizeItems rest

def sizeMembers : List (Text × Value) → Nat
  | [] => 0
  | (_, v) :: rest => v.size + sizeMembers rest

end

abbrev Sections := List (Text × Table)

def putSection (name : Text) (t : Table) : Sections → Sections
  | [] => [(name, t)]
  | (k, old) :: rest => if k = name then (k, t) :: rest else (k, old) :: putSection name t rest

/-- What is written of a table: its plain members, its arrays of tables, and the tables in it. -/
structure Written where
  plain : Text
  arrays : Text
  sections : Sections

def Written.body (w : Written) : Text := w.plain ++ w.arrays

def header (name : Text) : Text := text "[" ++ name ++ text "]\n"

/-- The tables inside of tables of an array, level by level; `write` writes one of them. -/
def writeInner (write : Text → Table → Except Fault Written) (above : Text) :
    Nat → Sections → Except Fault Text
  | 0, _ => .ok []
  | fuel + 1, sections => do
    let written ← sections.mapM fun (name, t) => do
      return (name, ← write (above ++ text "." ++ name) t)
    let here := written.flatMap fun (name, w) =>
      if w.body = [] then [] else header (above ++ text "." ++ name) ++ w.body
    let deeper := written.foldl (fun acc (name, w) =>
      w.sections.foldl (fun acc (inner, t) => putSection (name ++ text "." ++ inner) t acc) acc) []
    if deeper = [] then return here else return here ++ (← writeInner write above fuel deeper)

def tablesOf (items : List Value) : List Table :=
  items.filterMap fun v => match v with
    | .table members => some members
    | _ => none

/-- Writes what belongs under the header `above`. An array with a table in it is one of tables. -/
def writeTable : Nat → Text → Table → Except Fault Written
  | 0, _, _ => .ok ⟨[], [], []⟩
  | fuel + 1, above, t =>
    let within := if above = [] ∨ above.getLast? = some ('.' : CodePoint) then above
      else above ++ text "."
    t.foldlM (fun (w : Written) (name, v) => do
      let key ← writeKey name
      match v with
      | .table members => return { w with sections := putSection key members w.sections }
      | .array items =>
        if tablesOf items = [] then
          return { w with plain := w.plain ++ key ++ text " = " ++ (← writeValue v) ++ text "\n" }
        else
          let tables ← items.mapM fun item => do
            let inner ← writeTable fuel (within ++ key) (← itemTable item)
            let deeper ← writeInner (writeTable fuel) (within ++ key) fuel inner.sections
            let opening := text "[[" ++ within ++ key ++ text "]]\n"
            let body := inner.body
            if body.head? = some ('[' : CodePoint) then return opening ++ text "\n" ++ body ++ deeper
            else return opening ++ body ++ text "\n" ++ deeper
          return { w with arrays := w.arrays ++ tables.flatten }
      | _ => return { w with plain := w.plain ++ key ++ text " = " ++ (← writeValue v) ++ text "\n" })
      ⟨[], [], []⟩

/-- Adds sections level by level. A section with nothing but other sections has no header. -/
def writeSections (fuel : Nat) : Nat → Text → Sections → Except Fault Text
  | 0, done, _ => .ok done
  | _, done, [] => .ok done
  | levels + 1, done, sections => do
    let (done, deeper) ← sections.foldlM (fun (done, deeper) (name, t) => do
      let w ← writeTable fuel name t
      let shown := w.body ≠ [] || w.sections = []
      let gap := if done ≠ [] ∧ done.drop (done.length - 2) ≠ text "\n\n" then text "\n" else []
      let done := if shown then done ++ gap ++ header name ++ w.body else done
      let deeper := w.sections.foldl (fun acc (inner, t) =>
        putSection (name ++ text "." ++ inner) t acc) deeper
      return (done, deeper)) (done, [])
    writeSections fuel levels done deeper

def write (t : Table) : Except Fault Text := do
  let fuel := sizeMembers t + 1
  let w ← writeTable fuel [] t
  writeSections fuel fuel w.body w.sections

end DocPress.Toml
