import DocPress.Toml.Item
import DocPress.Toml.Line

namespace DocPress.Toml

/-- A step from a value into one of its members. -/
inductive Step where
  | key (name : Text)
  | item (index : Nat)

abbrev Place := List Step

def Value.at? : Place → Value → Option Value
  | [], v => some v
  | .key name :: rest, .table members => (Table.get? members name).bind (at? rest)
  | .item n :: rest, .array items => items[n]?.bind (at? rest)
  | _ :: _, _ => none

def Value.putAt (new : Value) : Place → Value → Value
  | [], _ => new
  | .key name :: rest, .table members =>
    .table (Table.put members name (putAt new rest ((Table.get? members name).getD (.table []))))
  | .item n :: rest, .array items =>
    .array (items.set n (putAt new rest (items[n]?.getD (.table []))))
  | _ :: _, v => v

/-- What has been read: the tables, the one that is being filled, those made only as a way to
others, and a string that goes on. -/
structure Reading where
  root : Value
  place : Place
  implied : List Text
  opened : Option OpenString

namespace Reading

def start : Reading := ⟨.table [], [], [], none⟩

def current (r : Reading) : Value := (r.root.at? r.place).getD (.table [])

def put (r : Reading) (v : Value) : Reading := { r with root := Value.putAt v r.place r.root }

def enter (r : Reading) (step : Step) : Reading := { r with place := r.place ++ [step] }

/-- A table, or an array with one table, as a header makes it. -/
def fresh (isLast isArray : Bool) : Value := if isLast && isArray then .array [.table []] else .table []

/-- Goes to a member of the current table, which is made if it is not there. -/
def enterMember (r : Reading) (members : Table) (name : Text) (isLast isArray : Bool) :
    Except Fault Reading := do
  let r ← match Table.get? members name with
    | none =>
      let r := r.put (.table (Table.put members name (fresh isLast isArray)))
      .ok (if isLast then r else { r with implied := r.implied ++ [name] })
    | some v =>
      if !isLast then .ok r
      else if r.implied.contains name then
        if isArray then .error .malformed else .ok { r with implied := r.implied.erase name }
      else if isArray then
        match v with
        | .array items => .ok (r.put (.table (Table.put members name (.array (items ++ [.table []])))))
        | _ => .error .wrongType
      else .error .malformed
  return r.enter (.key name)

def enterLast (r : Reading) (items : List Value) (name : Text) (isLast isArray : Bool) :
    Except Fault Reading :=
  match items.getLast? with
  | none => .error .noMember
  | some (.table members) =>
    let r := r.enter (.item (items.length - 1))
    let r := if (Table.get? members name).isSome then r
      else r.put (.table (Table.put members name (fresh isLast isArray)))
    .ok (r.enter (.key name))
  | some _ => .error .wrongType

/-- In the header of an array of tables, an array stands for its last table. -/
def enterNewest (r : Reading) : Except Fault Reading :=
  match r.current with
  | .array [] => .error .noMember
  | .array items => .ok (r.enter (.item (items.length - 1)))
  | .table _ => .ok r
  | .string [] => .error .noMember
  | _ => .error .wrongType

def enterGroup (r : Reading) (name : Text) (isLast isArray : Bool) : Except Fault Reading := do
  if name = [] then throw .malformed
  let r ← match r.current with
    | .table members => r.enterMember members name isLast isArray
    | .array items => r.enterLast items name isLast isArray
    | .string [] => .error .noMember
    | _ => .error .wrongType
  if isArray then r.enterNewest else return r

def enterGroups (isArray : Bool) : List Text → Reading → Except Fault Reading
  | [], r => .ok r
  | name :: rest, r => do enterGroups isArray rest (← r.enterGroup name rest.isEmpty isArray)

def isBareGroup (name : Text) : Bool :=
  name ≠ [] && name.all fun c => c.isAlphanumeric || c == '_' || c == '-'

def isQuotedWhole (t : Text) : Bool := 1 < t.length && t.getLast? == t.head?

/-- The names between the dots of a header; `opened` is a quoted one that has not ended yet. -/
def groupNames : Option Text → List Text → Except Fault (List Text)
  | none, [] => .ok []
  | some _, [] => .error .malformed
  | some opened, piece :: rest =>
    let name := Text.trim (opened ++ text "." ++ piece)
    if isQuotedWhole name then (groupNames none rest).map (inner 1 name :: ·)
    else groupNames (some (opened ++ text "." ++ piece)) rest
  | none, piece :: rest =>
    let name := Text.trim piece
    if name.head?.any fun c => c = Text.doubleQuote ∨ c = Text.singleQuote then
      if isQuotedWhole name then (groupNames none rest).map (inner 1 name :: ·)
      else groupNames (some name) rest
    else if isBareGroup name then (groupNames none rest).map (name :: ·)
    else .error .malformed

def headerNames (line closing : Text) : Except Fault (List Text) :=
  let count := 1 + countBefore closing false (quoteSplits line)
  let parts := splitTimes closing count line
  if parts.length < count + 1 ∨ (parts.getLastD []).trim ≠ [] then .error .malformed
  else groupNames none (Text.splitAt '.' (Text.join closing parts.dropLast))

def header (r : Reading) (line : Text) : Except Fault Reading := do
  let r := { r with place := [] }
  match line.drop 1 with
  | [] => throw .malformed
  | c :: rest =>
    if c = '[' then enterGroups true (← headerNames rest (text "]]")) r
    else enterGroups false (← headerNames (c :: rest) (text "]")) r

def closes (content line : Text) : Except Fault Bool :=
  if content.head? = some ('[' : CodePoint) then
    match line.getLast? with
    | none => .error .noMember
    | some c => .ok (c == ']')
  else
    let quote := content.head?.toList
    .ok (2 < line.length && line.drop (line.length - 3) == quote ++ quote ++ quote)

def fuelFor (t : Text) : Nat := 4 * t.length + 8

def moreOfString (r : Reading) (o : OpenString) (line : Text) : Except Fault Reading := do
  let content := o.content ++ line
  if ← closes content line then
    let (v, _) ← readItem (fuelFor content) content true
    match r.current with
    | .table members => return { r.put (.table (Table.put members o.key v)) with opened := none }
    | _ => throw .wrongType
  else return { r with opened := some (openString o.key content) }

def keepsBlanks (o : OpenString) : Bool := !o.joined && ('\n' : CodePoint) ∈ o.content

def line (r : Reading) (t : Text) : Except Fault Reading := do
  match r.opened with
  | some o =>
    let t := if keepsBlanks o then t else t.trim
    if t = [] ∧ o.joined then return r else r.moreOfString o t
  | none =>
    let t := t.trim
    match t with
    | [] => return r
    | c :: _ =>
      if c = '[' then r.header t
      else if c = '\x7b' then
        if t.getLast? ≠ some ('\x7d' : CodePoint) then throw .malformed
        return r.put (← readMembers (fuelFor t) (← inlineMembers t) r.current)
      else if ('=' : CodePoint) ∈ t then
        let (v, opened) ← readLine (fuelFor t) t r.current
        return { r.put v with opened := opened }
      else return r

end Reading

def read (t : Text) : Except Fault Table := do
  let r ← (← logicalLines t).foldlM Reading.line Reading.start
  match r.root with
  | .table members => return members
  | _ => return []

end DocPress.Toml
