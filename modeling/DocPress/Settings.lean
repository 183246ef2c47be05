import DocPress.Toml.Reader
import DocPress.Toml.Writer
import DocPress.World

namespace DocPress

/-- The settings in force. A value may be of any kind, as the file has it. -/
structure Settings where
  file : Path
  drawer : Toml.Value
  background : Toml.Value
  seconds : Option Toml.Value
  browser : Toml.Value

namespace Settings

open Toml (Table Value)

def rendererKey : Text := text "renderer"

def pdfKey : Text := text "pdf"

def drawerKey : Text := text "mmdc_path"

def backgroundKey : Text := text "background_color"

def secondsKey : Text := text "timeout"

def browserKey : Text := text "browser_path"

def transparent : Text := text "transparent"

def rendererDefaults : Table := [(drawerKey, .string []), (backgroundKey, .string transparent)]

def pdfDefaults : Table := [(browserKey, .string [])]

def home (w : World) : Except Fault Text :=
  let t := (w.variableNamed (text "HOME")).getD (text "/root")
  let t := (t.reverse.dropWhile (· = Path.slash)).reverse
  let t := if t = [] then text "/" else t
  if t.head? = some ('~' : CodePoint) then .error .noHome else .ok t

def expandHome (w : World) (p : Path) : Except Fault Path :=
  match p.root, p.parts with
  | .relative, part :: rest =>
    if part.head? ≠ some ('~' : CodePoint) then .ok p
    else if part.length = 1 then do
      return (Path.ofText (← home w)).join ⟨.relative, rest⟩
    else .error .noHome
  | _, _ => .ok p

def filePath (w : World) : Except Fault Path := do
  let default := (Path.ofText (← home w)).child (text ".thener")
  let directory := match w.variableNamed (text "THENER_HOME") with
    | some t => Path.ofText t
    | none => default
  return (← expandHome w directory).child (text "config.toml")

def ofToml {α : Type} : Except Toml.Fault α → Run α
  | .ok a => pure a
  | .error .noMember => throw .noMember
  | .error .wrongType => throw .wrongType
  | .error .tooLarge => throw .tooLarge
  | .error .malformed => throw .badValue

/-- All sections. A file that is missing, cannot be read or is malformed has none. -/
def readAll (file : Path) : Run Table := do
  if !(← World.ask (·.exists_ file)) then return []
  let bytes ← try some <$> World.ask (·.readBytes file.toText) catch
    | .system _ | .pathless _ => pure none
    | fault => throw fault
  match bytes.map Text.Utf8.decode with
  | none => return []
  | some (.error _) => throw .notDecodable
  | some (.ok t) =>
    match Toml.read (Text.unifyNewlines t) with
    | .ok table => return table
    | .error .malformed => return []
    | .error fault => ofToml (.error fault)

/-- The member that two values in a row stand for. -/
def pairMember (t : Table) (key value : Value) : Except Fault Table :=
  match key with
  | .array _ | .table _ => .error .wrongType
  | key => .ok (t.put key.shown value)

def mergeItem (t : Table) : Value → Except Fault Table
  | .string [a, b] => pairMember t (.string [a]) (.string [b])
  | .array [key, value] => pairMember t key value
  | .table [(key, _), (value, _)] => pairMember t (.string key) (.string value)
  | .string _ | .array _ | .table _ => .error .badValue
  | _ => .error .wrongType

def mergeSection (defaults : Table) : Option Value → Except Fault Table
  | none => .ok defaults
  | some (.table members) => .ok (Table.merge defaults members)
  | some (.array items) => items.foldlM mergeItem defaults
  | some (.string []) => .ok defaults
  | some (.string _) => .error .badValue
  | some _ => .error .wrongType

def readSection (file : Path) (defaults : Table) (key : Text) : Run Table := do
  let all ← readAll file
  World.ask fun _ => mergeSection defaults (Table.get? all key)

def readRenderer (file : Path) : Run Table := readSection file rendererDefaults rendererKey

def readPdf (file : Path) : Run Table := readSection file pdfDefaults pdfKey

/-- Writes all sections; `false` when the system refuses. The file is emptied before the sections
are put into words. -/
def writeAll (file : Path) (t : Table) : Run Bool := do
  try
    World.makeDirectories file.parent
    World.writeBytes file []
    World.writeText file (← ofToml (Toml.write t))
    return true
  catch
    | .system _ | .pathless _ => return false
    | fault => throw fault

def rendererSection (drawer background : Value) (seconds : Option Value) : Table :=
  [(drawerKey, drawer), (backgroundKey, background)] ++ seconds.toList.map ((secondsKey, ·))

def saveRenderer (file : Path) (drawer background : Value) (seconds : Option Value) : Run Bool := do
  let all ← readAll file
  writeAll file (Table.put all rendererKey (.table (rendererSection drawer background seconds)))

def savePdf (file : Path) (browser : Value) : Run Bool := do
  let all ← readAll file
  writeAll file (Table.put all pdfKey (.table [(browserKey, browser)]))

/-- Drops the sections that have defaults. -/
def clear (file : Path) : Run Bool := do
  let all ← readAll file
  writeAll file (Table.without (Table.without all rendererKey) pdfKey)

def read : Run Settings := do
  let file ← ExceptT.mk fun w => (filePath w, w)
  let renderer ← readRenderer file
  let pdf ← readPdf file
  return {
    file := file
    drawer := (Table.get? renderer drawerKey).getD (.string [])
    background := (Table.get? renderer backgroundKey).getD (.string transparent)
    seconds := Table.get? renderer secondsKey
    browser := (Table.get? pdf browserKey).getD (.string []) }

end Settings

end DocPress
