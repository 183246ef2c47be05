import DocPress.CommandLine
import DocPress.Shell.Process

namespace DocPress.Main

def variableNames : List String :=
  ["HOME", "PATH", "PWD", "TMPDIR", "THENER_HOME", "THENER_BROWSER", "MMDC_PATH", "COLUMNS"]

def readVariables : IO (List (Text × Text)) :=
  variableNames.filterMapM fun name => do
    return (← IO.getEnv name).map fun value => (text name, text value)

def fullLocation (here : Path) (name : Text) : Location := (Path.absolute here (.ofText name)).parts

def nameOf (l : Location) : String := Text.toString (Site.pathOf l).toText

def isScript (content : Bytes) : Bool := (Text.Utf8.encodeLenient (text "#!")).isPrefixOf content

def readEntry (l : Location) (name : Text) : IO Entry := do
  if Text.endsWith name (text "/") then return .directory
  let content := (← IO.FS.readBinFile (nameOf l)).toList
  return .file content (isScript content)

def readFiles (here : Path) (names : List Text) : IO FileSystem :=
  names.foldlM (fun files name => do
    let l := fullLocation here name
    return files.put l (← readEntry l name)) FileSystem.empty

def above (l : Location) : List Location := (List.range l.length).map fun n => l.take (n + 1)

def withDirectory (files : FileSystem) (l : Location) : FileSystem :=
  (above l).foldl (fun fs l => if (fs.entryAt l).isNone then fs.put l .directory else fs) files

def writeEntry (l : Location) : Entry → IO Unit
  | .directory => IO.FS.createDirAll (nameOf l)
  | .file content _ => IO.FS.writeBinFile (nameOf l) (ByteArray.mk content.toArray)
  | .link _ | .sink => return

def writeBack (before after : FileSystem) : IO Unit := do
  for (l, e) in after.entries do
    if before.entryAt l ≠ some e then writeEntry l e
  for (l, e) in before.entries do
    if (after.entryAt l).isNone ∧ e ≠ .directory then IO.FS.removeFile (nameOf l)

def readNames (input : IO.FS.Stream) : IO (List Text) := do
  let mut names := []
  let mut line ← input.getLine
  while line ≠ "" do
    names := (text line).trim :: names
    line ← input.getLine
  return (names.filter (· ≠ [])).reverse

def makeWorld (names : List Text) : IO World := do
  let environment ← readVariables
  let here := Path.ofText ((environment.lookup (text "PWD")).getD (text "/"))
  let temporary := Path.ofText ((environment.lookup (text "TMPDIR")).getD (text "/tmp"))
  let files ← readFiles here names
  let files := Shell.install (withDirectory (withDirectory files here.parts) temporary.parts)
  return { files, here := here.parts, environment, temporary, printed := [], run := Shell.run }

def command (words : List Text) : Run CommandLine.Status := do
  CommandLine.run (← Settings.read) words

end DocPress.Main

open DocPress Main in
def main (words : List String) : IO UInt32 := do
  let w ← makeWorld (← readNames (← IO.getStdin))
  let (r, after) := (command (words.map text)).run w
  writeBack w.files after.files
  IO.print (Text.toString after.printed)
  return match r with
    | .ok status => status.number.toUInt32
    | .error _ => 1
