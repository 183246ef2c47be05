import DocPress.Console
import DocPress.World

namespace DocPress.Assets

/-- The order of code points, at the first place where two texts differ. -/
def textBefore : Text → Text → Bool
  | [], _ => true
  | _ :: _, [] => false
  | a :: t, b :: u => if a = b then textBefore t u else a.val < b.val

def before : List Text → List Text → Bool
  | [], _ => true
  | _ :: _, [] => false
  | a :: ps, b :: qs => if a = b then before ps qs else textBefore a b

/-- The entries below a directory, as named from there. Links are not followed. -/
def below (files : FileSystem) (directory : Location) : List (List Text) :=
  files.entries.filterMap fun (l, _) =>
    if directory.isPrefixOf l ∧ l ≠ directory then some (l.drop directory.length) else none

/-- The files below a directory in order; a link counts as what it leads to. -/
def filesIn (s : Site) (source : Path) : Except Fault (List (List Text)) := do
  let (directory, _) ← Site.refuse source.toText (s.files.find s.here source.toText true)
  let files ← (below s.files directory).filterM fun parts =>
    s.isFile (source.join ⟨.relative, parts⟩)
  return files.mergeSort before

/-- Copies one file and whether it can be run. A file copied to a directory goes into it. -/
def copyFile (source target : Path) : Run Unit := do
  let s := (← get).toSite
  let intoDirectory := (s.holds (· = .directory) target.toText).toOption.getD false
  let place := if intoDirectory then target.join ⟨.relative, [source.name]⟩ else target
  let shown := if intoDirectory then place.toText.quoted else place.shown
  let found (p : Path) : Option Location := (s.files.find s.here p.toText true).toOption.map (·.1)
  if (found source).isSome ∧ found source = found place then
    throw (.sameFile source.shown shown)
  let content ← World.ask (·.readBytes source.toText)
  World.writeBytes place content
  let executable := match s.entry source.toText with
    | .ok (.file _ executable) => executable
    | _ => false
  World.change place.toText fun files here path => do
    match ← files.find here path true with
    | (l, .file content _) => .ok (files.put l (.file content executable))
    | _ => .ok files

/-- The directory that a copy of `source` gets under `destination`. -/
def target (source destination : Path) : Path :=
  destination.join ⟨.relative, source.parts.getLast?.toList⟩

def list (source : Path) : Run (List (List Text)) := do
  unless ← World.ask (·.isDirectory source) do throw (.project (.noAssets source))
  World.ask (filesIn · source)

def label (parts : List Text) : Text :=
  text "[progress.description]Copying " ++ Path.toText ⟨.relative, parts⟩

def checkLabel (parts : List Text) : Run Unit := do
  unless Console.isBalanced (label parts) do throw .unbalancedLabel

/-- Copies a file below `source` and makes the directories it needs. -/
def copyBelow (source destination : Path) (parts : List Text) : Run Unit := do
  let copied := (target source destination).join ⟨.relative, parts⟩
  World.makeDirectories copied.parent
  copyFile (source.join ⟨.relative, parts⟩) copied

/-- Copies files. The last of which a copy is begun has its label shown at the end. -/
def copyAll (source destination : Path) (files : List (List Text)) : Run Unit := do
  for parts in files do
    try copyBelow source destination parts catch fault => do
      checkLabel parts
      throw fault
  files.getLast?.forM checkLabel

/-- Copies a directory into another; what is there already is overwritten or kept. The line on which
progress was shown stays empty. -/
def copy (source destination : Path) : Run Path := do
  let files ← list source
  try copyAll source destination files catch
    | .unbalancedLabel => throw .unbalancedLabel
    | fault => do
      World.print (text "\n")
      throw fault
  World.print (text "\n")
  return target source destination

end DocPress.Assets
