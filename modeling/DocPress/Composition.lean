import DocPress.Annotations
import DocPress.Composition.Part
import DocPress.Site

namespace DocPress.Composition

def importMarker : Text := text "@import "

def documentSuffix : Text := text ".md"

def maxImportDepth : Nat := 100

def withoutReturn (line : Text) : Text :=
  if line.getLast? = some ('\r' : CodePoint) then line.dropLast else line

/-- The lines of a text; a newline at its end begins no further line. -/
def sourceLines (code : Text) : List Text :=
  let lines := Text.splitAt '\n' code
  (if lines.getLast? = some [] then lines.dropLast else lines).map withoutReturn

def displayName (file : Path) : Except Fault Text :=
  if file.name = [] ∨ file.name = Path.dotDot then .error (.unnamedFile file)
  else Site.pathText file.name

/-- The directory of a file, from which its imports are resolved. -/
def container (s : Site) (file : Path) (base : Option Path) : Except Fault Path := do
  let directory ← s.absolute file.parent base
  if ← s.isDirectory directory then return directory else throw (.noDirectory directory)

/-- The document that an import line in a file of `directory` means. -/
def importedFile (s : Site) (directory : Path) (target : Text) : Except Fault Path := do
  if target = [] then throw (.unread directory .blankImport)
  let file ← s.absolute (.ofText target) (some directory)
  match file.withSuffix? documentSuffix with
  | some document => return document
  | none => throw (.unread (.ofText target) (.unnamed file))

/-- What a line of a file becomes; `imported` gives the tree of an import's target. -/
def partOf (imported : Text → Except Fault Part) (line : Text) : Except Fault Part :=
  match Text.after? importMarker line with
  | some target => imported target.trim
  | none => .ok (.line (Annotations.expand line))

/-- The import tree of a file whose text is `code`, which stands `depth` imports below the first,
where `remaining` levels are left up to `maximum`. -/
def treeFrom (s : Site) (maximum : Int) :
    Nat → Int → Path → Text → Option Path → Except Fault Part
  | 0, depth, file, _, _ => do
    throw (.importTooDeep (← Site.pathText file.toText) depth maximum)
  | remaining + 1, depth, file, code, base => do
    discard (Site.pathText file.toText)
    let name ← displayName file
    let directory ← container s file base
    let imported (target : Text) : Except Fault Part := do
      let document ← importedFile s directory target
      treeFrom s maximum remaining (depth + 1) document (← s.readText document) (some directory)
    return .file name (← (sourceLines code).mapM (partOf imported))

def composeAt (s : Site) (maximum depth : Int) (file : Path) (code : Text) (base : Option Path) :
    Except Fault Text :=
  (treeFrom s maximum (maximum - depth).toNat depth file code base).map Part.written

def compose (s : Site) (file : Path) (code : Text) (base : Option Path) : Except Fault Text :=
  composeAt s maxImportDepth 0 file code base

end DocPress.Composition
