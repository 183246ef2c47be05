import DocPress.FileSystem.Basic
import DocPress.FileSystem.Errno

namespace DocPress.FileSystem

def maxNameBytes : Nat := 255

def maxPathBytes : Nat := 4095

def maxLinks : Nat := 40

def startOf (here : Location) (target : Text) : Location :=
  if target.head? = some Path.slash then [] else here

/-- Walks the names `todo` from the directory `here`. The last name need not exist; a link is handed
to `viaLink` with what is left to walk, the last one only if `follow`. -/
def walkNames (fs : FileSystem) (follow : Bool)
    (viaLink : Location → List Text → Except Errno Location) :
    Location → List Text → Except Errno Location
  | here, [] => .ok here
  | here, name :: rest =>
    if name = [] ∨ name = Path.dot then walkNames fs follow viaLink here rest
    else if name = Path.dotDot then walkNames fs follow viaLink here.dropLast rest
    else if maxNameBytes < (Text.Utf8.encodeLenient name).length then .error .nameTooLong
    else
      let there := here ++ [name]
      match fs.entryAt there with
      | some .directory => walkNames fs follow viaLink there rest
      | some (.link target) =>
        if rest = [] ∧ !follow then .ok there
        else viaLink (startOf here target) (Text.splitAt Path.slash target ++ rest)
      | some _ => if rest = [] then .ok there else .error .notDirectory
      | none => if rest = [] then .ok there else .error .noEntry

def walk (fs : FileSystem) (follow : Bool) : Nat → Location → List Text → Except Errno Location
  | 0 => walkNames fs follow fun _ _ => .error .tooManyLinks
  | n + 1 => walkNames fs follow (walk fs follow n)

/-- The location a path means from the directory `here`; there may be no entry at it, but the
directory above it exists. -/
def locate (fs : FileSystem) (here : Location) (path : Text) (follow : Bool) :
    Except Errno Location :=
  if path = [] then .error .noEntry
  else if maxPathBytes < (Text.Utf8.encodeLenient path).length then .error .nameTooLong
  else walk fs follow maxLinks (startOf here path) (Text.splitAt Path.slash path)

def find (fs : FileSystem) (here : Location) (path : Text) (follow : Bool) :
    Except Errno (Location × Entry) := do
  let l ← locate fs here path follow
  match fs.entryAt l with
  | some e => .ok (l, e)
  | none => .error .noEntry

/-- Walks names as they are written, through all links, past what does not exist; `none` on a loop
of links. -/
def trace (fs : FileSystem) : Nat → Location → List Text → Option Location
  | 0, _, _ => none
  | depth + 1, here, names =>
    names.foldlM (fun here name =>
      if name = [] ∨ name = Path.dot then some here
      else if name = Path.dotDot then some here.dropLast
      else match fs.entryAt (here ++ [name]) with
        | some (.link target) =>
          trace fs depth (startOf here target) (Text.splitAt Path.slash target)
        | _ => some (here ++ [name])) here

/-- The location of a path with all links resolved. A loop of links is longer than there are
entries. -/
def realLocation? (fs : FileSystem) (here : Location) (path : Text) : Option Location :=
  trace fs (fs.entries.length + 1) (startOf here path) (Text.splitAt Path.slash path)

def read (fs : FileSystem) (here : Location) (path : Text) : Except Errno Bytes := do
  match (← fs.find here path true).2 with
  | .file content _ => .ok content
  | .sink => .ok []
  | _ => .error .isDirectory

/-- Writes a file anew; one that is there keeps its place and whether it can be run. -/
def write (fs : FileSystem) (here : Location) (path : Text) (content : Bytes) :
    Except Errno FileSystem := do
  let l ← fs.locate here path true
  match fs.entryAt l with
  | some (.file _ executable) => .ok (fs.put l (.file content executable))
  | some .sink => .ok fs
  | some _ => .error .isDirectory
  | none =>
    if path.getLast? = some Path.slash then .error .isDirectory
    else .ok (fs.put l (.file content false))

def makeDirectory (fs : FileSystem) (here : Location) (path : Text) : Except Errno FileSystem := do
  let l ← fs.locate here path false
  match fs.entryAt l with
  | some _ => .error .exists_
  | none => .ok (fs.put l .directory)

end DocPress.FileSystem
