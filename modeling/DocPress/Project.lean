import DocPress.Site

namespace DocPress

/-- `root` is absolute; the last four are as the file has them. -/
structure Project where
  location : Path
  root : Path
  assets : Path
  entry : Path
  template : Path
  output : Path

namespace Project

def requiredKeys : List Text := [text "assets", text "entry", text "template"]

def pathKeys : List Text := text "path" :: (requiredKeys ++ [text "output"])

def within (p : Project) (path : Path) : Path := (p.root.join path).normalize

def entryPath (p : Project) : Path := p.within p.entry

def templatePath (p : Project) : Path := p.within p.template

def assetsPath (p : Project) : Path := p.within p.assets

def htmlDirectory (p : Project) : Path := p.within (p.output.child (text "html"))

def pdfDirectory (p : Project) : Path := p.within (p.output.child (text "pdf"))

def isMissing (members : List (Text × Json)) (key : Text) : Bool :=
  (Json.get? members key).all Json.isEmpty

def isNotText (members : List (Text × Json)) (key : Text) : Bool :=
  match Json.get? members key with
  | none | some .null | some (.string _) => false
  | some _ => true

/-- The path under a key; `default` where there is none or an empty one. -/
def pathAt (members : List (Text × Json)) (key : Text) (default : Text) : Path :=
  match Json.get? members key with
  | some (.string t) => .ofText (if t = [] then default else t)
  | _ => .ofText default

def ofMembers (location : Path) (members : List (Text × Json)) : Project where
  location := location
  root := (location.join (pathAt members (text "path") (text "."))).normalize
  assets := pathAt members (text "assets") []
  entry := pathAt members (text "entry") []
  template := pathAt members (text "template") []
  output := pathAt members (text "output") (text "./build")

def ofText (file : Path) (content : Text) : Except Fault Project :=
  match Json.read content with
  | .error fault =>
    if fault.complaint = .hugeInteger then .error .badValue
    else .error (.project (.invalid file fault content))
  | .ok (.object members) =>
    let missing := requiredKeys.filter (isMissing members)
    let notText := pathKeys.filter (isNotText members)
    if missing ≠ [] then .error (.project (.missing file missing))
    else if notText ≠ [] then .error (.project (.notText file notText))
    else .ok (ofMembers file.parent members)
  | .ok _ => .error (.project (.notObject file))

def read (s : Site) (file : Path) : Except Fault Project := do
  let file ← s.absolute file none
  match s.readText file with
  | .ok content => ofText file content
  | .error (.unread _ _) => throw (.project (.unread file))
  | .error fault => throw fault

end Project

end DocPress
