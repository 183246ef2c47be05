import DocPress.Drawer

namespace DocPress.Pdf

def isPlain (b : UInt8) : Bool :=
  let c := CodePoint.ofNat b.toNat
  c.isAlphanumeric || c ∈ text "_.-~/"

def upperHex (b : UInt8) : Text := (Text.hex 2 b.toNat).map CodePoint.toUpper

def address (p : Path) : Text :=
  text "file://" ++ (Text.Utf8.encodeLenient p.toText).flatMap fun b =>
    if isPlain b then [CodePoint.ofNat b.toNat] else text "%" ++ upperHex b

def resolved (s : Site) (p : Path) : Except Fault Path := do
  Site.check p.toText
  if s.isStranded p none then throw (.pathless .noEntry)
  match s.files.realLocation? s.here p.toText with
  | some l => return Site.pathOf l
  | none => throw .loopOfLinks

def arguments (page output : Path) : List Text :=
  [text "--headless", text "--disable-gpu", text "--no-pdf-header-footer",
    text "--print-to-pdf=" ++ output.toText, address page]

def browserOf (w : World) (settings : Settings) (browser : Option Text) :
    Except Fault (Option Tool.Found) :=
  match browser.filter (· ≠ []) with
  | some program => .ok (some (.program program))
  | none => Tool.browser w settings

/-- Prints a page to a file with what was found, and gives the path of that file. -/
def writeWith (page output : Path) : Option Tool.Found → Run Path
  | none => throw (.print .noBrowser)
  | some found => do
    let page ← World.ask (resolved · page)
    let output ← World.ask (resolved · output)
    let program ← World.ask fun _ => found.word
    match ← World.launch program (arguments page output) [] none with
    | .notStarted e => throw (.print (.notStarted program ⟨e, program⟩))
    | .late => throw (.print (.nothingWritten output))
    | .ended status written errors =>
      discard (World.ask fun _ => Drawer.writtenText written)
      let errors ← World.ask fun _ => Drawer.writtenText errors
      if status ≠ 0 then throw (.print (.exited status errors))
      unless ← World.ask (·.isFile output) do throw (.print (.nothingWritten output))
      return output

def write (settings : Settings) (browser : Option Text) (page output : Path) : Run Path := do
  let w ← get
  writeWith page output (← World.ask fun _ => browserOf w settings browser)

end DocPress.Pdf
