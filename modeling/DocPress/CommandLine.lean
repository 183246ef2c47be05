import DocPress.Build
import DocPress.CommandLine.Request

namespace DocPress.CommandLine

def versionLine : Text := text "thener v0.3.0"

inductive Status where
  | success
  | failure
  | misuse
deriving DecidableEq

def Status.number : Status → Nat
  | success => 0
  | failure => 1
  | misuse => 2

def echo (t : Text) : Run Unit := World.print (Console.unstyled t ++ text "\n")

def consoleWidth (w : World) : Nat :=
  match w.variableNamed (text "COLUMNS") with
  | some t =>
    if t ≠ [] ∧ t.all CodePoint.isDigit ∧ 0 < Text.digitsValue 10 t then Text.digitsValue 10 t
    else Console.defaultWidth
  | none => Console.defaultWidth

def say (mark t : Text) : Run Unit := do
  World.print (Console.message (consoleWidth (← get)) mark t)

def successMark : Text := text "✓"

def failureMark : Text := text "✗"

def reporting (action : Run Unit) : Run Status := do
  try
    action
    return .success
  catch fault =>
    match fault.message? with
    | some message =>
      say failureMark message
      return .failure
    | none => throw fault

def emit (t : Text) (output : Option Text) : Run Unit := do
  match output with
  | none => echo t
  | some path =>
    let file := Path.ofText path
    World.makeDirectories file.parent
    World.writeText file t
    say successMark (text "Wrote " ++ file.toText)

/-- Whether a word can be the file of a command: no directory, and there if it has to be. -/
def isUsableFile (s : Site) (mustExist : Bool) (path : Text) : Except Fault Bool := do
  Site.check path
  match s.files.find s.here path true with
  | .ok (_, .directory) => return false
  | .ok _ => return true
  | .error _ => return !mustExist

def withFile (mustExist : Bool) (path : Text) (action : Path → Run Status) : Run Status := do
  if ← World.ask (isUsableFile · mustExist path) then action (Path.ofText path) else return .misuse

def composed (file : Path) : Run Text :=
  World.ask fun s => do Composition.compose s file (← s.readText file) none

def draw (settings : Settings) : Text → Run Text := Drawer.draw settings .standard

def runBuild (settings : Settings) (file : Path) (format : Text) : Run Status := do
  if (Build.Format.named.lookup format).isNone then return .misuse
  reporting do
    let project ← World.ask (Project.read · file)
    let product ← Build.build settings (draw settings) project format
    say successMark (text "HTML: " ++ product.page.toText)
    product.pdf.forM fun file => say successMark (text "PDF:  " ++ file.toText)

def runPreprocess (output : Option Text) (file : Path) : Run Status := reporting do
  emit (← composed file) output

def runRender (settings : Settings) (output : Option Text) (diagrams : Bool) (file : Path) :
    Run Status := reporting do
  emit (← compile (if diagrams then some (draw settings) else none) (← composed file)) output

def labelWidth : Nat := 10

def settingLine (label value : Text) : Run Unit :=
  echo (text "  " ++ Text.padRight labelWidth label ++ (if value = [] then text "(not set)" else value))

def shownSetting (t : Toml.Table) (key : Text) : Text :=
  match Toml.Table.get? t key with
  | some value => if value.isEmpty then [] else value.shown
  | none => []

def shownSeconds (t : Toml.Table) : Text :=
  match Toml.Table.get? t Settings.secondsKey with
  | some value => value.shown ++ text "s"
  | none => []

def runShowSettings (settings : Settings) : Run Status := do
  let renderer ← Settings.readRenderer settings.file
  let pdf ← Settings.readPdf settings.file
  let w ← get
  echo []
  echo (text "  Diagram renderer")
  settingLine (text "mmdc") (shownSetting renderer Settings.drawerKey)
  settingLine (text "Found") (((← World.ask fun _ => Tool.drawer w settings).map (·.shown)).getD [])
  settingLine (text "Background") (shownSetting renderer Settings.backgroundKey)
  settingLine (text "Timeout") (shownSeconds renderer)
  echo []
  echo (text "  PDF export")
  settingLine (text "Browser") (shownSetting pdf Settings.browserKey)
  settingLine (text "Found") (((← World.ask fun _ => Tool.browser w settings).map (·.shown)).getD [])
  echo []
  settingLine (text "Config") settings.file.toText
  echo []
  return .success

def saving (save : Run Bool) (told : Text) : Run Status := do
  if ← save then
    echo told
    return .success
  else return .failure

def runCommand (settings : Settings) : Command → Run Status
  | .build file format => withFile false file (runBuild settings · format)
  | .preprocess file output => withFile true file (runPreprocess output)
  | .render file output diagrams => withFile true file (runRender settings output diagrams)
  | .showSettings => runShowSettings settings
  | .setRenderer drawer background seconds =>
    saving (Settings.saveRenderer settings.file (.string drawer) (.string background)
      (seconds.map .real)) (text "Saved renderer settings to " ++ settings.file.toText)
  | .setBrowser path =>
    saving (Settings.savePdf settings.file (.string path))
      (text "Saved browser settings to " ++ settings.file.toText)
  | .resetSettings => saving (Settings.clear settings.file) (text "Settings reset to defaults.")

def run (settings : Settings) (words : List Text) : Run Status := do
  match Command.read words with
  | .ok command => runCommand settings command
  | .error .help => return .success
  | .error .version =>
    echo versionLine
    return .success
  | .error .misuse => return .misuse

end DocPress.CommandLine
