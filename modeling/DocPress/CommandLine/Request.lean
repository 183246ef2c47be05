import DocPress.CommandLine.Options
import DocPress.Toml.Number

namespace DocPress.CommandLine

inductive Command where
  | build (file : Text) (format : Text)
  | preprocess (file : Text) (output : Option Text)
  | render (file : Text) (output : Option Text) (diagrams : Bool)
  | showSettings
  | setRenderer (drawer background : Text) (seconds : Option Float)
  | setBrowser (path : Text)
  | resetSettings

inductive Ending where
  | help
  | version
  | misuse

def helpNames : Names := [(text "--help", .help)]

def mainNames : Names :=
  [(text "--version", .version), (text "-V", .version), (text "--verbose", .verbose),
    (text "-v", .verbose), (text "--quiet", .quiet), (text "-q", .quiet)] ++ helpNames

def outputNames : Names := [(text "--output", .output), (text "-o", .output)]

def buildNames : Names := [(text "--format", .format), (text "-f", .format)] ++ helpNames

def preprocessNames : Names := outputNames ++ helpNames

def renderNames : Names := outputNames ++ [(text "--no-diagrams", .noDiagrams)] ++ helpNames

def rendererNames : Names :=
  [(text "--mmdc", .drawer), (text "--background", .background), (text "-b", .background),
    (text "--timeout", .seconds), (text "-t", .seconds)] ++ helpNames

def ending? : Opt → Option Ending
  | .help => some .help
  | .version => some .version
  | _ => none

/-- The words of a command, unless an option among them ends the command line. -/
def sorted (names : Names) (mixed : Bool) (words : List Text) : Except Ending Words :=
  match Words.sort names mixed words with
  | none => .error .misuse
  | some w =>
    match w.given.findSome? fun (o, _) => ending? o with
    | some ending => .error ending
    | none => .ok w

def noOperand (w : Words) : Except Ending Unit := if w.operands = [] then .ok () else .error .misuse

def oneOperand (w : Words) : Except Ending Text :=
  match w.operands with
  | [operand] => .ok operand
  | _ => .error .misuse

def defaultProject : Text := text "project.thn"

def operandOr (default : Text) (w : Words) : Except Ending Text :=
  if w.operands = [] then .ok default else oneOperand w

def leastSeconds : Float := 1

/-- A limit of time, if it can be read and is no less than the least one. -/
def readSeconds (t : Text) : Except Ending Float :=
  match Toml.float? t with
  | some x => if x < leastSeconds then .error .misuse else .ok x
  | none => .error .misuse

def readBuild (words : List Text) : Except Ending Command := do
  let w ← sorted buildNames true words
  return .build (← operandOr defaultProject w) (Text.toLower ((w.value? .format).getD (text "pdf")))

def readPreprocess (words : List Text) : Except Ending Command := do
  let w ← sorted preprocessNames true words
  return .preprocess (← oneOperand w) (w.value? .output)

def readRender (words : List Text) : Except Ending Command := do
  let w ← sorted renderNames true words
  return .render (← oneOperand w) (w.value? .output) (!w.has .noDiagrams)

def readSetRenderer (words : List Text) : Except Ending Command := do
  let w ← sorted rendererNames true words
  noOperand w
  let seconds ← (w.value? .seconds).mapM readSeconds
  return .setRenderer ((w.value? .drawer).getD [])
    ((w.value? .background).getD (text "transparent")) seconds

def readSetBrowser (words : List Text) : Except Ending Command := do
  return .setBrowser (← oneOperand (← sorted helpNames true words))

def readPlain (command : Command) (words : List Text) : Except Ending Command := do
  noOperand (← sorted helpNames true words)
  return command

/-- A group of commands: options of its own, then the name of a command and its words. -/
def readGroup (names : Names) (commands : List (Text × (List Text → Except Ending Command)))
    (words : List Text) : Except Ending Command := do
  if words = [] then throw .misuse
  match (← sorted names false words).operands with
  | [] => throw .misuse
  | name :: rest =>
    match commands.lookup name with
    | some read => read rest
    | none => throw .misuse

def settingsCommands : List (Text × (List Text → Except Ending Command)) :=
  [(text "show", readPlain .showSettings), (text "set-renderer", readSetRenderer),
    (text "set-browser", readSetBrowser), (text "reset", readPlain .resetSettings)]

def commands : List (Text × (List Text → Except Ending Command)) :=
  [(text "build", readBuild), (text "preprocess", readPreprocess), (text "render", readRender),
    (text "config", readGroup helpNames settingsCommands)]

def Command.read (words : List Text) : Except Ending Command := readGroup mainNames commands words

end DocPress.CommandLine
