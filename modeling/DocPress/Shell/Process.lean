import DocPress.Shell.Interpreter
import DocPress.World

namespace DocPress.Shell

/-- Steps after which a script counts as one that never ends. -/
def maxSteps : Nat := 10000

/-- Programs that are given less time than this do not get as far as their first command. -/
def shortestRun : Float := 0.001

/-- How starting a program fails on all of `paths`. -/
def absence (fs : FileSystem) (here : Location) (paths : List Text) : Errno :=
  match paths.getLast?.map (startable fs here) with
  | some (.error .notDirectory) => .notDirectory
  | _ => .noEntry

def machineOf (launch : Launch) (files : FileSystem) (path : Text) : Machine where
  files := files
  here := launch.here
  environment := launch.environment
  name := path
  arguments := launch.arguments
  status := 0
  input := launch.input
  output := []
  errors := []
  targets := [(1, .output), (2, .errors)]
  elapsed := 0
  limit := launch.seconds

def outcome : Except Stop Unit × Machine → Outcome × FileSystem
  | (.error .late, m) => (.late, m.files)
  | (.error (.killed signal), m) => (.ended (-signal) m.output m.errors, m.files)
  | (.error (.exited status), m) => (.ended status m.output m.errors, m.files)
  | (.ok (), m) => (.ended m.status m.output m.errors, m.files)

/-- Puts what scripts name by fixed paths where it is missing: the command language and the sink. -/
def install (files : FileSystem) : FileSystem :=
  let directories := [text "bin", text "usr", text "dev"].map fun name => ([name], Entry.directory)
  let shell := Entry.file [] true
  let entries := directories ++
    [([text "usr", text "bin"], .directory), ([text "bin", text "sh"], shell),
      ([text "usr", text "bin", text "sh"], shell), ([text "dev", text "null"], .sink)]
  entries.foldl (fun fs (l, e) => if (fs.entryAt l).isNone then fs.put l e else fs) files

def run (launch : Launch) (files : FileSystem) : Outcome × FileSystem :=
  let paths := searchPaths launch.environment launch.program
  match startFirst files launch.here (absence files launch.here paths) paths with
  | .error e => (.notStarted e, files)
  | .ok (path, script) =>
    if launch.seconds.any (· < shortestRun) then (.late, files)
    else outcome ((runScript maxSteps script).run (machineOf launch files path))

end DocPress.Shell
