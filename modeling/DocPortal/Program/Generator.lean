/-
The program that writes the viewer's scripts into a directory, for hosting
them without the service.

It reads the same settings as the service. What it is going to write is
decided before anything is written (`plan`); a failure on the way leaves
the files that are written already.
-/
import DocPortal.Log.Filter
import DocPortal.Program.Environment
import DocPortal.Program.FileTree
import DocPortal.Program.Output

namespace DocPortal.Program.Generator

open Log (Event Report)
open Viewer (Config ScriptVariant)

/-- The events the program prints. -/
def filter : Log.Filter :=
  [{ level? := some .info }]

/-- The lines for the events the program prints. -/
def logged (events : List Event) : List Line :=
  (events.filter filter.shows).map .logged

/-- The file of further variables. -/
def variableFile : String := ".env"

/-- The directory the program writes to, which is the first argument. -/
def directoryOf (arguments : List String) : String :=
  arguments.head?.getD "static"

/-- The path of a file in a directory, as it is written. -/
def join (directory name : String) : String :=
  if directory.isEmpty ∨ directory.toList.getLast? = some '/' then directory ++ name
  else directory ++ "/" ++ name

/-- What the program is going to write. -/
structure Plan where
  directory : String
  /-- The files in the order they are written, by written path. -/
  files : List (String × String)
  /-- The number of sources in each. -/
  sourceCount : Nat
deriving DecidableEq, Repr

/-- The plan for a configuration. -/
def Plan.ofConfig (directory : String) (config : Config) : Plan where
  directory
  files := ScriptVariant.all.map fun variant =>
    (join directory variant.fileName, Viewer.Script.render variant config)
  sourceCount := config.sources.length

/-- The plan that variables and arguments ask for. -/
def plan (env : Lookup) (arguments : List String) : Report SetupError Plan := do
  let (_, config) ← Site.configure env
  return .ofConfig (directoryOf arguments) config

/-- The event for a file that is written. -/
def wrote (path : String) : Event :=
  ⟨.info, "render_initializer", "Wrote " ++ path⟩

/-- The last line of the program. -/
def summary (plan : Plan) : String :=
  "Rendered " ++ toString plan.sourceCount ++ " sources into " ++ plan.directory

/-- The failure to make the directory. -/
def notCreated (plan : Plan) (cause : String) : Failure :=
  ⟨some ("failed to create " ++ plan.directory), cause⟩

/-- The failure to write a file. -/
def notWritten (path cause : String) : Failure :=
  ⟨some ("failed to write " ++ path), cause⟩

/-! ## Runs on a file tree -/

/-- What a run of the program leaves. -/
structure Run where
  output : List Line
  /-- Why the program stops early, if it does. -/
  stop? : Option Stop
  tree : FileTree
deriving DecidableEq

/-- Writes files one after the other, up to the first that cannot be. -/
def writeAll (tree : FileTree) : List (String × String) → Run
  | [] => ⟨[], none, tree⟩
  | (path, content) :: rest =>
    match tree.writeFile path content with
    | .error fault => ⟨[], some (.failed (notWritten path fault.message)), tree⟩
    | .ok tree =>
      let run := writeAll tree rest
      { run with output := .logged (wrote path) :: run.output }

/-- Carries out a plan. -/
def carryOut (plan : Plan) (tree : FileTree) : Run :=
  match tree.makeDirectories plan.directory with
  | (tree, some fault) => ⟨[], some (.failed (notCreated plan fault.message)), tree⟩
  | (tree, none) =>
    let run := writeAll tree plan.files
    match run.stop? with
    | some _ => run
    | none => { run with output := run.output ++ [.plain (summary plan)] }

/-- Runs the program with variables. -/
def runWith (env : Lookup) (arguments : List String) (tree : FileTree) : Run :=
  let report := plan env arguments
  match report.result with
  | .error e => ⟨logged report.events, some (.failed (.ofSetup e)), tree⟩
  | .ok plan =>
    let run := carryOut plan tree
    { run with output := logged report.events ++ run.output }

/-- Runs the program in a directory, with the variables it is started with. -/
def run (environment : Environment) (arguments : List String) (tree : FileTree) : Run :=
  match environment.load ((tree.readFile? variableFile).getD "") with
  | .error e => ⟨[], some (.brokenOff e.message), tree⟩
  | .ok environment => runWith environment.lookup arguments tree

end DocPortal.Program.Generator
