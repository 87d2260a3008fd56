/-
The command that writes the viewer's scripts: `docportal [DIRECTORY]`.

It carries out the plan of `Program.Generator` on the files of the current
directory. All that is decided is decided there; here it is only done.
-/
import DocPortal.Program.Generator
import Std.Time.Format

open DocPortal Program

namespace DocPortal.Command

open FileTree (Fault)
open Std.Time (DateTime TimeZone Timestamp)

/-- Prints lines, each with the time at which it is printed. -/
def printLines (lines : List Line) : IO Unit := do
  for line in lines do
    let now := DateTime.ofTimestamp (← Timestamp.now) TimeZone.ZoneRules.UTC
    IO.println (line.render (now.format "uuuu-MM-dd'T'HH:mm:ss.SSSSSS'Z'"))

/-- Prints why the program stops, and gives the exit code for it. -/
def report (stop : Stop) : IO UInt32 := do
  match stop with
  | .failed failure => IO.eprint failure.message
  | .brokenOff message => IO.eprintln message
  return stop.code.toUInt32

/-- The variables that are set: all of them where the system lists them, else those the settings
are read from. -/
def environment : IO Environment := do
  try
    let entries := (← IO.FS.readFile "/proc/self/environ").splitOn "\x00"
    return entries.filterMap (Text.cut '=')
  catch _ =>
    let values ← Settings.variableNames.mapM fun name => return (← IO.getEnv name).map (name, ·)
    return values.filterMap id

/-- What the system said about a failed call. -/
def systemMessage : IO.Error → String
  | .alreadyExists .. => Fault.fileExists.message
  | .noFileOrDirectory .. => Fault.missing.message
  | .inappropriateType _ 20 _ => Fault.notDirectory.message
  | .inappropriateType _ 21 _ => Fault.isDirectory.message
  | .invalidArgument _ 36 _ => Fault.nameTooLong.message
  | e => toString e

/-- Makes a directory, unless it is there. -/
def makeDirectory (path : String) : IO Unit := do
  try IO.FS.createDir path
  catch
    | .alreadyExists .. => IO.FS.createDirAll path
    | e => throw e

/-- Makes the directory at the first path, with the help of the others as far as something is
missing. -/
def makeEach : List String → IO Unit
  | [] => return
  | path :: above => do
    try makeDirectory path
    catch
      | .noFileOrDirectory .. => makeEach above; makeDirectory path
      | e => throw e

/-- Makes a directory and those above it. -/
def makeDirectories (path : String) : IO Unit :=
  match FileTree.routeOf path with
  | .ok [] => return
  | .ok route => makeEach (path :: (FileTree.routesUpFrom route).tail.map ("/".intercalate ·))
  | .error _ => IO.FS.createDir path

/-- Carries out a plan. -/
def carryOut (plan : Generator.Plan) : IO UInt32 := do
  try makeDirectories plan.directory
  catch e => return ← report (.failed (Generator.notCreated plan (systemMessage e)))
  for (path, content) in plan.files do
    try IO.FS.writeFile path content
    catch e => return ← report (.failed (Generator.notWritten path (systemMessage e)))
    printLines [.logged (Generator.wrote path)]
  printLines [.plain (Generator.summary plan)]
  return 0

end DocPortal.Command

def main (arguments : List String) : IO UInt32 := do
  let fileText ← try IO.FS.readFile Generator.variableFile catch _ => pure ""
  match (← Command.environment).load fileText with
  | .error e => Command.report (.brokenOff e.message)
  | .ok environment =>
    let plan := Generator.plan environment.lookup arguments
    Command.printLines (Generator.logged plan.events)
    match plan.result with
    | .error e => Command.report (.failed (.ofSetup e))
    | .ok plan => Command.carryOut plan
