import Phrasebook.Program.Basic

/-!
# The command

What the program does with the outside world: it reads the environment and the
files that each step asks for, opens the log, and shows or reports how the run ends.
All decisions are made elsewhere.
-/

namespace Phrasebook

/-- Why a file can not be read or opened, from what the system says. It gives its
numbers with or without a minus sign. -/
def FileFailure.ofError : IO.Error → FileFailure
  | .noFileOrDirectory .. => .notFound
  | .permissionDenied .. => .denied
  | .inappropriateType _ code _ => if code = 20 || code = -20 then .notDirectory else .isDirectory
  | error => .other (toString error)

/-- The text of the file at a path. -/
def readText (path : String) : IO (Except FileFailure String) := do
  try
    match String.fromUTF8? (← IO.FS.readBinFile path) with
    | some text => return .ok text
    | none => return .error .notText
  catch error => return .error (.ofError error)

/-- The files at some paths. -/
def readTexts (paths : List String) : IO FileAccess := do
  let readings ← paths.mapM fun path => return (path, ← readText path)
  return .ofReadings readings

/-- Create the log if there is a file for it. -/
def createLog (settings : LogSettings) : IO (Except ProgramFailure Unit) := do
  match settings.filePath with
  | none => return .ok ()
  | some path =>
    try
      let _ ← IO.FS.Handle.mk path .append
      return .ok ()
    catch error => return .error (.log (.ofError error))

/-- The variables of the environment that are set. -/
def readEnvironment : IO Environment := do
  let values ← Environment.variableNames.mapM fun name => return (name, ← IO.getEnv name)
  return fun name => (values.lookup name).join

/-- Carry out an invocation. -/
def carryOut (environment : Environment) (invocation : Invocation) :
    IO (Except ProgramFailure String) := do
  match invocation.settings (← readTexts (invocation.settingsPaths environment)) environment with
  | .error failure => return .error failure
  | .ok settings =>
    match ← createLog settings.log with
    | .error failure => return .error failure
    | .ok () =>
      let access ← readTexts settings.languages.paths
      return do (← settings.languages.localizer access).run invocation.command

end Phrasebook

open Phrasebook

/-- The program. -/
def main (arguments : List String) : IO UInt32 := do
  let environment ← readEnvironment
  match CommandLine.read environment arguments with
  | .error failure =>
    if failure.isInformation then IO.println failure.message else IO.eprintln failure.message
    return (Outcome.ofUsage failure).exitCode.toUInt32
  | .ok invocation =>
    let ended := Outcome.ofResult (← carryOut environment invocation)
    IO.print ended.shown
    ended.reported.forM fun report => IO.eprint report
    return ended.exitCode.toUInt32
