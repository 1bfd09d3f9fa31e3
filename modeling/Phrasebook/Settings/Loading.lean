import Phrasebook.Files.Basic
import Phrasebook.Settings.Check
import Phrasebook.Settings.Document
import Phrasebook.Settings.Environment

/-!
# Loading settings

Settings are read from a file or have their defaults. Then the environment has its
say, and at last they are checked. Settings that come out of this have no problems.
-/

namespace Phrasebook

/-- Why there are no settings to work with. -/
inductive SettingsFailure where
  /-- The file can not be read. -/
  | unreadable (reason : FileFailure)
  /-- The file does not describe settings. -/
  | malformed
  /-- The settings have problems. -/
  | invalid (problems : List SettingsProblem)
  /-- A variable of the environment can not be used. -/
  | environment (variableName : String) (unknown : UnknownLogFormat)
deriving DecidableEq, Repr

namespace SettingsFailure

/-- The wording for problems. -/
def invalidMessage (problems : List String) : String :=
  "Configuration validation failed: " ++ "; ".intercalate problems

/-- The wording for a log format that is not known. -/
def formatMessage (unknown : UnknownLogFormat) : String :=
  "Configuration error: " ++ unknown.message

/-- The wording of the report. -/
def message : SettingsFailure → String
  | .unreadable reason => "Failed to read configuration file: " ++ reason.message
  | .malformed => "Failed to parse YAML configuration"
  | .invalid problems => invalidMessage (problems.map SettingsProblem.message)
  | .environment variableName unknown =>
    "Failed to parse environment variable '" ++ variableName ++ "': " ++ formatMessage unknown

/-- What brought the failure about. -/
def causes : SettingsFailure → List String
  | .unreadable reason => [reason.message]
  | .malformed => []
  | .invalid _ => []
  | .environment _ unknown => [formatMessage unknown]

end SettingsFailure

namespace Settings

/-- Refuses settings that have problems. -/
def check (settings : Settings) : Except SettingsFailure Unit :=
  if settings.problems.isEmpty then .ok () else .error (.invalid settings.problems)

open Environment in
/-- The settings as the environment wants them, and whether all of its variables
can be used. The variables are asked one after the other, the log format last, so
a format that can not be used comes too late to stop the others. -/
def adapt (environment : Environment) (settings : Settings) :
    Settings × Except SettingsFailure Unit := Id.run do
  let mut adapted := settings
  if let some text := environment languagesVariable then
    adapted := adapted.withLanguages (Environment.languages text)
  if let some text := environment defaultLanguageVariable then
    adapted := adapted.withDefaultLanguage (trimmed text)
  if let some directory := environment directoryVariable then
    adapted := adapted.withStore (.files directory)
  if let some filter := environment filterVariable then
    adapted := adapted.withFilter filter
  if let some text := environment formatVariable then
    match LogFormat.ofText text with
    | .ok format => adapted := adapted.withFormat format
    | .error unknown => return (adapted, .error (.environment formatVariable unknown))
  return (adapted, .ok ())

/-- The settings with another log filter, and whether they can be used. -/
def refilter (filter : String) (settings : Settings) : Settings × Except SettingsFailure Unit :=
  let changed := settings.withFilter filter
  (changed, changed.check)

/-- The settings with another log filter, provided that they can be used. -/
def withCheckedFilter (settings : Settings) (filter : String) : Except SettingsFailure Settings :=
  do
    let (changed, result) := settings.refilter filter
    result
    return changed

/-- The settings as the environment wants them, provided that they can be used. -/
def complete (environment : Environment) (settings : Settings) :
    Except SettingsFailure Settings := do
  let (adapted, result) := settings.adapt environment
  result
  adapted.check
  return adapted

/-- The settings in a text, before the environment is asked. -/
def parse (text : String) : Except SettingsFailure Settings :=
  match ofText? text with
  | some settings => .ok settings
  | none => .error .malformed

/-- The settings of a file. -/
def loadFile (access : FileAccess) (environment : Environment) (path : String) :
    Except SettingsFailure Settings := do
  let text ← (access.read path).mapError SettingsFailure.unreadable
  complete environment (← parse text)

/-- Where settings are looked for when the environment names no file. -/
def usualPaths : List String := ["simloc.yaml", "simloc.yml"]

/-- The file to read settings from, if there is one. -/
def path? (access : FileAccess) (environment : Environment) : Option String :=
  match environment Environment.settingsPathVariable with
  | some path => some path
  | none => usualPaths.find? access.isPresent

/-- The settings of the file that is found, or the defaults when there is none. -/
def load (access : FileAccess) (environment : Environment) : Except SettingsFailure Settings :=
  match path? access environment with
  | some path => loadFile access environment path
  | none => complete environment {}

end Settings

end Phrasebook
