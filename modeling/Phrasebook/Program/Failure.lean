import Phrasebook.Failure
import Phrasebook.Program.Report

/-!
# Failures of the program

A run of the program can fail when it loads its settings, opens its log, sets up
its languages, or carries out its command.
-/

namespace Phrasebook

/-- Why a run of the program fails. -/
inductive ProgramFailure where
  /-- The settings can not be loaded, from a given file or wherever they are. -/
  | loading (path : Option String) (failure : SettingsFailure)
  /-- The log filter on the command line can not be used. -/
  | filter (failure : SettingsFailure)
  /-- The log can not be opened. -/
  | log (reason : FileFailure)
  /-- A resource file can not be used. -/
  | resource (failure : ResourceFailure)
  /-- The languages can not be set up. -/
  | setup (failure : SetupFailure)
  /-- A text can not be localized. -/
  | localization (failure : LocalizationFailure)
  /-- A key that must have a template has none. -/
  | missingTemplate (key language : String)
deriving DecidableEq, Repr

namespace ProgramFailure

/-- The wording for a key that must have a template and has none. -/
def missingMessage (key language : String) : String :=
  "No translation for '" ++ key ++ "' in language '" ++ language ++ "'"

/-- What brought a failure of a resource file about. -/
def resourceCauses : ResourceFailure → List String
  | .unreadable _ reason => [reason.message]
  | _ => []

/-- What went wrong while loading. -/
def loadingMessage : Option String → String
  | some path => "Failed to load configuration from " ++ path
  | none => "Failed to load configuration"

/-- The report of a failure. -/
def report : ProgramFailure → Report
  | .loading path failure => ⟨loadingMessage path, failure.message :: failure.causes⟩
  | .filter failure => ⟨"Invalid --log-level", failure.message :: failure.causes⟩
  | .log reason =>
    let failure := Failure.inputOutput reason.message
    ⟨failure.message, failure.cause.toList⟩
  | .resource failure => ⟨failure.message, resourceCauses failure⟩
  | .setup failure => ⟨failure.message, []⟩
  | .localization failure => ⟨failure.message, []⟩
  | .missingTemplate key language => ⟨missingMessage key language, []⟩

end ProgramFailure

end Phrasebook
