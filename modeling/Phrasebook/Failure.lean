import Phrasebook.Localizer.Inquiry
import Phrasebook.Localizer.Resolver
import Phrasebook.Resource
import Phrasebook.Settings.Loading

/-!
# Failures of all parts

Each part has failures of its own. Where several parts meet, their failures become
one type, which keeps the part, a text, and what brought the failure about.
-/

namespace Phrasebook

/-- A failure of any part. -/
inductive Failure where
  /-- The settings. -/
  | configuration (detail : String) (cause : Option String)
  /-- Files and the like. -/
  | inputOutput (reason : String)
  /-- Writing and reading of data. -/
  | serialization (detail : String) (cause : Option String)
  /-- Localization, perhaps in a certain language. -/
  | localization (detail : String) (language cause : Option String)
  /-- The log. -/
  | logging (detail : String) (cause : Option String)
deriving DecidableEq, Repr

namespace Failure

/-- The wording of the report. -/
def message : Failure → String
  | .configuration detail _ => "Configuration error: " ++ detail
  | .inputOutput reason => "I/O error: " ++ reason
  | .serialization detail _ => "Serialization error: " ++ detail
  | .localization detail _ _ => "Localization error: " ++ detail
  | .logging detail _ => "Logging error: " ++ detail

/-- What brought the failure about. -/
def cause : Failure → Option String
  | .configuration _ cause => cause
  | .inputOutput reason => some reason
  | .serialization _ cause => cause
  | .localization _ _ cause => cause
  | .logging _ cause => cause

/-- The language that the failure is about. -/
def language : Failure → Option String
  | .localization _ language _ => language
  | _ => none

/-- A failure of localization without a language. -/
def unlocalized (message : String) : Failure := .localization message none (some message)

/-- The failure of a language that is not supported, or any other failure of
localization. -/
def ofLocalization : LocalizationFailure → Failure
  | .unsupportedLanguage language => .localization "Language is not supported" (some language) none
  | failure => unlocalized failure.message

/-- The failure of a request text. -/
def ofRequest (failure : RequestFailure) : Failure := unlocalized failure.message

/-- The failure of setting up languages. -/
def ofSetup (failure : SetupFailure) : Failure := unlocalized failure.message

/-- The failure of a resource file. -/
def ofResource (failure : ResourceFailure) : Failure := unlocalized failure.message

/-- The failure of settings. -/
def ofSettings (failure : SettingsFailure) : Failure :=
  .configuration failure.message (some failure.message)

/-- The failure of a log format. -/
def ofLogFormat (unknown : UnknownLogFormat) : Failure := .configuration unknown.message none

/-- The failure of a JSON text. -/
def ofJson : Failure := .serialization "JSON serialization error" (some "malformed JSON")

/-- The failure of a YAML text. -/
def ofYaml : Failure := .configuration "YAML parsing error" (some "malformed YAML")

/-- The failure of a TOML text. -/
def ofToml : Failure := .configuration "TOML parsing error" (some "malformed TOML")

end Failure

end Phrasebook
