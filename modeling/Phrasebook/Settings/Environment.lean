import Phrasebook.Settings.Basic
import Phrasebook.Text.Blank
import Phrasebook.Text.Split

/-!
# Variables of the environment

Some settings can be given by variables of the environment. Here are the names of
these variables, and how their texts are read. Any text can be read as languages,
but not every text names a log format.
-/

namespace Phrasebook

/-- The variables that are set. -/
abbrev Environment := String → Option String

/-- A text that names no log format. -/
structure UnknownLogFormat where
  /-- The text without blanks at its ends and in small letters. -/
  name : String
deriving DecidableEq, Repr

/-- The wording of the report. -/
def UnknownLogFormat.message (unknown : UnknownLogFormat) : String :=
  "Unknown log format '" ++ unknown.name ++ "'"

/-- The log format that a text names, in any case of its letters and with any blanks
at its ends. -/
def LogFormat.ofText (text : String) : Except UnknownLogFormat LogFormat :=
  let name := (trimmed text).toLower
  match ofName? name with
  | some format => .ok format
  | none => .error ⟨name⟩

namespace Environment

/-- The languages in a list with commas between them. Blanks around a language and
empty items do not count. -/
def languages (text : String) : List String :=
  ((splitText ',' text).map trimmed).filter fun language => !language.isEmpty

/-- The variable that gives the supported languages. -/
def languagesVariable : String := "SIMLOC_SUPPORTED_LANGUAGES"

/-- The variable that gives the default language. -/
def defaultLanguageVariable : String := "SIMLOC_DEFAULT_LANGUAGE"

/-- The variable that gives the directory of the language files. -/
def directoryVariable : String := "SIMLOC_LOCALES_DIR"

/-- The variable that gives the log filter. -/
def filterVariable : String := "SIMLOC_LOG_LEVEL"

/-- The variable that gives the log format. -/
def formatVariable : String := "SIMLOC_LOG_FORMAT"

/-- The variable that gives the path of the settings file. -/
def settingsPathVariable : String := "SIMLOC_CONFIG_PATH"

/-- All variables that count. -/
def variableNames : List String :=
  [languagesVariable, defaultLanguageVariable, directoryVariable, filterVariable, formatVariable,
    settingsPathVariable]

end Environment

end Phrasebook
