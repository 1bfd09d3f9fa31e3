import Phrasebook.Catalog

/-!
# Settings

What the program is told before it starts: which languages there are, where their
templates come from, and how it keeps its log. Everything has a default.
-/

namespace Phrasebook

/-- How a log is written. -/
inductive LogFormat where
  /-- On several lines, for people. -/
  | pretty
  /-- On one line. -/
  | compact
  /-- As a JSON text on one line. -/
  | json
deriving DecidableEq, Repr

namespace LogFormat

/-- The name of a format. -/
def name : LogFormat → String
  | .pretty => "pretty"
  | .compact => "compact"
  | .json => "json"

/-- The format with a name. -/
def ofName? (name : String) : Option LogFormat :=
  [pretty, compact, json].find? fun format => format.name == name

end LogFormat

/-- Where the templates come from. -/
inductive TemplateStore where
  /-- A file for each language in a directory. -/
  | files (directory : String)
  /-- The settings themselves. -/
  | inline (catalog : Catalog)

/-- The languages and their templates. -/
structure LanguageSettings where
  /-- The languages in order. -/
  supported : List String := ["en-us"]
  /-- The language for calls that name none. -/
  defaultLanguage : String := "en-us"
  /-- The templates. -/
  store : TemplateStore := .files "locales"

/-- How the log is kept. -/
structure LogSettings where
  /-- What is logged. -/
  filter : String := "info"
  /-- How it is written. -/
  format : LogFormat := .pretty
  /-- The file that it is written to, if there is one. -/
  filePath : Option String := none
  /-- Whether the beginnings and ends of spans are logged. -/
  includeSpans : Bool := false
  /-- Whether each entry names its target. -/
  includeTargets : Bool := true

/-- Everything that the program is told. -/
structure Settings where
  /-- The languages and their templates. -/
  languages : LanguageSettings := {}
  /-- How the log is kept. -/
  log : LogSettings := {}

namespace Settings

/-- Whether a language is one of the supported languages. -/
def isSupported (settings : Settings) (language : String) : Bool :=
  settings.languages.supported.contains language

/-- The settings with other supported languages. -/
def withLanguages (settings : Settings) (supported : List String) : Settings :=
  { settings with languages := { settings.languages with supported } }

/-- The settings with another default language. -/
def withDefaultLanguage (settings : Settings) (defaultLanguage : String) : Settings :=
  { settings with languages := { settings.languages with defaultLanguage } }

/-- The settings with another place that templates come from. -/
def withStore (settings : Settings) (store : TemplateStore) : Settings :=
  { settings with languages := { settings.languages with store } }

/-- The settings with another log filter. -/
def withFilter (settings : Settings) (filter : String) : Settings :=
  { settings with log := { settings.log with filter } }

/-- The settings with another log format. -/
def withFormat (settings : Settings) (format : LogFormat) : Settings :=
  { settings with log := { settings.log with format } }

end Settings

end Phrasebook
