import Phrasebook.Settings.Basic
import Phrasebook.Settings.Filter

/-!
# Checking settings

Settings may contradict themselves or hold values that can not be used. All such
problems are reported together, in a fixed order.
-/

namespace Phrasebook

/-- What can be wrong with settings. -/
inductive SettingsProblem where
  /-- There is no supported language. -/
  | noLanguages
  /-- A supported language is blank. -/
  | blankLanguage
  /-- A supported language stands in the list twice. -/
  | duplicateLanguage (language : String)
  /-- The default language is not supported. -/
  | unsupportedDefault (language : String)
  /-- The directory of the language files is empty. -/
  | emptyDirectory
  /-- The log filter can not be used. -/
  | unknownLevel (filter : String)
deriving DecidableEq, Repr

/-- The wording of the report. -/
def SettingsProblem.message : SettingsProblem → String
  | .noLanguages => "supported_languages can not be empty"
  | .blankLanguage => "supported_languages can not contain blank tags"
  | .duplicateLanguage language => "duplicate supported language '" ++ language ++ "'"
  | .unsupportedDefault language =>
    "default_language '" ++ language ++ "' is not in supported_languages"
  | .emptyDirectory => "source directory can not be empty"
  | .unknownLevel filter => "unknown log level '" ++ filter ++ "'"

namespace LanguageSettings

/-- The problems of languages after some earlier ones. -/
def tagProblems (earlier : List String) : List String → List SettingsProblem
  | [] => []
  | language :: rest =>
    let here :=
      if blank language then [.blankLanguage]
      else if earlier.contains language then [.duplicateLanguage language]
      else []
    here ++ tagProblems (language :: earlier) rest

/-- The problem of the default language. It is not reported when there are no
languages at all. -/
def defaultProblems (languages : LanguageSettings) : List SettingsProblem :=
  if languages.supported.isEmpty || languages.supported.contains languages.defaultLanguage then []
  else [.unsupportedDefault languages.defaultLanguage]

/-- The problem of the place that the templates come from. -/
def storeProblems (languages : LanguageSettings) : List SettingsProblem :=
  match languages.store with
  | .files directory => if directory.isEmpty then [.emptyDirectory] else []
  | .inline _ => []

/-- The problems of the languages and their templates. -/
def problems (languages : LanguageSettings) : List SettingsProblem :=
  (if languages.supported.isEmpty then [.noLanguages] else []) ++
    tagProblems [] languages.supported ++ languages.defaultProblems ++ languages.storeProblems

end LanguageSettings

/-- The problems of the log. -/
def LogSettings.problems (log : LogSettings) : List SettingsProblem :=
  if isLogFilter log.filter then [] else [.unknownLevel log.filter]

/-- All problems of settings. -/
def Settings.problems (settings : Settings) : List SettingsProblem :=
  settings.languages.problems ++ settings.log.problems

end Phrasebook
