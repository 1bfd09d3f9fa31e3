import Phrasebook.CommandLine.Reader
import Phrasebook.Files.Tree
import Phrasebook.Localizer.Basic
import Phrasebook.Program.Failure
import Phrasebook.Request.Dump

/-!
# The program

A run goes through fixed steps: the command line, the settings, the log, the
languages, and the command. The first step that fails ends it.
-/

namespace Phrasebook

/-- The files that the templates are read from. -/
def LanguageSettings.paths (settings : LanguageSettings) : List String :=
  match settings.store with
  | .files directory => settings.supported.map (Resource.path directory)
  | .inline _ => []

/-- The source that the settings describe. -/
def LanguageSettings.source (access : FileAccess) (settings : LanguageSettings) :
    Except ProgramFailure Source :=
  match settings.store with
  | .files directory =>
    match Resource.load access directory settings.supported with
    | .ok catalog => .ok catalog.toSource
    | .error failure => .error (.resource failure)
  | .inline catalog => .ok (Catalog.ofLists catalog.toLists).toSource

/-- The localizer that the settings describe. -/
def LanguageSettings.localizer (access : FileAccess) (settings : LanguageSettings) :
    Except ProgramFailure Localizer := do
  let source ← settings.source access
  let resolver ←
    (Resolver.build settings.supported settings.defaultLanguage source).mapError .setup
  return .base resolver

namespace Localizer

/-- The supported languages one below the other, with the default language marked. -/
def languageList (localizer : Localizer) : String :=
  "\n".intercalate (localizer.supportedLanguages.map fun language =>
    if language == localizer.defaultLanguage then language ++ " (default)" else language)

/-- The text of a key on the command line. A text that is given for a missing
template wins over being strict. -/
def answerKey (localizer : Localizer) (language : Option String) (key : Key)
    (policy : MissingPolicy) : Except ProgramFailure String :=
  match policy.given with
  | some text => (localizer.localizeOrDefault language key text).result.mapError .localization
  | none =>
    if !policy.strict then (localizer.localize language key).result.mapError .localization
    else do
      match ← (localizer.localizeOrNone language key).result.mapError .localization with
      | some text => return text
      | none =>
        .error (.missingTemplate (key.name.getD "")
          (language.getD localizer.defaultLanguage))

/-- Where a text is given, being strict makes no difference. -/
theorem answerKey_given (localizer : Localizer) (language : Option String) (key : Key)
    (text : String) (strict : Bool) :
    localizer.answerKey language key ⟨some text, strict⟩ =
      localizer.answerKey language key (.showText text) := rfl

/-- What a command shows. -/
def run (localizer : Localizer) : Command → Except ProgramFailure String
  | .translate language words =>
    (localizer.translate language (" ".intercalate words)).result.mapError .localization
  | .key language name arguments policy =>
    localizer.answerKey language { name := some name, arguments } policy
  | .parse text pretty =>
    match Request.parse text with
    | .ok request => .ok (if pretty then request.dumpIndented else request.dump)
    | .error failure => .error (.localization (.request failure))
  | .languages => .ok localizer.languageList

end Localizer

/-- The files that the settings may be read from. -/
def Invocation.settingsPaths (environment : Environment) (invocation : Invocation) : List String :=
  match invocation.settingsPath.or (environment Environment.settingsPathVariable) with
  | some path => [path]
  | none => Settings.usualPaths

/-- The settings for an invocation. -/
def Invocation.settings (access : FileAccess) (environment : Environment)
    (invocation : Invocation) : Except ProgramFailure Settings := do
  let path := invocation.settingsPath
  let loaded := match path with
    | some path => Settings.loadFile access environment path
    | none => Settings.load access environment
  let settings ← loaded.mapError (.loading path)
  match invocation.filter with
  | some filter => (settings.withCheckedFilter filter).mapError .filter
  | none => return settings

/-- What an invocation shows, when no log is kept. -/
def Invocation.run (access : FileAccess) (environment : Environment) (invocation : Invocation) :
    Except ProgramFailure String := do
  let settings ← invocation.settings access environment
  let localizer ← settings.languages.localizer access
  localizer.run invocation.command

/-- How a run ends for those who started it. -/
structure Outcome where
  /-- Zero for success, two for a command line that can not be read, and one for
  all other failures. -/
  exitCode : Nat
  /-- What is shown. -/
  shown : String := ""
  /-- What is reported. -/
  reported : Option String := none
deriving DecidableEq, Repr

namespace Outcome

/-- The outcome of a command line that is not carried out. What the user is told
about its use is no part of it. -/
def ofUsage (failure : UsageFailure) : Outcome where
  exitCode := if failure.isInformation then 0 else 2

/-- The outcome of a run. -/
def ofResult : Except ProgramFailure String → Outcome
  | .ok shown => { exitCode := 0, shown := shown ++ "\n" }
  | .error failure => { exitCode := 1, reported := some failure.report.text }

end Outcome

/-- The files as they are after the log has been opened. Without a log file,
nothing happens to them. -/
def LogSettings.openLog (settings : LogSettings) (tree : FileTree) :
    Except ProgramFailure FileTree :=
  match settings.filePath with
  | some path => (tree.openForAppending path).mapError .log
  | none => .ok tree

/-- What an invocation shows, when its log is kept. -/
def Invocation.runLogged (tree : FileTree) (environment : Environment)
    (invocation : Invocation) : Except ProgramFailure String := do
  let settings ← invocation.settings tree.access environment
  let opened ← settings.log.openLog tree
  let localizer ← settings.languages.localizer opened.access
  localizer.run invocation.command

/-- How a run of the program ends. -/
def outcome (tree : FileTree) (environment : Environment) (arguments : List String) : Outcome :=
  match CommandLine.read environment arguments with
  | .error failure => .ofUsage failure
  | .ok invocation => .ofResult (invocation.runLogged tree environment)

end Phrasebook
