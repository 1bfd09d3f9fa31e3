import Phrasebook.CommandLine.Level
import Phrasebook.Settings.Environment

/-!
# Reading the command line

The command and what comes after it are read first, and the rest of what comes
before it is judged afterwards. The options for the whole program may stand at
either place, and the later place wins. The path of the settings may also come from
the environment.
-/

namespace Phrasebook.CommandLine

/-- A level that has been read to its end: its options are settled, and the
environment has been asked for the path of the settings where it is not given. -/
structure Finished where
  /-- What has been read. -/
  progress : Progress
  /-- The path of the settings that the environment gives. -/
  environmentPath : Option String

/-- Finish a level. A path from the environment may not be empty either. -/
def finish (environment : Environment) (progress : Progress) : Except UsageFailure Finished := do
  let settled ← progress.settle
  if settled.has .settingsPath then return ⟨settled, none⟩
  else
    match environment Environment.settingsPathVariable with
    | none => return ⟨settled, none⟩
    | some path => if path.isEmpty then .error .invalidValue else return ⟨settled, some path⟩

/-- What becomes of a key without a template, by the options. Failing and showing a
text exclude each other. -/
def policy (progress : Progress) : Except UsageFailure MissingPolicy :=
  let policy : MissingPolicy :=
    { given := progress.value? .default, strict := progress.has .strict }
  if policy.given.isSome && policy.strict then .error .conflict else .ok policy

/-- The command that a level describes. -/
def command (name : CommandName) (progress : Progress) : Except UsageFailure Command := do
  let language := progress.value? .language
  match name with
  | .translate =>
    if progress.words.isEmpty then .error .missingArgument
    else return .translate language progress.words
  | .key =>
    let policy ← policy progress
    match progress.words with
    | [] => .error .missingArgument
    | name :: arguments => return .key language name arguments policy
  | .parse =>
    match progress.words with
    | [] => .error .missingArgument
    | text :: _ => return .parse text (progress.has .pretty)
  | .languages => return .languages
  | .help => .error .helpAsked

/-- What asking for help gives: help on the commands named, of which there may be
one. -/
def help : List String → UsageFailure
  | [] => .helpAsked
  | [word] => if (CommandName.ofWord? word).isSome then .helpAsked else .unknownCommand
  | _ => .unknownCommand

/-- The invocation that arguments describe. -/
def read (environment : Environment) (arguments : List String) :
    Except UsageFailure Invocation := do
  match ← readLevel .outer {} arguments with
  | (_, some (.help, rest)) => .error (help rest)
  | (before, some (name, rest)) =>
    let (after, _) ← readLevel (.after name) {} rest
    let inner ← finish environment after
    let command ← command name inner.progress
    let outer ← finish environment before
    let value? (switch : Switch) : Option String :=
      (inner.progress.value? switch).or (outer.progress.value? switch)
    return {
      settingsPath :=
        (value? .settingsPath).or (inner.environmentPath.or outer.environmentPath)
      filter := value? .filter
      command }
  | (before, none) =>
    let outer ← finish environment before
    if outer.progress.given.isEmpty && outer.environmentPath.isNone then .error .nothingGiven
    else .error .missingCommand

end Phrasebook.CommandLine
