import Phrasebook.CommandLine.Basic

/-!
# Options and words

The command line has two levels, the one before the command and the one after it.
Each has its options and takes some words. An option's value stands after it or is
attached to it. After two hyphens alone, everything is a word.

An option is settled when the next option or word comes, or at the end of its
level. Only then is it known whether it has a value and is not repeated.
-/

namespace Phrasebook.CommandLine

/-- The options of all commands. -/
inductive Switch where
  | settingsPath
  | filter
  | language
  | default
  | strict
  | pretty
  | help
  | version
deriving DecidableEq, Repr

namespace Switch

/-- The name after two hyphens. -/
def longName : Switch → String
  | .settingsPath => "config"
  | .filter => "log-level"
  | .language => "language"
  | .default => "default"
  | .strict => "strict"
  | .pretty => "pretty"
  | .help => "help"
  | .version => "version"

/-- The letter after one hyphen. -/
def letter? : Switch → Option Char
  | .settingsPath => some 'c'
  | .language => some 'l'
  | .help => some 'h'
  | .version => some 'V'
  | _ => none

/-- Whether the option has a value. -/
def takesValue : Switch → Bool
  | .settingsPath | .filter | .language | .default => true
  | _ => false

end Switch

/-- The commands by name. -/
inductive CommandName where
  | translate
  | key
  | parse
  | languages
  /-- Help for commands. -/
  | help
deriving DecidableEq, Repr

namespace CommandName

/-- How a command is written. -/
def written : CommandName → String
  | .translate => "translate"
  | .key => "key"
  | .parse => "parse"
  | .languages => "languages"
  | .help => "help"

/-- The command that a word names. -/
def ofWord? (word : String) : Option CommandName :=
  [translate, key, parse, languages, help].find? fun name => name.written == word

end CommandName

/-- What a level takes. -/
structure Level where
  /-- Its options. -/
  switches : List Switch
  /-- The greatest number of words, if there is one. -/
  wordBound : Option Nat := none
  /-- Whether a command follows. -/
  hasCommands : Bool := false

namespace Level

/-- The level before the command. -/
def outer : Level where
  switches := [.settingsPath, .filter, .help, .version]
  wordBound := some 0
  hasCommands := true

/-- The level after a command. -/
def after : CommandName → Level
  | .translate => { switches := [.settingsPath, .filter, .language, .help] }
  | .key => { switches := [.settingsPath, .filter, .language, .default, .strict, .help] }
  | .parse => { switches := [.settingsPath, .filter, .pretty, .help], wordBound := some 1 }
  | .languages => { switches := [.settingsPath, .filter, .help], wordBound := some 0 }
  | .help => { switches := [], wordBound := some 0 }

/-- Whether there may be another word after some words. -/
def hasRoom (level : Level) (words : List String) : Bool :=
  level.wordBound.all fun bound => words.length < bound

/-- The command that a word names at this level. -/
def command? (level : Level) (word : String) : Option CommandName :=
  if level.hasCommands then CommandName.ofWord? word else none

end Level

/-- What has been read of a level. -/
structure Progress where
  /-- The settled options with their values; those without a value have an empty
  one. -/
  given : List (Switch × String) := []
  /-- The option that is not settled yet, and its value as soon as it has one. -/
  pending : Option (Switch × Option String) := none
  /-- The words. -/
  words : List String := []
  /-- Whether everything from here on is a word. -/
  wordsOnly : Bool := false

namespace Progress

/-- Whether an option has been settled. -/
def has (progress : Progress) (switch : Switch) : Bool :=
  progress.given.any fun entry => entry.1 = switch

/-- The value of an option. -/
def value? (progress : Progress) (switch : Switch) : Option String :=
  (progress.given.find? fun entry => entry.1 = switch).map (·.2)

/-- Settle an option. It may not be repeated, and the path of the settings may not
be empty. -/
def record (progress : Progress) (switch : Switch) (value : String) :
    Except UsageFailure Progress :=
  if progress.has switch then .error .conflict
  else if switch = .settingsPath && value.isEmpty then .error .invalidValue
  else .ok { progress with given := progress.given ++ [(switch, value)], pending := none }

/-- Settle the option that is not settled yet. -/
def settle (progress : Progress) : Except UsageFailure Progress :=
  match progress.pending with
  | none => .ok progress
  | some (_, none) => .error .invalidValue
  | some (switch, some value) => progress.record switch value

/-- Whether the next argument is the value of an option. -/
def awaitsValue (progress : Progress) : Bool :=
  match progress.pending with
  | some (_, none) => true
  | _ => false

/-- An option without a value. Asking for help or the version ends the reading. -/
def addFlag (progress : Progress) (switch : Switch) : Except UsageFailure Progress := do
  let settled ← progress.settle
  match switch with
  | .help => .error .helpAsked
  | .version => .error .versionAsked
  | _ => settled.record switch ""

/-- An option with a value, which may be attached to it or come next. -/
def addOption (progress : Progress) (switch : Switch) (attached : Option String) :
    Except UsageFailure Progress := do
  let settled ← progress.settle
  match attached with
  | some value => settled.record switch value
  | none => .ok { settled with pending := some (switch, none) }

/-- An option by its long name, perhaps with an attached value. -/
def addLong (progress : Progress) (level : Level) (name : String) (attached : Option String) :
    Except UsageFailure Progress :=
  match level.switches.find? fun switch => switch.longName == name with
  | none => .error .unknownArgument
  | some switch =>
    if switch.takesValue then progress.addOption switch attached
    else if attached.isSome then .error .unexpectedValue
    else progress.addFlag switch

/-- Options by their letters. What follows the letter of an option with a value is
that value, with or without an equals sign before it. -/
def addLetters (level : Level) : Progress → List Char → Except UsageFailure Progress
  | progress, [] => .ok progress
  | progress, letter :: rest =>
    match level.switches.find? fun switch => switch.letter? == some letter with
    | none => .error .unknownArgument
    | some switch =>
      if switch.takesValue then
        progress.addOption switch
          (match rest with
          | [] => none
          | '=' :: value => some (String.ofList value)
          | value => some (String.ofList value))
      else do addLetters level (← progress.addFlag switch) rest

/-- The next argument, which is no option: a word, or the value of the option that
awaits one. -/
def addWord (progress : Progress) (level : Level) (word : String) :
    Except UsageFailure Progress := do
  match progress.pending with
  | some (switch, none) =>
    if progress.wordsOnly then refuseOrAdd
    else .ok { progress with pending := some (switch, some word) }
  | _ => refuseOrAdd
where
  /-- A word that nothing awaits. -/
  refuseOrAdd : Except UsageFailure Progress := do
    if level.hasRoom progress.words then
      let settled ← progress.settle
      return { settled with words := settled.words ++ [word] }
    else if level.hasCommands && (CommandName.ofWord? word).isNone then .error .unknownCommand
    else .error .unknownArgument

/-- The next argument. -/
def add (progress : Progress) (level : Level) (argument : String) :
    Except UsageFailure Progress :=
  if progress.wordsOnly then progress.addWord level argument
  else
    match argument.toList with
    | ['-', '-'] => .ok { progress with wordsOnly := true }
    | '-' :: '-' :: chars =>
      let name := chars.takeWhile (· != '=')
      let attached := (chars.drop name.length).tail?.map String.ofList
      progress.addLong level (String.ofList name) attached
    | '-' :: c :: chars => addLetters level progress (c :: chars)
    | _ => progress.addWord level argument

end Progress

/-- What is read of a level, and where a command comes, its name and the arguments
after it. -/
def readLevel (level : Level) : Progress → List String →
    Except UsageFailure (Progress × Option (CommandName × List String))
  | progress, [] => .ok (progress, none)
  | progress, argument :: rest =>
    let command :=
      if progress.wordsOnly || progress.awaitsValue then none else level.command? argument
    match command with
    | some name => .ok (progress, some (name, rest))
    | none => do readLevel level (← progress.add level argument) rest

end Phrasebook.CommandLine
