/-!
# Commands

What the program can be asked to do on its command line.
-/

namespace Phrasebook

/-- What becomes of a key without a template. -/
structure MissingPolicy where
  /-- The text that is shown in its place, if one is given. -/
  given : Option String := none
  /-- Whether the command fails if no text is given. Otherwise it shows the key's name. -/
  strict : Bool := false
deriving DecidableEq, Repr

namespace MissingPolicy

/-- The key's name is shown. -/
@[match_pattern] def showName : MissingPolicy := ⟨none, false⟩

/-- This text is shown. -/
@[match_pattern] def showText (text : String) : MissingPolicy := ⟨some text, false⟩

/-- The command fails. -/
@[match_pattern] def refuse : MissingPolicy := ⟨none, true⟩

end MissingPolicy

/-- What the program is asked to do. -/
inductive Command where
  /-- Translate words. -/
  | translate (language : Option String) (words : List String)
  /-- Show the text of a key. -/
  | key (language : Option String) (name : String) (arguments : List String)
      (policy : MissingPolicy)
  /-- Show a request text as JSON, perhaps with each part on a line of its own. -/
  | parse (text : String) (pretty : Bool)
  /-- List the supported languages. -/
  | languages
deriving DecidableEq, Repr

/-- A command and what holds for the whole program. -/
structure Invocation where
  /-- The file to read settings from. -/
  settingsPath : Option String
  /-- The log filter that replaces the one in the settings. -/
  filter : Option String
  /-- The command. -/
  command : Command
deriving DecidableEq, Repr

/-- Why a command line is not carried out. -/
inductive UsageFailure where
  /-- Help is asked for. -/
  | helpAsked
  /-- The version is asked for. -/
  | versionAsked
  /-- There is nothing on the command line. -/
  | nothingGiven
  /-- There is no command. -/
  | missingCommand
  /-- The command is not known. -/
  | unknownCommand
  /-- An argument is not expected. -/
  | unknownArgument
  /-- The value of an option is missing or empty. -/
  | invalidValue
  /-- An option that takes no value has one. -/
  | unexpectedValue
  /-- An option is repeated or excludes another one. -/
  | conflict
  /-- A required argument is missing. -/
  | missingArgument
deriving DecidableEq, Repr

namespace UsageFailure

/-- What the user is told. -/
def message : UsageFailure → String
  | .helpAsked | .nothingGiven => usage
  | .versionAsked => "simloc 0.1.0"
  | .missingCommand => "error: a command is required"
  | .unknownCommand => "error: the command is not known"
  | .unknownArgument => "error: an argument is not expected"
  | .invalidValue => "error: a value is missing"
  | .unexpectedValue => "error: a value is not expected"
  | .conflict => "error: an option is repeated or excludes another one"
  | .missingArgument => "error: a required argument is missing"
where
  /-- How to use the program. -/
  usage : String := "\n".intercalate [
    "Key-based localization from the command line",
    "",
    "Usage: simloc [OPTIONS] <COMMAND>",
    "",
    "Commands:",
    "  translate [-l LANGUAGE] TEXT...",
    "  key [-l LANGUAGE] [--default TEXT | --strict] KEY [ARGUMENT]...",
    "  parse [--pretty] TEXT",
    "  languages",
    "  help [COMMAND]",
    "",
    "Options:",
    "  -c, --config PATH",
    "      --log-level FILTER",
    "  -h, --help",
    "  -V, --version"]

/-- Whether nothing is wrong: the user wants to be told something. -/
def isInformation : UsageFailure → Bool
  | .helpAsked | .versionAsked => true
  | _ => false

end UsageFailure

end Phrasebook
