import Phrasebook.Text.Blank
import Phrasebook.Text.Split

/-!
# Log filters

A log filter is a list of directives with commas between them. A directive is the
name of a level, a target and the name of a level with an equals sign between them,
or a target alone. Only a text with an underscore or a colon passes for a target
that stands alone, because every other text is more likely a misspelt level.
-/

namespace Phrasebook

namespace LogFilter

open Text (splitAt trim isBlank)

/-- The names of the levels. -/
def levels : List String := ["trace", "debug", "info", "warn", "error", "off"]

/-- Whether characters are the name of a level in any case of its letters. -/
def isLevel (chars : List Char) : Bool := levels.contains (String.ofList (chars.map Char.toLower))

/-- What stands after the last equals sign of a directive, without blanks at its
ends. -/
def levelPart (directive : List Char) : List Char :=
  trim ((splitAt '=' directive).getLast?.getD [])

/-- Whether a directive can be used. -/
def acceptsDirective (directive : List Char) : Bool :=
  let level := levelPart directive
  isLevel level || (!directive.contains '=' && (level.contains '_' || level.contains ':'))

/-- Whether all directives of a filter can be used. -/
def accepts (filter : List Char) : Bool :=
  !isBlank filter && (splitAt ',' filter).all acceptsDirective

end LogFilter

/-- Whether a text can be used as a log filter. -/
def isLogFilter (text : String) : Bool := LogFilter.accepts text.toList

end Phrasebook
