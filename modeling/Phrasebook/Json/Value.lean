/-!
# JSON values

A value keeps what a JSON text says: members stay in their order, also repeated
ones, and a number stays as it is written. A JSON string may hold an escape for
half of a surrogate pair, and then it stands for no text at all; such strings are
kept apart, since they are harmless where nobody asks for their text.
-/

namespace Phrasebook.Json

/-- The text of a JSON string, or nothing when an escape in it names half of a
surrogate pair. -/
abbrev Content := Option String

/-- A JSON value. -/
inductive Value where
  /-- The value `null`. -/
  | null
  /-- A truth value. -/
  | bool (value : Bool)
  /-- A number as it is written. -/
  | number (written : List Char)
  /-- A string. -/
  | string (content : Content)
  /-- A list of values. -/
  | array (items : List Value)
  /-- Named values in order. -/
  | object (members : List (Content × Value))

/-- The string of a text. -/
def Value.ofText (text : String) : Value := .string (some text)

/-- The text of a string value. -/
def Value.text? : Value → Option String
  | .string content => content
  | _ => none

end Phrasebook.Json
