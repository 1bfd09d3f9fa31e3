import Phrasebook.Json.Value

/-!
# Writing JSON

There are two forms. The compact form has no white space. The indented form puts
every item and member on a line of its own, two spaces deeper than its container,
and writes an empty container without a line break.

In strings the double quote, the backslash and the control characters below the
space are escaped, and nothing else is.
-/

namespace Phrasebook.Json

/-- A hexadecimal digit in lower case. -/
def hexDigit (value : Nat) : Char := Nat.digitChar (value % 16)

/-- A character as it stands in a string. -/
def stringChar (c : Char) : List Char :=
  if c == '"' || c == '\\' then ['\\', c]
  else if c == '\x08' then ['\\', 'b']
  else if c == '\x0c' then ['\\', 'f']
  else if c == '\n' then ['\\', 'n']
  else if c == '\r' then ['\\', 'r']
  else if c == '\t' then ['\\', 't']
  else if c.toNat < 0x20 then ['\\', 'u', '0', '0', hexDigit (c.toNat / 16), hexDigit c.toNat]
  else [c]

/-- A string with its quotes. A string without a text is written as one half of
a surrogate pair. -/
def writeString : Content → List Char
  | some text => '"' :: (text.toList.flatMap stringChar ++ ['"'])
  | none => ['"', '\\', 'u', 'd', '8', '0', '0', '"']

/-- How the parts of a container are set apart. -/
inductive Layout where
  /-- Nothing between the parts. -/
  | compact
  /-- Each part on a line of its own, at the given depth. -/
  | indented (depth : Nat)

namespace Layout

/-- The layout one level deeper. -/
def deeper : Layout → Layout
  | .compact => .compact
  | .indented depth => .indented (depth + 1)

/-- What stands before a part of a container. -/
def lineBreak : Layout → List Char
  | .compact => []
  | .indented depth => '\n' :: List.replicate (2 * depth) ' '

/-- What stands between a name and its value. -/
def afterName : Layout → List Char
  | .compact => [':']
  | .indented _ => [':', ' ']

end Layout

/-- The words for a value that is no container. -/
def writeBool : Bool → List Char
  | true => ['t', 'r', 'u', 'e']
  | false => ['f', 'a', 'l', 's', 'e']

mutual

/-- The JSON text of a value. -/
def Value.write (layout : Layout) : Value → List Char
  | .null => ['n', 'u', 'l', 'l']
  | .bool value => writeBool value
  | .number written => written
  | .string content => writeString content
  | .array [] => ['[', ']']
  | .array (item :: items) =>
    '[' ::
      (layout.deeper.lineBreak ++ item.write layout.deeper ++ writeItems layout.deeper items) ++
      layout.lineBreak ++ [']']
  | .object [] => ['{', '}']
  | .object (member :: members) =>
    '{' :: (layout.deeper.lineBreak ++ writeMember layout.deeper member ++
      writeMembers layout.deeper members) ++ layout.lineBreak ++ ['}']

/-- Further items of an array, each after a comma. -/
def Value.writeItems (layout : Layout) : List Value → List Char
  | [] => []
  | item :: items =>
    ',' :: (layout.lineBreak ++ item.write layout ++ writeItems layout items)

/-- A name and its value. -/
def Value.writeMember (layout : Layout) : Content × Value → List Char
  | (name, value) => writeString name ++ layout.afterName ++ value.write layout

/-- Further members of an object, each after a comma. -/
def Value.writeMembers (layout : Layout) : List (Content × Value) → List Char
  | [] => []
  | member :: members =>
    ',' :: (layout.lineBreak ++ writeMember layout member ++ writeMembers layout members)

end

end Phrasebook.Json
