import Phrasebook.Text.Visible
import Phrasebook.Text.Extending

/-!
# Quoted text

For display a text stands between double quotes. The double quote and the
backslash are escaped, tab, newline, carriage return and the null character have
letters of their own, and every other character that is not visible or that
would join the one before it is written by its code point. A single quote is not
escaped.
-/

namespace Phrasebook.Text

/-- The lower case hexadecimal digits of a number, without leading zeros. -/
def hexDigits (value : Nat) : List Char := Nat.toDigits 16 value

/-- A character as it stands inside quotes. -/
def quotedChar (c : Char) : List Char :=
  if c == '"' || c == '\\' then ['\\', c]
  else if c == '\n' then ['\\', 'n']
  else if c == '\t' then ['\\', 't']
  else if c == '\r' then ['\\', 'r']
  else if c == '\x00' then ['\\', '0']
  else if isExtending c || !isVisible c then
    ['\\', 'u', '{'] ++ hexDigits c.toNat ++ ['}']
  else [c]

end Phrasebook.Text

namespace Phrasebook

/-- A text between double quotes with its special characters escaped. -/
def quoted (text : String) : String :=
  String.ofList ('"' :: (text.toList.flatMap Text.quotedChar ++ ['"']))

/-- Items between brackets with a comma and a space between each two. -/
def bracketed (items : List String) : String :=
  "[" ++ String.intercalate ", " items ++ "]"

end Phrasebook
