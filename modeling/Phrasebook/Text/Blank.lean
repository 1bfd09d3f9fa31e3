/-!
# Blank characters and trimming

A character is blank when it has the Unicode property `White_Space`. A text is
blank when all of its characters are; the empty text is blank. Trimming removes
the blank characters at both ends and keeps those inside.

The zero-width space, the byte order mark and the information separators do not
have the property, and so they are ordinary characters here.
-/

namespace Phrasebook.Text

/-- Exactly the characters with the Unicode property `White_Space`. -/
def isSpace (c : Char) : Bool :=
  let code := c.toNat
  (9 ≤ code && code ≤ 13) || code == 0x20 || code == 0x85 || code == 0xA0 ||
    code == 0x1680 || (0x2000 ≤ code && code ≤ 0x200A) || code == 0x2028 ||
    code == 0x2029 || code == 0x202F || code == 0x205F || code == 0x3000

/-- True when nothing but blank characters occurs. -/
def isBlank (chars : List Char) : Bool := chars.all isSpace

/-- Without the blank characters before the first other character. -/
def trimStart (chars : List Char) : List Char := chars.dropWhile isSpace

/-- Without the blank characters after the last other character. A blank
character is kept exactly when something other than blanks follows it. -/
def trimEnd : List Char → List Char
  | [] => []
  | c :: rest =>
    match trimEnd rest with
    | [] => if isSpace c then [] else [c]
    | kept => c :: kept

/-- Without the blank characters at either end. -/
def trim (chars : List Char) : List Char := trimEnd (trimStart chars)

end Phrasebook.Text

namespace Phrasebook

/-- A text without the blank characters at either end. -/
def trimmed (text : String) : String := String.ofList (Text.trim text.toList)

/-- True when a text holds nothing but blank characters. -/
def blank (text : String) : Bool := Text.isBlank text.toList

end Phrasebook
