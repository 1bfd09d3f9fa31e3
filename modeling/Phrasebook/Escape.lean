import Phrasebook.Text.ByteRange

/-!
# Escaping reserved delimiters

Templates reserve the braces, requests reserve the braces and the at sign. A
delimiter is escaped when the character right before it is a backslash. There
is one level of escaping only: a backslash is never escaped itself, so a brace
after two backslashes counts as escaped and loses one of them.

Escaping puts a backslash before every delimiter. Unescaping accepts a text in
which every delimiter is escaped and drops those backslashes; on any other text
it reports the first delimiter that is not escaped.
-/

namespace Phrasebook

open Text (byteLength ByteRange)

/-- The places that reserve delimiters. -/
inductive Delimiters where
  /-- A template reserves both braces. -/
  | template
  /-- A request reserves both braces and the at sign. -/
  | request
deriving DecidableEq, Repr

/-- Whether a character is reserved. -/
def Delimiters.contains : Delimiters → Char → Bool
  | .template, c => c == '{' || c == '}'
  | .request, c => c == '@' || c == '{' || c == '}'

namespace Escape

/-- The character that escapes the delimiter after it. -/
def marker : Char := '\\'

/-- The characters with a marker before every delimiter. -/
def encode (delimiters : Delimiters) : List Char → List Char
  | [] => []
  | c :: rest =>
    if delimiters.contains c then marker :: c :: encode delimiters rest
    else c :: encode delimiters rest

/-- The byte position and the character of the first delimiter that is not
escaped. The flag tells whether the character before the text is a marker. -/
def stray (delimiters : Delimiters) : Bool → List Char → Option (Nat × Char)
  | _, [] => none
  | escaped, c :: rest =>
    if delimiters.contains c && !escaped then some (0, c)
    else (stray delimiters (c == marker) rest).map fun found => (c.utf8Size + found.1, found.2)

/-- The characters without the marker of each escaped delimiter. A marker that
is followed by anything else stays. -/
def collapse (delimiters : Delimiters) : List Char → List Char
  | [] => []
  | [c] => [c]
  | c :: next :: rest =>
    if c == marker && delimiters.contains next then next :: collapse delimiters rest
    else c :: collapse delimiters (next :: rest)

/-- The text that a fragment stands for, or its first stray delimiter. The
fragment is read on its own: nothing before it can escape its first character. -/
def decode (delimiters : Delimiters) (fragment : List Char) : Except (Nat × Char) (List Char) :=
  match stray delimiters false fragment with
  | some found => .error found
  | none => .ok (collapse delimiters fragment)

end Escape

/-- A delimiter that lacks its escape marker, with all that is needed to point
at it. Both ranges are positions in `input`. -/
structure StrayDelimiter where
  /-- The whole text being read. -/
  input : String
  /-- The part of the text that was checked. -/
  fragment : String
  /-- Where the fragment lies. -/
  fragmentRange : ByteRange
  /-- Where the delimiter lies. -/
  offending : ByteRange
  /-- The delimiter itself. -/
  delimiter : Char
deriving DecidableEq, Repr

/-- The wording of the report. -/
def StrayDelimiter.message (stray : StrayDelimiter) : String :=
  "Found unescaped '" ++ stray.delimiter.toString ++ "' at " ++ stray.offending.describe ++
    " while processing '" ++ stray.fragment ++ "' at " ++ stray.fragmentRange.describe ++
    " of '" ++ stray.input ++ "'"

/-- A text with every delimiter escaped. -/
def escape (delimiters : Delimiters) (text : String) : String :=
  String.ofList (Escape.encode delimiters text.toList)

/-- Where the first delimiter lies that is not escaped. -/
def findUnescaped (delimiters : Delimiters) (text : String) : Option ByteRange :=
  (Escape.stray delimiters false text.toList).map fun found =>
    ⟨found.1, found.1 + found.2.utf8Size⟩

/-- The text that a fragment of `input` stands for. The fragment begins at the
byte position `start`, and reports are in positions of the whole input. -/
def unescapeFragment (delimiters : Delimiters) (input : String) (start : Nat)
    (fragment : List Char) : Except StrayDelimiter (List Char) :=
  match Escape.decode delimiters fragment with
  | .ok text => .ok text
  | .error (offset, delimiter) =>
    .error {
      input
      fragment := String.ofList fragment
      fragmentRange := ByteRange.ofFragment start fragment
      offending := ⟨start + offset, start + offset + delimiter.utf8Size⟩
      delimiter
    }

/-- The text that a whole text stands for. -/
def unescape (delimiters : Delimiters) (text : String) : Except StrayDelimiter String :=
  (unescapeFragment delimiters text 0 text.toList).map String.ofList

end Phrasebook
