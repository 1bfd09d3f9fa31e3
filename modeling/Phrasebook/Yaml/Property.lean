import Phrasebook.Text.Digits
import Phrasebook.Yaml.Cursor
import Phrasebook.Yaml.Token

/-!
# Anchors, tags and directives

The words of a YAML text that stand for themselves: the name of an anchor, a tag,
and a directive before a document. A tag is a handle and a suffix, or it is written
out in full between angle brackets. Bytes may be written in a tag as a percent sign
and two hexadecimal digits. They stay bytes, because nothing demands that they are
UTF-8. A null byte ends what counts of a tag or of a part of one.
-/

namespace Phrasebook.Yaml

open Text (isDigit decimal hexValue?)

/-- The name of an anchor or of a reference to one, from after its sign. -/
def anchorName? (cursor : Cursor) : Option (String × Cursor) :=
  let (name, after) := cursor.takeWhile isWord
  let ends := after.gapAfter 0 || after.nextIs fun c =>
    "?:,]\x7d%@\x60".toList.contains c
  if name.isEmpty || !ends then none else some (String.ofList name, after)

/-- The bytes of an escaped character in a tag. Its first byte tells how many there
are, and all further ones must be continuation bytes. -/
def escapedBytes? : Nat → List Char → Option (List Nat × List Char)
  | count, '%' :: high :: low :: rest => do
    let byte := 16 * (← hexValue? high) + (← hexValue? low)
    match count with
    | 0 => none
    | 1 => if byte / 64 = 2 then return ([byte], rest) else none
    | count + 1 =>
      if byte / 64 = 2 then
        let (others, rest) ← escapedBytes? count rest
        return (byte :: others, rest)
      else none
  | _, _ => none

/-- The number of bytes that continue a character after its first byte. -/
def continuationCount? (byte : Nat) : Option Nat :=
  if byte < 0x80 then some 0
  else if byte / 32 = 6 then some 1
  else if byte / 16 = 14 then some 2
  else if byte / 8 = 30 then some 3
  else none

/-- The characters of an escape in a tag, one for each byte with its value for a
code point. -/
def tagEscape? : List Char → Option (List Char × List Char)
  | '%' :: high :: low :: rest => do
    let byte := 16 * (← hexValue? high) + (← hexValue? low)
    let count ← continuationCount? byte
    if count = 0 then return ([Char.ofNat byte], rest)
    else
      let (others, rest) ← escapedBytes? count rest
      return ((byte :: others).map Char.ofNat, rest)
  | _ => none

/-- A character that may stand in a tag. Some of those that end a tag inside
brackets or braces may stand in one that is written out in full. -/
def isTagChar (inFull : Bool) (c : Char) : Bool :=
  isWord c || c == ';' || c == '/' || c == '?' || c == ':' || c == '@' || c == '&' || c == '=' ||
    c == '+' || c == '$' || c == '.' || c == '!' || c == '~' || c == '*' || c == '\'' ||
    c == '(' || c == ')' || (inFull && (c == ',' || c == '[' || c == ']'))

/-- The characters of a tag or of a part of one, with escapes resolved, and what
follows them. Every round takes a character. -/
def tagChars? (inFull : Bool) : Nat → List Char → Option (List Char × List Char)
  | 0, chars => some ([], chars)
  | rounds + 1, chars =>
    match chars with
    | [] => some ([], [])
    | c :: rest =>
      if c == '%' then do
        let (escaped, rest) ← tagEscape? (c :: rest)
        let (following, rest) ← tagChars? inFull rounds rest
        return (escaped ++ following, rest)
      else if isTagChar inFull c then do
        let (following, rest) ← tagChars? inFull rounds rest
        return (c :: following, rest)
      else some ([], chars)

/-- A part of a tag at a cursor and the cursor after it. -/
def tagPart? (inFull : Bool) (cursor : Cursor) : Option (List Char × Cursor) := do
  let (part, rest) ← tagChars? inFull cursor.rest.length cursor.rest
  return (part, cursor.skip (cursor.rest.length - rest.length))

/-- What counts of a part of a tag. -/
def beforeNull (part : List Char) : String := String.ofList (part.takeWhile (· != '\x00'))

/-- The start of a tag that may be its handle: an exclamation mark, letters and
digits, and perhaps another exclamation mark. -/
def tagHandle? (cursor : Cursor) : Option (List Char × Cursor) :=
  match cursor.rest with
  | '!' :: _ =>
    let (name, after) := (cursor.skip 1).takeWhile isWord
    if after.nextIs (· == '!') then some ('!' :: (name ++ ['!']), after.skip 1)
    else some ('!' :: name, after)
  | _ => none

/-- Whether a handle has a name or is the double exclamation mark. -/
def isFullHandle (handle : List Char) : Bool :=
  1 < handle.length && handle.getLast? == some '!'

/-- The handle and the suffix of a tag, from its exclamation mark. -/
def tag? (cursor : Cursor) : Option (Token × Cursor) := do
  if (cursor.skip 1).nextIs (· == '<') then
    let (suffix, after) ← tagPart? true (cursor.skip 2)
    if suffix.isEmpty || !after.nextIs (· == '>') then none
    else return (.tag "" (beforeNull suffix), after.skip 1)
  else
    let (handle, afterHandle) ← tagHandle? cursor
    let (part, after) ← tagPart? false afterHandle
    if isFullHandle handle then
      if part.isEmpty then none
      else return (.tag (String.ofList handle) (beforeNull part), after)
    else
      let suffix := beforeNull (handle.tail ++ part)
      if suffix.isEmpty then return (.tag "" "!", after) else return (.tag "!" suffix, after)

/-- One number of a version. -/
def versionNumber? (cursor : Cursor) : Option (Nat × Cursor) :=
  let (digits, after) := cursor.takeWhile isDigit
  if digits.isEmpty || 9 < digits.length then none else some (decimal digits, after)

/-- The token of a directive from after its percent sign. -/
def directive? (cursor : Cursor) : Option (Token × Cursor) := do
  let (name, afterName) := cursor.takeWhile isWord
  let argument := afterName.skipWhile isBlank
  if !afterName.gapAfter 0 then none
  else if name == ['Y', 'A', 'M', 'L'] then
    let (major, afterMajor) ← versionNumber? argument
    if !afterMajor.nextIs (· == '.') then none
    else
      let (minor, afterMinor) ← versionNumber? (afterMajor.skip 1)
      return (.version major minor, ← afterMinor.skipRestOfLine?)
  else if name == ['T', 'A', 'G'] then
    let (handle, afterHandle) ← tagHandle? argument
    if !(isFullHandle handle || handle == ['!']) || !afterHandle.nextIs isBlank then none
    else
      let (expansion, after) ← tagPart? true (afterHandle.skipWhile isBlank)
      if expansion.isEmpty || !after.gapAfter 0 then none
      else return (.handle (String.ofList handle) (beforeNull expansion), ← after.skipRestOfLine?)
  else none

end Phrasebook.Yaml
