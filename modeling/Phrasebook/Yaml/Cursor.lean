import Phrasebook.Text.ByteRange

/-!
# Positions in YAML text

A cursor is the text that is still to be read and where it lies: how many bytes
come before it, and which line and column it is. A line ends with a carriage
return, a newline, both together, the next-line character, or one of the two
Unicode separators.
-/

namespace Phrasebook.Yaml

open Text (byteLength)

/-- The characters that YAML text may hold: no control characters besides the tab
and the line breaks, and no noncharacters of the basic plane. -/
def isAllowed (c : Char) : Bool :=
  let code := c.toNat
  code == 0x09 || code == 0x0A || code == 0x0D || (0x20 ≤ code && code ≤ 0x7E) ||
    code == 0x85 || (0xA0 ≤ code && code ≤ 0xD7FF) || (0xE000 ≤ code && code ≤ 0xFFFD) ||
    0x10000 ≤ code

/-- A space or a tab. -/
def isBlank (c : Char) : Bool := c == ' ' || c == '\t'

/-- A character that ends a line. -/
def isBreak (c : Char) : Bool :=
  c == '\r' || c == '\n' || c == '\u0085' || c == '\u2028' || c == '\u2029'

/-- A letter or digit of ASCII, an underscore or a hyphen. -/
def isWord (c : Char) : Bool :=
  ('0' ≤ c && c ≤ '9') || ('a' ≤ c && c ≤ 'z') || ('A' ≤ c && c ≤ 'Z') || c == '_' || c == '-'

/-- The text still to be read and where it lies. -/
structure Cursor where
  /-- The text still to be read. -/
  rest : List Char
  /-- How many bytes have been read. -/
  index : Nat := 0
  /-- How many lines have been ended. -/
  line : Nat := 0
  /-- How many characters of the line have been read. -/
  column : Nat := 0

namespace Cursor

/-- The cursor after some characters that end no line. -/
def skip (cursor : Cursor) (count : Nat) : Cursor :=
  { cursor with
    rest := cursor.rest.drop count
    index := cursor.index + byteLength (cursor.rest.take count)
    column := cursor.column + count }

/-- The cursor after a line break, if there is one. -/
def skipBreak (cursor : Cursor) : Cursor :=
  match cursor.rest with
  | '\r' :: '\n' :: rest =>
    { rest, index := cursor.index + 2, line := cursor.line + 1, column := 0 }
  | c :: rest =>
    if isBreak c then
      { rest, index := cursor.index + c.utf8Size, line := cursor.line + 1, column := 0 }
    else cursor
  | [] => cursor

/-- What a line break stands for. The Unicode separators stand for themselves and
all others for a newline; nothing stands for no line break. -/
def breakText (cursor : Cursor) : List Char :=
  match cursor.rest with
  | c :: _ =>
    if !isBreak c then []
    else if c == '\u2028' || c == '\u2029' then [c]
    else ['\n']
  | [] => []

/-- Whether the next character passes a test. -/
def nextIs (cursor : Cursor) (test : Char → Bool) : Bool :=
  match cursor.rest with
  | c :: _ => test c
  | [] => false

/-- Whether a blank, a line break or the end of the text comes after `count` more
characters. -/
def gapAfter (cursor : Cursor) (count : Nat) : Bool :=
  match cursor.rest.drop count with
  | c :: _ => isBlank c || isBreak c
  | [] => true

/-- The longest start of the text in which all characters pass a test that no line
break passes, and the cursor after it. -/
def takeWhile (cursor : Cursor) (test : Char → Bool) : List Char × Cursor :=
  let taken := cursor.rest.takeWhile test
  (taken, cursor.skip taken.length)

/-- The cursor after all characters that pass a test that no line break passes. -/
def skipWhile (cursor : Cursor) (test : Char → Bool) : Cursor := (cursor.takeWhile test).2

/-- The cursor at the end of the line. -/
def skipLine (cursor : Cursor) : Cursor := cursor.skipWhile fun c => !isBreak c

/-- The cursor after blanks and a comment, provided that nothing else is left on
the line. -/
def skipRestOfLine? (cursor : Cursor) : Option Cursor :=
  let afterBlanks := cursor.skipWhile isBlank
  let afterComment := if afterBlanks.nextIs (· == '#') then afterBlanks.skipLine else afterBlanks
  if afterComment.rest.isEmpty || afterComment.nextIs isBreak then some afterComment.skipBreak
  else none

/-- Whether three equal characters stand at the start of a line with a gap after
them. -/
def atMarker (cursor : Cursor) (c : Char) : Bool :=
  cursor.column == 0 && cursor.rest.take 3 == [c, c, c] && cursor.gapAfter 3

/-- Whether a line that starts or ends a document begins here. -/
def atDocumentMarker (cursor : Cursor) : Bool := cursor.atMarker '-' || cursor.atMarker '.'

end Cursor

/-- A run of blanks and line breaks. -/
structure Gap where
  /-- The blanks before the first line break. -/
  spaces : List Char := []
  /-- What the line breaks stand for. -/
  breaks : List Char := []
  /-- Whether a tab stands before a certain column after a line break. -/
  tabbed : Bool := false

namespace Gap

/-- The run of blanks and line breaks at a cursor and the cursor after it. Tabs
are looked for before column `margin`. Every round takes a character. -/
def read (margin : Nat) : Nat → Gap → Cursor → Gap × Cursor
  | 0, gap, cursor => (gap, cursor)
  | rounds + 1, gap, cursor =>
    match cursor.rest with
    | [] => (gap, cursor)
    | c :: _ =>
      if isBreak c then
        read margin rounds { gap with breaks := gap.breaks ++ cursor.breakText } cursor.skipBreak
      else if isBlank c then
        let gap :=
          if gap.breaks.isEmpty then { gap with spaces := gap.spaces ++ [c] }
          else { gap with tabbed := gap.tabbed || (c == '\t' && cursor.column < margin) }
        read margin rounds gap (cursor.skip 1)
      else (gap, cursor)

/-- What a run inside a text of several lines stands for. A single newline stands
for a space, and a newline before other line breaks for nothing. -/
def folded (gap : Gap) : List Char :=
  match gap.breaks with
  | [] => gap.spaces
  | ['\n'] => [' ']
  | '\n' :: others => others
  | breaks => breaks

end Gap

end Phrasebook.Yaml
