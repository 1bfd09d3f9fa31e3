import Phrasebook.Text.Digits
import Phrasebook.Yaml.Cursor

/-!
# The texts of YAML scalars

Scalars are written plainly, between quotes, or as indented blocks. Line breaks
inside plain and quoted scalars are folded. A block keeps its line breaks or folds
those between lines that do not begin with a blank, and its last line breaks are
kept, dropped or reduced to one.
-/

namespace Phrasebook.Yaml

open Text (hexChar? isDigit digitValue)

namespace Scalar

/-- The character that a single letter after a backslash stands for. -/
def shortEscape? : Char → Option Char
  | '0' => some '\x00'
  | 'a' => some '\x07'
  | 'b' => some '\x08'
  | 't' => some '\t'
  | '\t' => some '\t'
  | 'n' => some '\n'
  | 'v' => some '\x0b'
  | 'f' => some '\x0c'
  | 'r' => some '\r'
  | 'e' => some '\x1b'
  | ' ' => some ' '
  | '"' => some '"'
  | '/' => some '/'
  | '\\' => some '\\'
  | 'N' => some '\u0085'
  | '_' => some '\u00a0'
  | 'L' => some '\u2028'
  | 'P' => some '\u2029'
  | _ => none

/-- The number of hexadecimal digits after a letter that introduces them. -/
def digitCount? : Char → Option Nat
  | 'x' => some 2
  | 'u' => some 4
  | 'U' => some 8
  | _ => none

/-- The character that an escape stands for, from the letter after its backslash,
and the cursor after it. -/
def escape? (cursor : Cursor) : Option (Char × Cursor) :=
  match cursor.rest with
  | [] => none
  | letter :: rest =>
    match digitCount? letter with
    | some count => (hexChar? count rest).map fun found => (found.1, cursor.skip (count + 1))
    | none => (shortEscape? letter).map fun c => (c, cursor.skip 1)

/-- The cursor after a run of blanks and line breaks inside quotes, which no
document marker may follow, and what the run stands for. -/
def quotedGap? (fold : Gap → List Char) (rounds : Nat) (cursor : Cursor) :
    Option (List Char × Cursor) :=
  let (gap, after) := Gap.read 0 rounds {} cursor
  if after.atDocumentMarker then none else some (fold gap, after)

/-- The text of a quoted scalar from after its opening quote, and the cursor after
its closing quote. Every round takes a character. -/
def quoted? (double : Bool) : Nat → Cursor → Option (List Char × Cursor)
  | 0, _ => none
  | rounds + 1, cursor => do
    let continueWith (text : List Char) (cursor : Cursor) : Option (List Char × Cursor) := do
      let (following, after) ← quoted? double rounds cursor
      return (text ++ following, after)
    match cursor.rest with
    | [] => none
    | c :: rest =>
      if isBlank c || isBreak c then do
        let (text, after) ← quotedGap? Gap.folded (rounds + 1) cursor
        continueWith text after
      else if !double && c == '\'' then
        if rest.head? == some '\'' then continueWith ['\''] (cursor.skip 2)
        else return ([], cursor.skip 1)
      else if double && c == '"' then return ([], cursor.skip 1)
      else if double && c == '\\' then
        let afterSlash := cursor.skip 1
        if afterSlash.nextIs isBreak then do
          let (text, after) ← quotedGap? Gap.breaks rounds afterSlash.skipBreak
          continueWith text after
        else do
          let (character, after) ← escape? afterSlash
          continueWith [character] after
      else continueWith [c] (cursor.skip 1)

/-- The characters that end a plain scalar inside brackets or braces. -/
def isFlowIndicator (c : Char) : Bool :=
  c == ',' || c == '[' || c == ']' || c == '{' || c == '}'

/-- Whether a plain scalar ends at a character that is neither blank nor a line
break. -/
def endsPlain (inFlow : Bool) (cursor : Cursor) : Bool :=
  (cursor.nextIs (· == ':') && cursor.gapAfter 1) || (inFlow && cursor.nextIs isFlowIndicator)

/-- Whether a colon stands where it could end a key inside brackets or braces but
has no gap after it. -/
def hasStrayColon (inFlow : Bool) (cursor : Cursor) : Bool :=
  inFlow && cursor.nextIs (· == ':') &&
    (cursor.skip 1).nextIs fun c => isFlowIndicator c || c == '?'

/-- What a plain scalar gives: its text, the cursor after it and after the blanks
and line breaks that follow it, and whether there is a line break among these. -/
structure Plain where
  /-- The text. -/
  text : List Char
  /-- Whether a line break follows. -/
  brokenAfter : Bool
  /-- The cursor after all that. -/
  after : Cursor

/-- The rest of a plain scalar. `gap` is the run of blanks and line breaks just
read; it belongs to the scalar only if more of the scalar follows. A scalar
outside brackets and braces goes on only where it is indented to column
`margin`. -/
def plain? (inFlow : Bool) (margin : Nat) : Nat → Gap → Cursor → Option Plain
  | 0, _, _ => none
  | rounds + 1, gap, cursor =>
    let ended : Plain := ⟨[], !gap.breaks.isEmpty, cursor⟩
    match cursor.rest with
    | [] => some ended
    | c :: _ =>
      if isBlank c || isBreak c then
        let (gap, after) := Gap.read margin (rounds + 1) {} cursor
        if gap.tabbed then none
        else if (!inFlow && after.column < margin) || after.atDocumentMarker ||
            after.nextIs (· == '#') then
          some ⟨[], !gap.breaks.isEmpty, after⟩
        else plain? inFlow margin rounds gap after
      else if hasStrayColon inFlow cursor then none
      else if endsPlain inFlow cursor then some ended
      else do
        let following ← plain? inFlow margin rounds {} (cursor.skip 1)
        return { following with text := gap.folded ++ c :: following.text }

/-- What becomes of the line breaks at the end of a block. -/
inductive Chomping where
  /-- All are dropped. -/
  | strip
  /-- One is kept. -/
  | clip
  /-- All are kept. -/
  | keep
deriving DecidableEq, Repr

/-- The chomping that a sign asks for. -/
def chomping? : Char → Option Chomping
  | '+' => some .keep
  | '-' => some .strip
  | _ => none

/-- What the header of a block says: the chomping, the added indentation, zero
when it is not given, and the cursor after both. -/
def blockHeader? (cursor : Cursor) : Option (Chomping × Nat × Cursor) :=
  match cursor.rest with
  | [] => some (.clip, 0, cursor)
  | c :: rest =>
    match chomping? c with
    | some chomping =>
      match rest with
      | d :: _ =>
        if !isDigit d then some (chomping, 0, cursor.skip 1)
        else if d == '0' then none
        else some (chomping, digitValue d, cursor.skip 2)
      | [] => some (chomping, 0, cursor.skip 1)
    | none =>
      if !isDigit c then some (.clip, 0, cursor)
      else if c == '0' then none
      else
        match rest.head?.bind chomping? with
        | some chomping => some (chomping, digitValue c, cursor.skip 2)
        | none => some (.clip, digitValue c, cursor.skip 1)

/-- The empty lines at a cursor, what their line breaks stand for, the greatest
column that their spaces reach, and the cursor at the first other line after its
indentation. With `indent` zero, the indentation is still unknown and all spaces
belong to it. No tab may stand in the indentation. -/
def blockBreaks? (indent : Nat) : Nat → List Char → Nat → Cursor → Option (List Char × Nat × Cursor)
  | 0, _, _, _ => none
  | rounds + 1, breaks, greatest, cursor =>
    let spaces := (cursor.rest.takeWhile (· == ' ')).length
    let taken := if indent = 0 then spaces else min spaces (indent - cursor.column)
    let after := cursor.skip taken
    let greatest := max greatest after.column
    if (indent = 0 || after.column < indent) && after.nextIs (· == '\t') then none
    else if after.nextIs isBreak then
      blockBreaks? indent rounds (breaks ++ after.breakText) greatest after.skipBreak
    else some (breaks, greatest, after)

/-- The empty lines at a cursor with as many rounds as there may be. -/
def emptyLines? (indent : Nat) (cursor : Cursor) : Option (List Char × Nat × Cursor) :=
  blockBreaks? indent (cursor.rest.length + 1) [] 0 cursor

/-- What stands between two lines of a block: the break after the first, the
breaks of empty lines, and whether a blank begins the first or the second. -/
def between (folding : Bool) (lineBreak breaks : List Char) (blankBefore blankAfter : Bool) :
    List Char :=
  if folding && lineBreak.head? == some '\n' && !blankBefore && !blankAfter then
    (if breaks.isEmpty then [' '] else []) ++ breaks
  else lineBreak ++ breaks

/-- The lines of a block from a cursor at the first line's text. What comes before
the line is given as for `between`. The line breaks at the end are chomped. -/
def blockLines? (folding : Bool) (chomping : Chomping) (indent : Nat) :
    Nat → List Char → List Char → Bool → Cursor → Option (List Char × Cursor)
  | 0, _, _, _, _ => none
  | rounds + 1, lineBreak, breaks, blankBefore, cursor =>
    if cursor.column != indent || cursor.rest.isEmpty then
      let ending := match chomping with
        | .strip => []
        | .clip => lineBreak
        | .keep => lineBreak ++ breaks
      some (ending, cursor)
    else do
      let blankHere := cursor.nextIs isBlank
      let (line, afterLine) := cursor.takeWhile fun c => !isBreak c
      let (nextBreaks, _, after) ← emptyLines? indent afterLine.skipBreak
      let (following, afterBlock) ←
        blockLines? folding chomping indent rounds afterLine.breakText nextBreaks blankHere after
      let gap := between folding lineBreak breaks blankBefore blankHere
      return (gap ++ line ++ following, afterBlock)

/-- The text of a block from after its indicator, inside a block of the given
indentation, and the cursor after it. -/
def block? (folding : Bool) (parent : Int) (cursor : Cursor) : Option (List Char × Cursor) := do
  let (chomping, added, afterHeader) ← blockHeader? cursor
  let start ← afterHeader.skipRestOfLine?
  let known := if added = 0 then 0 else (max parent 0).toNat + added
  let (breaks, greatest, first) ← emptyLines? known start
  let indent := if known = 0 then max greatest (max (parent + 1) 1).toNat else known
  blockLines? folding chomping indent (first.rest.length + 1) [] breaks false first

end Scalar

end Phrasebook.Yaml
