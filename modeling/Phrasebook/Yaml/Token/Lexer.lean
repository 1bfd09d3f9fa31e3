import Phrasebook.Yaml.Property
import Phrasebook.Yaml.Scalar

/-!
# Reading YAML tokens

Tokens are read one after the other. What starts a token depends on the
indentation, on how many brackets and braces are open, and on whether a key may
begin here.

A colon tells only afterwards that the scalar before it was a key. So the place
where a key may have begun is remembered, one for each open bracket or brace and
one for the block outside. When the colon comes, the tokens that start a key and
perhaps a block are put in at that place. A key must lie on one line and be no
longer than 1024 bytes. Where a block's indentation demands a key, it is an
error when no colon comes.
-/

namespace Phrasebook.Yaml

/-- A place where a key may have begun. -/
structure PossibleKey where
  /-- The number of tokens before it. -/
  position : Nat
  /-- Whether there must be a key. -/
  required : Bool
  /-- Where it begins. -/
  start : Cursor

/-- The state between two tokens. -/
structure Lexer where
  /-- The text still to be read. -/
  cursor : Cursor
  /-- The tokens so far. -/
  tokens : Array Token := #[]
  /-- The column of the innermost block, `-1` outside all blocks. -/
  indent : Int := -1
  /-- The columns of the blocks around it, innermost first. -/
  indents : List Int := []
  /-- Whether a key may begin here. -/
  keyAllowed : Bool := true
  /-- Where a key may have begun inside the innermost bracket or brace. -/
  possible : Option PossibleKey := none
  /-- The same for what lies around each open bracket or brace, innermost first. -/
  outer : List (Option PossibleKey) := []

namespace Lexer

/-- Whether a bracket or brace is open. -/
def inFlow (lexer : Lexer) : Bool := !lexer.outer.isEmpty

/-- The lexer with one more token. -/
def push (lexer : Lexer) (token : Token) : Lexer :=
  { lexer with tokens := lexer.tokens.push token }

/-- The lexer with one more token that takes `count` characters. -/
def pushSkip (lexer : Lexer) (token : Token) (count : Nat) : Lexer :=
  { lexer with tokens := lexer.tokens.push token, cursor := lexer.cursor.skip count }

/-- The lexer with a token put in at a position. -/
def putIn (lexer : Lexer) (position : Nat) (token : Token) : Lexer :=
  { lexer with
    tokens := lexer.tokens.extract 0 position ++ #[token] ++
      lexer.tokens.extract position lexer.tokens.size }

/-- The lexer after white space, comments and line breaks. A line break outside
brackets and braces lets a key begin. Tabs are white space only where no key may
begin or inside brackets and braces. A byte order mark that starts a line is passed
over, and like every other character it takes a column. Every round takes a
character. -/
def skipGap : Nat → Lexer → Lexer
  | 0, lexer => lexer
  | rounds + 1, lexer =>
    let tabs := lexer.inFlow || !lexer.keyAllowed
    let startsWithMark := lexer.cursor.column == 0 && lexer.cursor.nextIs (· == '\uFEFF')
    let afterMark := if startsWithMark then lexer.cursor.skip 1 else lexer.cursor
    let afterBlanks := afterMark.skipWhile fun c => c == ' ' || (tabs && c == '\t')
    let cursor := if afterBlanks.nextIs (· == '#') then afterBlanks.skipLine else afterBlanks
    if cursor.nextIs isBreak then
      skipGap rounds { lexer with
        cursor := cursor.skipBreak
        keyAllowed := lexer.keyAllowed || !lexer.inFlow }
    else { lexer with cursor }

/-- Whether a key that began at a place can no longer end at the cursor. -/
def isStale (cursor : Cursor) (key : PossibleKey) : Bool :=
  key.start.line < cursor.line || key.start.index + 1024 < cursor.index

/-- Give up a possible key, which is an error when it is required. -/
def dropKey? : Option PossibleKey → Option (Option PossibleKey)
  | some key => if key.required then none else some none
  | none => some none

/-- Give up all possible keys that can no longer end. -/
def dropStaleKeys? (lexer : Lexer) : Option Lexer := do
  let check (possible : Option PossibleKey) : Option (Option PossibleKey) :=
    match possible with
    | some key => if isStale lexer.cursor key then dropKey? possible else some possible
    | none => some none
  return { lexer with
    possible := ← check lexer.possible
    outer := ← lexer.outer.mapM check }

/-- Give up the possible key inside the innermost bracket or brace. -/
def forgetKey? (lexer : Lexer) : Option Lexer := do
  return { lexer with possible := ← dropKey? lexer.possible }

/-- Remember that a key may begin here, if it may. A key is required at the column
of the innermost block. -/
def noteKey? (lexer : Lexer) : Option Lexer :=
  if lexer.keyAllowed then do
    let lexer ← lexer.forgetKey?
    return { lexer with
      possible := some {
        position := lexer.tokens.size
        required := !lexer.inFlow && lexer.indent == lexer.cursor.column
        start := lexer.cursor } }
  else some lexer

/-- Start a block at a column if it is deeper than the innermost one, with its
token put in at a position. -/
def openBlock (lexer : Lexer) (column position : Nat) (token : Token) : Lexer :=
  if !lexer.inFlow && lexer.indent < column then
    { lexer.putIn position token with
      indents := lexer.indent :: lexer.indents
      indent := column }
  else lexer

/-- End the blocks that are deeper than a column. -/
def closeBlocks (column : Int) : List Int → Lexer → Lexer
  | [], lexer => lexer
  | outer :: indents, lexer =>
    if column < lexer.indent then
      closeBlocks column indents { lexer.push .blockEnd with indent := outer, indents }
    else lexer

/-- End the blocks that are deeper than a column. There are none to end inside
brackets and braces. -/
def closeTo (lexer : Lexer) (column : Int) : Lexer :=
  if lexer.inFlow then lexer else closeBlocks column lexer.indents lexer

/-- End all blocks before a line that belongs to no block. -/
def leaveBlocks? (lexer : Lexer) : Option Lexer := do
  let lexer ← (lexer.closeTo (-1)).forgetKey?
  return { lexer with keyAllowed := false }

/-- A bracket or brace is opened. -/
def openFlow? (token : Token) (lexer : Lexer) : Option Lexer := do
  let lexer ← lexer.noteKey?
  return { lexer.pushSkip token 1 with
    keyAllowed := true
    possible := none
    outer := lexer.possible :: lexer.outer }

/-- A bracket or brace is closed. -/
def closeFlow? (token : Token) (lexer : Lexer) : Option Lexer := do
  let lexer ← lexer.forgetKey?
  return { lexer.pushSkip token 1 with
    keyAllowed := false
    possible := lexer.outer.headD none
    outer := lexer.outer.tail }

/-- A comma inside brackets or braces. -/
def flowEntry? (lexer : Lexer) : Option Lexer := do
  let lexer ← lexer.forgetKey?
  return { lexer.pushSkip .flowEntry 1 with keyAllowed := true }

/-- The hyphen of a sequence. Outside brackets and braces it may begin a block. -/
def blockEntry? (lexer : Lexer) : Option Lexer :=
  if !lexer.inFlow && !lexer.keyAllowed then none
  else do
    let opened := lexer.openBlock lexer.cursor.column lexer.tokens.size .blockSequenceStart
    let lexer ← opened.forgetKey?
    return { lexer.pushSkip .blockEntry 1 with keyAllowed := true }

/-- The question mark before a key. -/
def key? (lexer : Lexer) : Option Lexer :=
  if !lexer.inFlow && !lexer.keyAllowed then none
  else do
    let opened := lexer.openBlock lexer.cursor.column lexer.tokens.size .blockMappingStart
    let lexer ← opened.forgetKey?
    return { lexer.pushSkip .key 1 with keyAllowed := !lexer.inFlow }

/-- The colon after a key. -/
def value? (lexer : Lexer) : Option Lexer :=
  match lexer.possible with
  | some key =>
    let withKey := lexer.putIn key.position .key
    let opened := withKey.openBlock key.start.column key.position .blockMappingStart
    some { opened.pushSkip .value 1 with possible := none, keyAllowed := false }
  | none =>
    if !lexer.inFlow && !lexer.keyAllowed then none
    else
      let opened := lexer.openBlock lexer.cursor.column lexer.tokens.size .blockMappingStart
      some { opened.pushSkip .value 1 with keyAllowed := !lexer.inFlow }

/-- The lexer after a token that begins at the cursor, may be a key, and ends at
another cursor. -/
def pushNode? (lexer : Lexer) (token : Token) (after : Cursor) : Option Lexer := do
  let lexer ← lexer.noteKey?
  return { lexer.push token with cursor := after, keyAllowed := false }

/-- Whether a tag may end at a cursor. -/
def tagEnds (lexer : Lexer) (cursor : Cursor) : Bool :=
  cursor.gapAfter 0 || (lexer.inFlow && cursor.nextIs (· == ','))

/-- Whether a plain scalar may begin with a character. -/
def mayBeginPlain (lexer : Lexer) (c : Char) : Bool :=
  let indicator := "-?:,[]\x7b\x7d#&*!|>'\"%@\x60".toList.contains c
  !(indicator || isBlank c) || (c == '-' && !(lexer.cursor.skip 1).nextIs isBlank) ||
    (!lexer.inFlow && (c == '?' || c == ':') && !lexer.cursor.gapAfter 1)

/-- A quoted scalar. -/
def quoted? (double : Bool) (lexer : Lexer) : Option Lexer := do
  let cursor := lexer.cursor.skip 1
  let (text, after) ← Scalar.quoted? double (cursor.rest.length + 1) cursor
  let style := if double then Style.doubleQuoted else Style.singleQuoted
  lexer.pushNode? (.scalar style (String.ofList text)) after

/-- A scalar that is written as a block. -/
def block? (folding : Bool) (lexer : Lexer) : Option Lexer := do
  let lexer ← lexer.forgetKey?
  let (text, after) ← Scalar.block? folding lexer.indent (lexer.cursor.skip 1)
  let style := if folding then Style.folded else Style.literal
  return { lexer.push (.scalar style (String.ofList text)) with
    cursor := after
    keyAllowed := true }

/-- A plain scalar. A line break after it lets a key begin. -/
def plain? (lexer : Lexer) : Option Lexer := do
  let plain ← Scalar.plain? lexer.inFlow (lexer.indent + 1).toNat
    (lexer.cursor.rest.length + 1) {} lexer.cursor
  let lexer ← lexer.pushNode? (.scalar .plain (String.ofList plain.text)) plain.after
  return { lexer with keyAllowed := plain.brokenAfter }

/-- The token at the cursor, which stands at its first character `c`. -/
def token? (lexer : Lexer) (c : Char) : Option Lexer :=
  let cursor := lexer.cursor
  let spaced := cursor.gapAfter 1
  if cursor.column == 0 && c == '%' then do
    let lexer ← lexer.leaveBlocks?
    let (token, after) ← directive? (cursor.skip 1)
    return { lexer.push token with cursor := after }
  else if cursor.atMarker '-' then
    lexer.leaveBlocks?.map (·.pushSkip .documentStart 3)
  else if cursor.atMarker '.' then
    lexer.leaveBlocks?.map (·.pushSkip .documentEnd 3)
  else if c == '[' then lexer.openFlow? .flowSequenceStart
  else if c == '{' then lexer.openFlow? .flowMappingStart
  else if c == ']' then lexer.closeFlow? .flowSequenceEnd
  else if c == '}' then lexer.closeFlow? .flowMappingEnd
  else if c == ',' then lexer.flowEntry?
  else if c == '-' && spaced then lexer.blockEntry?
  else if c == '?' && (lexer.inFlow || spaced) then lexer.key?
  else if c == ':' && (lexer.inFlow || spaced) then lexer.value?
  else if c == '*' then do
    let (name, after) ← anchorName? (cursor.skip 1)
    lexer.pushNode? (.alias name) after
  else if c == '&' then do
    let (name, after) ← anchorName? (cursor.skip 1)
    lexer.pushNode? (.anchor name) after
  else if c == '!' then do
    let (token, after) ← tag? cursor
    if lexer.tagEnds after then lexer.pushNode? token after else none
  else if c == '|' && !lexer.inFlow then lexer.block? false
  else if c == '>' && !lexer.inFlow then lexer.block? true
  else if c == '\'' then lexer.quoted? false
  else if c == '"' then lexer.quoted? true
  else if lexer.mayBeginPlain c then lexer.plain?
  else none

/-- All tokens from the cursor on. Every round takes a character, except for the
last. -/
def run? : Nat → Lexer → Option Lexer
  | 0, _ => none
  | rounds + 1, lexer => do
    let lexer ← (skipGap (lexer.cursor.rest.length + 1) lexer).dropStaleKeys?
    let lexer := lexer.closeTo lexer.cursor.column
    match lexer.cursor.rest with
    | [] => lexer.leaveBlocks?
    | c :: _ => run? rounds (← lexer.token? c)

end Lexer

/-- The tokens of a YAML text. -/
def tokens? (chars : List Char) : Option (List Token) := do
  if chars.all isAllowed then
    let lexer ← Lexer.run? (chars.length + 1) { cursor := { rest := chars } }
    return lexer.tokens.toList
  else none

end Phrasebook.Yaml
