import Phrasebook.Toml.Node
import Phrasebook.Toml.Moment

/-!
# Reading TOML

A document is a list of sections: the pairs before the first header, and then each
header with the pairs after it. Reading goes in three steps. The lines are read
first, then the sections are put into one table, section by section, and last the
values of that table are settled.
-/

namespace Phrasebook.Toml

open Text (Scan many)

/-- A key and its value. -/
structure Pair where
  /-- The key's names. -/
  path : List String
  /-- The value. -/
  content : Value

/-- Add pairs to a table in order. -/
def addPairs (pairs : List Pair) (node : Node) : Option Node :=
  pairs.foldlM (fun node pair => node.addValue pair.path pair.content) node

/-- The items of a list from after its opening bracket, with white space, comments
and line breaks around them and perhaps a comma after the last. Each round takes a
character at least, so as many rounds as there are characters are enough. -/
def items? (item : Scan Value) : Nat → Scan (List Value)
  | 0, _ => none
  | rounds + 1, chars =>
    match skipBlank chars with
    | ']' :: rest => some ([], rest)
    | start => do
      let (first, rest) ← item start
      match skipBlank rest with
      | ']' :: rest => return ([first], rest)
      | ',' :: rest =>
        let (others, rest) ← items? item rounds rest
        return (first :: others, rest)
      | _ => none

/-- A key, the equals sign, and what is read after it. -/
def pair? (item : Scan Value) : Scan Pair := fun chars => do
  let (path, rest) ← path? chars
  match rest with
  | '=' :: rest =>
    let (content, rest) ← item (skipSpace rest)
    return (⟨path, content⟩, rest)
  | _ => none

/-- The pairs of a table on one line, after the first pair or the opening brace
and up to the closing brace. -/
def pairs? (item : Scan Value) : Nat → Scan (List Pair)
  | 0, _ => none
  | rounds + 1, chars => do
    let (first, rest) ← pair? item chars
    match skipSpace rest with
    | '}' :: rest => return ([first], rest)
    | ',' :: rest =>
      let (others, rest) ← pairs? item rounds rest
      return (first :: others, rest)
    | _ => none

/-- A table on one line from after its opening brace. It is closed: nothing can be
added to it later. -/
def inlineTable? (item : Scan Value) : Scan Value := fun chars => do
  let (pairs, rest) ← match skipSpace chars with
    | '}' :: rest => some ([], rest)
    | _ => pairs? item chars.length chars
  return ((← addPairs pairs Node.fresh).finish, rest)

/-- A value that may hold lists and tables nested up to a depth. -/
def value? : Nat → Scan Value
  | depth + 1, '[' :: rest =>
    (items? (value? depth) rest.length rest).map fun (items, rest) => (.list items, rest)
  | depth + 1, '{' :: rest => inlineTable? (value? depth) rest
  | _, chars =>
    match quotedText? chars with
    | some (content, rest) => some (.text (String.ofList content), rest)
    | none => (scalar? chars).map fun (kind, rest) => (.scalar kind, rest)

/-- A header of a section. -/
inductive Header where
  /-- A table that is written out. -/
  | table (path : List String)
  /-- Another table of a list. -/
  | listItem (path : List String)

/-- A line of a document. -/
inductive Line where
  /-- A key and its value. -/
  | pair (pair : Pair)
  /-- A header. -/
  | header (header : Header)

/-- A line that is not blank, from its first character up to the next line. -/
def line? : Scan Line
  | '[' :: '[' :: rest => do
    let (path, rest) ← path? rest
    match rest with
    | ']' :: ']' :: rest => return (.header (.listItem path), ← restOfLine? rest)
    | _ => none
  | '[' :: rest => do
    let (path, rest) ← path? rest
    match rest with
    | ']' :: rest => return (.header (.table path), ← restOfLine? rest)
    | _ => none
  | chars => do
    let (pair, rest) ← pair? (value? depthBound) chars
    return (.pair pair, ← restOfLine? rest)

/-- A line after any number of blank ones. -/
def nextLine? : Scan Line := fun chars => line? (skipBlank chars)

/-- The lines of a document that are not blank. The text may start with a byte
order mark. -/
def lines? (chars : List Char) : Option (List Line) :=
  let chars := match chars with
    | '\uFEFF' :: rest => rest
    | _ => chars
  let (lines, rest) := many nextLine? chars
  if (skipComment (skipBlank rest)).isEmpty then some lines else none

/-- A header with the pairs after it. -/
structure Section where
  /-- The header. -/
  header : Header
  /-- The pairs. -/
  pairs : List Pair

/-- The pairs before the first header, and the sections from there on. -/
def sections : List Line → List Pair × List Section
  | [] => ([], [])
  | .pair pair :: rest =>
    let (pairs, following) := sections rest
    (pair :: pairs, following)
  | .header header :: rest =>
    let (pairs, following) := sections rest
    ([], ⟨header, pairs⟩ :: following)

/-- Put a section into the table of the document. -/
def addSection (root : Node) (part : Section) : Option Node :=
  match part.header with
  | .table path => root.addTable path (addPairs part.pairs)
  | .listItem path => root.addToTables path (addPairs part.pairs)

/-- The table that a TOML text describes, with all members in ascending order of
their names. -/
def parse (text : String) : Option Table := do
  let (pairs, following) := sections (← lines? text.toList)
  let root ← following.foldlM addSection (← addPairs pairs Node.fresh)
  match root.finish with
  | .table members => Table.settle? members
  | _ => none

end Phrasebook.Toml
