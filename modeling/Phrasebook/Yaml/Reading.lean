import Phrasebook.Yaml.Node
import Phrasebook.Yaml.Plain

/-!
# What readers ask of YAML nodes

A reader knows what it wants at a place: a text, a truth value, items, members. A
node that cannot give it is refused. A text can be had from every scalar, so a plain
`1` or `null` is a text where one is wanted.

References are followed. Their number is limited, because a short document can use
them to describe a very long one.
-/

namespace Phrasebook.Yaml

/-- Reads something from the nodes of a document. The state is the number of
references that may still be followed. -/
abbrev Reading := ReaderT Document (StateT Nat Option)

/-- What is read from a document. A hundred references may be followed for each mark
in it. -/
def Document.read? {α : Type} (document : Document) (reading : Node → Reading α) : Option α :=
  ((reading document.root).run document).run' (100 * document.root.size)

/-- The tag of scalars that stand for no value. -/
def nullTag : String := "tag:yaml.org,2002:null"

/-- The tag of truth values. -/
def booleanTag : String := "tag:yaml.org,2002:bool"

/-- The text that the bytes of a tag are in UTF-8, if they are. -/
def textOfBytes? (bytes : List Char) : Option String :=
  String.fromUTF8? ⟨(bytes.map fun c => c.toNat.toUInt8).toArray⟩

/-- The name in a tag of a document's own. It must be a text. -/
def localName? (tag : Option String) : Option String :=
  match tag.map String.toList with
  | some ('!' :: name) => textOfBytes? name
  | _ => none

namespace Reading

/-- A node, or the one that it refers to. -/
def follow (node : Node) : Reading Node := do
  match node with
  | .alias number =>
    match ← get with
    | 0 => failure
    | left + 1 =>
      set left
      match (← read).node? number with
      | some found => return found
      | none => failure
  | _ => return node

/-- The text of any scalar. -/
def text (node : Node) : Reading String := do
  match ← follow node with
  | .scalar _ _ text => return text
  | _ => failure

/-- The truth value that a plain scalar spells, or a block that is tagged as one. -/
def boolean (node : Node) : Reading Bool := do
  match ← follow node with
  | .scalar tag style text =>
    if style = .plain || (style = .literal && tag == some booleanTag) then
      match boolean? text with
      | some value => return value
      | none => failure
    else failure
  | _ => failure

/-- The text of a scalar unless it stands for no value. -/
def optionalText (node : Node) : Reading (Option String) := do
  match ← follow node with
  | .absent => return none
  | .scalar tag style text =>
    if style != .plain then return some text
    else if tag == some nullTag then
      if isNull text then return none else failure
    else if tag.isNone && (text.isEmpty || isNull text) then return none
    else return some text
  | _ => failure

/-- A plain scalar in which nothing is written. -/
def isUnwritten : Node → Bool
  | .absent => true
  | .scalar _ style text => style = .plain && text.isEmpty
  | _ => false

/-- The items of a list. Nothing written stands for none. -/
def items (node : Node) : Reading (List Node) := do
  match ← follow node with
  | .sequence _ items => return items
  | other => if isUnwritten other then return [] else failure

/-- The members of a mapping. Nothing written stands for none. -/
def members (node : Node) : Reading (List (Node × Node)) := do
  match ← follow node with
  | .mapping _ members => return members
  | other => if isUnwritten other then return [] else failure

/-- The members of a mapping, with texts for keys. -/
def fields (node : Node) : Reading (List (String × Node)) := do
  (← members node).mapM fun (key, value) => return (← text key, value)

/-- The texts in a list. -/
def texts (node : Node) : Reading (List String) := do (← items node).mapM text

/-- What is read from a member if there is one with its name. It may not be
repeated. -/
def field? {α : Type} (found : List (String × Node)) (name : String) (reading : Node → Reading α) :
    Reading (Option α) := do
  match found.filter (·.1 == name) with
  | [] => return none
  | [(_, node)] => return some (← reading node)
  | _ => failure

/-- What is read from a member that must be there. -/
def field {α : Type} (found : List (String × Node)) (name : String) (reading : Node → Reading α) :
    Reading α := do
  match ← field? found name reading with
  | some value => return value
  | none => failure

/-- Texts by name. -/
def namedTexts (node : Node) : Reading (List (String × String)) := do
  (← fields node).mapM fun (name, value) => return (name, ← text value)

end Reading

end Phrasebook.Yaml
