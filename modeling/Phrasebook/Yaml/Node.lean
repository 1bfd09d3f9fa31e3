import Phrasebook.Yaml.Token

/-!
# YAML nodes

A node is a scalar, a list, a list of members, or a reference to a node elsewhere in
the document. What a plain scalar means depends on who asks for it, so scalars are
kept as they are written.
-/

namespace Phrasebook.Yaml

/-- The content of a document or of a part of it. -/
inductive Node where
  /-- What a text without any document holds. -/
  | absent
  /-- A scalar with its tag. -/
  | scalar (tag : Option String) (style : Style) (text : String)
  /-- A list with its tag. -/
  | sequence (tag : Option String) (items : List Node)
  /-- Members with keys and values, and their tag. -/
  | mapping (tag : Option String) (members : List (Node × Node))
  /-- A reference to the node with a number. -/
  | alias (target : Nat)

namespace Node

/-- The node that stands where nothing is written. -/
def unwritten : Node := .scalar none .plain ""

mutual

/-- The number of marks that write a node: one for each scalar and reference, and
two around the parts of everything else. -/
def size : Node → Nat
  | .absent | .scalar .. | .alias _ => 1
  | .sequence _ items => 2 + itemsSize items
  | .mapping _ members => 2 + membersSize members

/-- The number of marks that write some nodes. -/
def itemsSize : List Node → Nat
  | [] => 0
  | node :: nodes => node.size + itemsSize nodes

/-- The number of marks that write some members. -/
def membersSize : List (Node × Node) → Nat
  | [] => 0
  | (key, value) :: members => key.size + value.size + membersSize members

end

end Node

/-- A node that can be referred to. -/
structure Anchored where
  /-- The number that references give. -/
  number : Nat
  /-- How many anchors come before this one. -/
  order : Nat
  /-- The node. -/
  node : Node

/-- A document. -/
structure Document where
  /-- The whole content. -/
  root : Node
  /-- The nodes that can be referred to. -/
  anchored : List Anchored := []

namespace Document

/-- The node with a number. Of several, the one that begins last counts. -/
def node? (document : Document) (number : Nat) : Option Node :=
  let later (best : Option Anchored) (next : Anchored) : Option Anchored :=
    if next.number != number then best
    else
      match best with
      | some found => if found.order < next.order then some next else best
      | none => some next
  (document.anchored.foldl later none).map (·.node)

end Document

end Phrasebook.Yaml
