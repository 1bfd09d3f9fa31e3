import Phrasebook.Yaml.Reading

/-!
# What YAML nodes say by themselves

A reader that does not know beforehand what it wants takes a node for what it looks
like: a plain scalar is what its spelling stands for, and every other scalar is a
text. Tags may turn a scalar into something else. Tags of a document's own are
refused.
-/

namespace Phrasebook.Yaml

/-- What a node says by itself. -/
inductive Content where
  | plain (value : Plain)
  | sequence (items : List Content)
  | mapping (members : List (Content × Content))

namespace Content

/-- A scalar that is a text. -/
def ofText (text : String) : Content := .plain (.text text)

/-- The text of a scalar that is one. -/
def text? : Content → Option String
  | .plain (.text text) => some text
  | _ => none

/-- The members of a mapping. -/
def members? : Content → Option (List (Content × Content))
  | .mapping members => some members
  | _ => none

end Content

namespace Reading

/-- What a scalar says under its tag. A tag of the document's own that is no text
does not count. -/
def scalar? (tag : Option String) (style : Style) (text : String) : Option Plain :=
  match tag with
  | none => if style = .plain then Plain.ofText? text else some (.text text)
  | some tag =>
    if (localName? tag).isSome then none
    else if tag == booleanTag then (boolean? text).map .boolean
    else if tag == "tag:yaml.org,2002:int" then
      match integer? text.toList with
      | some (isNegative, magnitude) => (Plain.ofInteger? text isNegative magnitude).join
      | none => none
    else if tag == "tag:yaml.org,2002:float" then
      if isFloat text.toList then some (.number text) else none
    else if tag == nullTag then if isNull text then some .null else none
    else if tag.startsWith "!" && style = .plain then Plain.ofText? text
    else some (.text text)

/-- What a node says that may hold nodes nested up to a depth. -/
def content : Nat → Node → Reading Content
  | depth, node => do
    match ← follow node with
    | .absent => return .plain .null
    | .alias _ => failure
    | .scalar tag style text =>
      match scalar? tag style text with
      | some value => return .plain value
      | none => failure
    | .sequence tag items =>
      match depth with
      | 0 => failure
      | depth + 1 =>
        if (localName? tag).isSome then failure
        else return .sequence (← items.mapM (content depth))
    | .mapping tag members =>
      match depth with
      | 0 => failure
      | depth + 1 =>
        if (localName? tag).isSome then failure
        else return .mapping (← members.mapM fun (key, value) =>
          return (← content depth key, ← content depth value))

/-- What the member with a certain name says as a text, and what the others say by
themselves. The member tells which kind of thing the mapping describes, so it must
be there once. In a list, the first item takes its place. The lists and mappings may
be nested up to a depth. -/
def kinded (name : String) : Nat → Node → Reading (String × Content)
  | 0, _ => failure
  | depth + 1, node => do
    match ← follow node with
    | .sequence tag (first :: items) =>
      if (localName? tag).isSome then failure
      else return (← text first, .sequence (← items.mapM (content depth)))
    | .mapping tag members =>
      if (localName? tag).isSome then failure
      else
        let keyed ← members.mapM fun (key, value) => return (← content depth key, value)
        let isKind (member : Content × Node) : Bool := member.1.text? == some name
        match keyed.filter isKind with
        | [(_, kind)] =>
          let others ← (keyed.filter fun member => !isKind member).mapM fun (key, value) =>
            return (key, ← content depth value)
          return (← text kind, .mapping others)
        | _ => failure
    | _ => failure

end Reading

end Phrasebook.Yaml
