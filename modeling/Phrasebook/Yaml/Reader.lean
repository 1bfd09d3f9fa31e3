import Phrasebook.Yaml.Node
import Phrasebook.Yaml.Token.Lexer

/-!
# Reading YAML documents

A document is read from its tokens. Directives may come before it, and its end may
be marked. A text holds one document at most.

Each anchor gives its node the number of different names that were in use before
it. A name that is used again refers to the later node from there on.
-/

namespace Phrasebook.Yaml

/-- What is known at some point of a text. -/
structure Progress where
  /-- The tokens still to be read. -/
  tokens : List Token
  /-- What the tag handles stand for. -/
  handles : List (String × String) := []
  /-- The anchor names in use and their numbers. -/
  names : List (String × Nat) := []
  /-- The number of anchors so far. -/
  anchors : Nat := 0
  /-- The anchored nodes that have been read. -/
  anchored : List Anchored := []

/-- A step of reading, which may fail. -/
abbrev Step := StateT Progress Option

namespace Step

/-- The next token, if there is one. -/
def next? : Step (Option Token) := return (← get).tokens.head?

/-- Go past the next token. -/
def advance : Step Unit := modify fun progress => { progress with tokens := progress.tokens.tail }

/-- Whether the next token is one of some, or there is none. -/
def atAny (tokens : List Token) : Step Bool := return (← next?).all tokens.contains

/-- Go past the next token if it is the given one, and tell whether it is. -/
def accept (token : Token) : Step Bool := do
  if (← next?) == some token then
    advance
    return true
  else return false

/-- Go past the given token, which must come next. -/
def expect (token : Token) : Step Unit := do
  unless ← accept token do failure

/-- The node that comes next, or an unwritten one where one of some tokens shows
that there is none. -/
def nodeUnless (tokens : List Token) (node : Step Node) : Step Node := do
  if ← atAny tokens then return Node.unwritten else node

/-- The items of a sequence that has a block of its own, from after its start.
Every round takes a token. -/
def blockItems (item : Step Node) : Nat → Step (List Node)
  | 0 => failure
  | rounds + 1 => do
    if ← accept .blockEnd then return []
    else
      expect .blockEntry
      let first ← nodeUnless [.blockEntry, .blockEnd] item
      return first :: (← blockItems item rounds)

/-- The items of a sequence that is not indented more than its key. It ends before
whatever is no item. Every round takes a token. -/
def levelItems (item : Step Node) : Nat → Step (List Node)
  | 0 => failure
  | rounds + 1 => do
    if ← accept .blockEntry then
      let first ← nodeUnless [.blockEntry, .key, .value, .blockEnd] item
      return first :: (← levelItems item rounds)
    else return []

/-- The members of a mapping that has a block of its own, from after its start.
Every round takes a token. -/
def blockMembers (item : Step Node) : Nat → Step (List (Node × Node))
  | 0 => failure
  | rounds + 1 => do
    if ← accept .blockEnd then return []
    else
      expect .key
      let key ← nodeUnless [.key, .value, .blockEnd] item
      let value ←
        if ← accept .value then nodeUnless [.key, .value, .blockEnd] item
        else pure Node.unwritten
      return (key, value) :: (← blockMembers item rounds)

/-- Entries with commas between them, perhaps a comma after the last, and the
closing token. Every round takes a token. -/
def flowEntries {α : Type} (closing : Token) (entry : Step α) : Nat → Bool → Step (List α)
  | 0, _ => failure
  | rounds + 1, isFirst => do
    if ← accept closing then return []
    else
      unless isFirst do expect .flowEntry
      if ← accept closing then return []
      else
        let first ← entry
        return first :: (← flowEntries closing entry rounds false)

/-- The value of a member between brackets or braces, if a colon introduces it. -/
def flowValue (closing : Token) (item : Step Node) : Step Node := do
  if ← accept .value then nodeUnless [.flowEntry, closing] item else return Node.unwritten

/-- An entry between brackets. A key makes it a mapping with one member. A token
that stands where the key should be is lost. -/
def flowItem (item : Step Node) : Step Node := do
  if ← accept .key then
    let key ←
      if ← atAny [.value, .flowEntry, .flowSequenceEnd] then
        advance
        pure Node.unwritten
      else item
    return .mapping none [(key, ← flowValue .flowSequenceEnd item)]
  else item

/-- An entry between braces. Without a key sign it is a key alone. -/
def flowMember (item : Step Node) : Step (Node × Node) := do
  if ← accept .key then
    let key ← nodeUnless [.value, .flowEntry, .flowMappingEnd] item
    return (key, ← flowValue .flowMappingEnd item)
  else return (← item, Node.unwritten)

/-- The name that the next token gives to the node after it, if it does. -/
def anchor? : Step (Option String) := do
  match ← next? with
  | some (.anchor name) =>
    advance
    return some name
  | _ => return none

/-- The tag that the next token gives to the node after it, if it does. Its handle
must be known. -/
def tag? : Step (Option String) := do
  match ← next? with
  | some (.tag handle suffix) =>
    advance
    if handle.isEmpty then return some suffix
    else
      match (← get).handles.lookup handle with
      | some expansion => return some (expansion ++ suffix)
      | none => failure
  | _ => return none

/-- The name and the tag before a node, in either order. -/
def properties : Step (Option String × Option String) := do
  match ← anchor? with
  | some name => return (some name, ← tag?)
  | none =>
    let tag ← tag?
    return (← anchor?, tag)

/-- Give a name its number and return this number and the anchor's place among all
anchors. -/
def register (name : String) : Step (Nat × Nat) := do
  let progress ← get
  let number := progress.names.length
  set { progress with
    names := (name, number) :: progress.names.filter (·.1 != name)
    anchors := progress.anchors + 1 }
  return (number, progress.anchors)

/-- Read a node that a name may refer to. -/
def anchoring (name : Option String) (node : Step Node) : Step Node := do
  match name with
  | none => node
  | some name =>
    let (number, order) ← register name
    let found ← node
    modify fun progress =>
      { progress with anchored := ⟨number, order, found⟩ :: progress.anchored }
    return found

/-- The content of a node after its name and its tag. `item` reads the nodes
inside. `isNamed` says that there is a name. A sequence that is not indented may
come only where `level` says so, and a block only where `block` does. -/
def content (item : Bool → Bool → Step Node) (block level isNamed : Bool) (tag : Option String) :
    Step Node := do
  let rounds := (← get).tokens.length + 1
  match ← next? with
  | some .blockEntry =>
    if level then return .sequence tag (← levelItems (item true false) rounds) else unmarked
  | some (.scalar style text) =>
    advance
    return .scalar tag style text
  | some .flowSequenceStart =>
    advance
    let inside := item false false
    return .sequence tag (← flowEntries .flowSequenceEnd (flowItem inside) rounds true)
  | some .flowMappingStart =>
    advance
    let inside := item false false
    return .mapping tag (← flowEntries .flowMappingEnd (flowMember inside) rounds true)
  | some .blockSequenceStart =>
    if block then
      advance
      return .sequence tag (← blockItems (item true false) rounds)
    else unmarked
  | some .blockMappingStart =>
    if block then
      advance
      return .mapping tag (← blockMembers (item true true) rounds)
    else unmarked
  | _ => unmarked
where
  /-- Only a name or a tag shows that there is a node. -/
  unmarked : Step Node :=
    if isNamed || tag.isSome then return .scalar tag .plain "" else failure

/-- A node that may hold nodes nested up to a depth. -/
def node : Nat → Bool → Bool → Step Node
  | 0, _, _ => failure
  | depth + 1, block, level => do
    match ← next? with
    | some (.alias name) =>
      advance
      match (← get).names.lookup name with
      | some number => return .alias number
      | none => failure
    | _ =>
      let (name, tag) ← properties
      anchoring name (content (node depth) block level name.isSome tag)

/-- The directives before a document, as far as they have been read. -/
structure Directives where
  /-- Whether the version has been given. -/
  hasVersion : Bool := false
  /-- The tag handles that have been given. -/
  handles : List (String × String) := []

/-- The directives before a document. The version and every handle may be given
once. Every round takes a token. -/
def directives : Nat → Directives → Step Directives
  | 0, _ => failure
  | rounds + 1, found => do
    match ← next? with
    | some (.version major minor) =>
      advance
      if found.hasVersion || major != 1 || !(minor == 1 || minor == 2) then failure
      else directives rounds { found with hasVersion := true }
    | some (.handle name expansion) =>
      advance
      if (found.handles.lookup name).isSome then failure
      else directives rounds { found with handles := (name, expansion) :: found.handles }
    | _ => return found

/-- The handles that every document may use. -/
def commonHandles : List (String × String) := [("!", "!"), ("!!", "tag:yaml.org,2002:")]

/-- Whether the next token shows that a document has no content. -/
def atContentEnd : Step Bool := do
  match ← next? with
  | none | some (.version ..) | some (.handle ..) | some .documentStart | some .documentEnd =>
    return true
  | _ => return false

/-- The content of the only document in a text. -/
def wholeText : Step Node := do
  let rounds := (← get).tokens.length + 1
  if (← next?).isNone then return .absent
  else
    let found ← directives rounds {}
    modify fun progress => { progress with handles := found.handles ++ commonHandles }
    let isMarked := !found.handles.isEmpty || found.hasVersion
    let hasStart ← accept .documentStart
    if isMarked && !hasStart then failure
    else
      let root ←
        if hasStart then
          if ← atContentEnd then pure Node.unwritten else node rounds true false
        else node rounds true false
      dropEnds rounds
      if (← next?).isNone then return root else failure
where
  /-- Go past the marks of the document's end. -/
  dropEnds : Nat → Step Unit
    | 0 => failure
    | rounds + 1 => do
      if ← accept .documentEnd then dropEnds rounds else return ()

end Step

/-- The document that tokens write. -/
def documentOfTokens? (tokens : List Token) : Option Document := do
  let (root, progress) ← Step.wholeText.run { tokens }
  return { root, anchored := progress.anchored }

/-- The document in a text. -/
def document? (chars : List Char) : Option Document := (tokens? chars).bind documentOfTokens?

end Phrasebook.Yaml
