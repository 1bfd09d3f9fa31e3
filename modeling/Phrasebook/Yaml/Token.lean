/-!
# YAML tokens

The words of a YAML text. Indentation shows as tokens that start and end blocks,
so that the nesting of a text can be read off its tokens alone.
-/

namespace Phrasebook.Yaml

/-- How the text of a scalar is written. -/
inductive Style where
  /-- Without quotes. -/
  | plain
  /-- Between single quotes. -/
  | singleQuoted
  /-- Between double quotes. -/
  | doubleQuoted
  /-- As an indented block that keeps its lines. -/
  | literal
  /-- As an indented block whose lines are joined. -/
  | folded
deriving DecidableEq, Repr

/-- A word of a YAML text. -/
inductive Token where
  /-- The version that a document asks for. -/
  | version (major minor : Nat)
  /-- A tag handle and what it stands for. -/
  | handle (name expansion : String)
  | documentStart
  | documentEnd
  | blockSequenceStart
  | blockMappingStart
  | blockEnd
  | flowSequenceStart
  | flowSequenceEnd
  | flowMappingStart
  | flowMappingEnd
  | blockEntry
  | flowEntry
  | key
  | value
  /-- A reference to an anchored node. -/
  | alias (name : String)
  /-- A name for the node that follows. -/
  | anchor (name : String)
  /-- A tag as a handle, perhaps empty, and a suffix. -/
  | tag (handle suffix : String)
  /-- A scalar. -/
  | scalar (style : Style) (text : String)
deriving DecidableEq, Repr

end Phrasebook.Yaml
