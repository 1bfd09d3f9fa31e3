import Phrasebook.Text.Blank

/-!
# Keys

A key names a template and carries the arguments for it. A key whose name is
absent or blank stands for literal text instead: it is never looked up, and its
value is its arguments joined with a comma and a space.
-/

namespace Phrasebook

/-- A name to look up, if there is one, and the arguments for its template. -/
structure Key where
  /-- The symbolic name. -/
  name : Option String
  /-- The arguments in order. -/
  arguments : List String := []
deriving DecidableEq, Repr

namespace Key

/-- The key without arguments. -/
def simple (name : String) : Key := ⟨some name, []⟩

/-- A piece of text that is not translated. -/
def literal (text : String) : Key := ⟨none, [text]⟩

/-- The name to look up: present and not blank. -/
def lookupName (key : Key) : Option String := key.name.filter fun name => !blank name

/-- Whether the key stands for literal text. -/
def isLiteral (key : Key) : Bool := key.lookupName.isNone

/-- The arguments with a comma and a space between each two. -/
def joinedArguments (key : Key) : String := String.intercalate ", " key.arguments

/-- The text for a key that has no template: its name, or for a literal key its
joined arguments. -/
def plainText (key : Key) : String := key.lookupName.getD key.joinedArguments

/-- The key with a text put before the name it looks up. A literal key is left
as it is, and so is every key when there is nothing to be put there. -/
def under (path : String) (key : Key) : Key :=
  match key.lookupName with
  | some name => if path.isEmpty then key else { key with name := some (path ++ name) }
  | none => key

end Key

end Phrasebook
