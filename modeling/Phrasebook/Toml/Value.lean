/-!
# TOML values

A value is a text, a table, a list, or a scalar of some other kind. Of other
scalars only the kind is kept. A table's members have different names. They are
read in the order of the document.
-/

namespace Phrasebook.Toml

/-- The kinds of scalars that are no text. -/
inductive ScalarKind where
  | boolean
  | integer
  | float
  | dateTime
deriving DecidableEq, Repr

/-- A TOML value. -/
inductive Value where
  /-- A text. -/
  | text (content : String)
  /-- A scalar of another kind. -/
  | scalar (kind : ScalarKind)
  /-- A list of values. -/
  | list (items : List Value)
  /-- Named values. -/
  | table (members : List (String × Value))

/-- The members of a table. -/
abbrev Table := List (String × Value)

end Phrasebook.Toml
