import Phrasebook.Toml.Reader
import Phrasebook.Files.Basic
import Phrasebook.Catalog

/-!
# Resource files

The templates of a language are kept in a TOML file named after it. Nested tables
are flattened: a text gets the names on the way to it joined with dots as its key.
Tables are gone through in ascending order of names. A later text replaces an
earlier one of the same key, and the first value that is neither a text nor a
table is an error.

A catalog is loaded for several languages together. The first language whose file
can not be used ends the loading, and nothing is kept then.
-/

namespace Phrasebook

/-- Why a resource file can not be used. -/
inductive ResourceFailure where
  /-- The file can not be read. -/
  | unreadable (path : String) (reason : FileFailure)
  /-- The file is not TOML. -/
  | malformed (path : String)
  /-- The value of a key is neither a text nor a table. -/
  | invalidValue (path key : String)
deriving DecidableEq, Repr

/-- The wording of the report. -/
def ResourceFailure.message : ResourceFailure → String
  | .unreadable path reason => "Failed to load resource file " ++ path ++ ": " ++ reason.message
  | .malformed path => "Failed to parse resource file " ++ path
  | .invalidValue path key => "Value of '" ++ key ++ "' in " ++ path ++ " must be a string"

namespace Resource

open Toml (Value Table)

/-- The key of a name inside the table of another key. -/
def childKey (above name : String) : String := if above.isEmpty then name else above ++ "." ++ name

mutual

/-- The texts below a value with their keys in order, or the key of the first
value that is neither a text nor a table. -/
def flattenValue (key : String) : Value → Except String (List (String × String))
  | .text content => .ok [(key, content)]
  | .table members => flattenTable key members
  | .scalar _ => .error key
  | .list _ => .error key

/-- The texts below the members of a table. -/
def flattenTable (above : String) : List (String × Value) → Except String (List (String × String))
  | [] => .ok []
  | member :: rest => do
    let first ← flattenMember above member
    let others ← flattenTable above rest
    return first ++ others

/-- The texts below one member of a table. -/
def flattenMember (above : String) : String × Value → Except String (List (String × String))
  | (name, value) => flattenValue (childKey above name) value

end

/-- The path of a language's file. -/
def path (directory language : String) : String := joinPath directory (language ++ ".toml")

/-- The templates of the file at a path. -/
def loadFile (access : FileAccess) (path : String) :
    Except ResourceFailure (Dictionary String) := do
  match access.read path with
  | .error reason => .error (.unreadable path reason)
  | .ok text =>
    match Toml.parse text with
    | none => .error (.malformed path)
    | some table =>
      match flattenTable "" table with
      | .error key => .error (.invalidValue path key)
      | .ok entries => .ok (Dictionary.ofList entries)

/-- The catalog of languages whose files lie in a directory. -/
def load (access : FileAccess) (directory : String) (languages : List String) :
    Except ResourceFailure Catalog :=
  languages.foldlM (fun catalog language => do
    return catalog.setLanguage language (← loadFile access (path directory language))) .empty

end Resource

end Phrasebook
