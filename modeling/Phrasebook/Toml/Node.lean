import Phrasebook.Toml.Value

/-!
# Building tables

While a document is read, each table remembers how it came about, since that
decides whether it may still grow. A table that only lies on the way to another
one is implied, and a table made by a key with dots is dotted. A table that is
written out may not be written out again, and an implied one may be once. Keys
with dots may enter implied tables only, and add members to dotted ones only.
Members stay in the order in which they came about; an implied table that is
written out later moves to the end.
-/

namespace Phrasebook.Toml

/-- A table under construction and what it may hold. -/
inductive Node where
  /-- A value that is complete and closed. -/
  | value (content : Value)
  /-- A table, and how it came about. -/
  | table (implied dotted : Bool) (members : List (String × Node))
  /-- The tables of a list to which more may be added. -/
  | tables (items : List Node)

namespace Node

/-- The member of a name. -/
def member? (name : String) : List (String × Node) → Option Node
  | [] => none
  | (other, node) :: rest => if other = name then some node else member? name rest

/-- The members with one replaced, or added if it was not there. -/
def setMember (name : String) (node : Node) : List (String × Node) → List (String × Node)
  | [] => [(name, node)]
  | (other, old) :: rest =>
    if other = name then (name, node) :: rest else (other, old) :: setMember name node rest

/-- The members without the one of a name. -/
def removeMember (name : String) (members : List (String × Node)) : List (String × Node) :=
  members.filter fun member => member.1 != name

/-- Change the table at the end of a path, creating implied tables on the way. The
last table of a list stands for the list. With `dotted`, the path is that of a key
with dots, which enters implied tables only. -/
def update (dotted : Bool) (change : Node → Option Node) : List String → Node → Option Node
  | [], node => change node
  | name :: path, .table implied wasDotted members => do
    let changed ← match member? name members with
      | none => update dotted change path (.table true dotted [])
      | some (.value _) => none
      | some (.tables items) =>
        (items.getLast?.bind (update dotted change path)).map fun last =>
          .tables (items.dropLast ++ [last])
      | some (.table true nestedDotted nested) =>
        update dotted change path (.table true nestedDotted nested)
      | some (.table false nestedDotted nested) =>
        if dotted then none else update dotted change path (.table false nestedDotted nested)
    return .table implied wasDotted (setMember name changed members)
  | _ :: _, _ => none

/-- Add a value under a key with dots. Its last name must be new, and all but the
last name lead to a dotted table. -/
def addValue (path : List String) (content : Value) : Node → Option Node :=
  let name := path.getLast?.getD ""
  let above := path.dropLast
  update true (fun node =>
    match node with
    | .table implied dotted members =>
      if dotted == above.isEmpty then none
      else if (member? name members).isSome then none
      else some (.table implied dotted (setMember name (.value content) members))
    | _ => none) above

/-- The table without members that is written out. -/
def fresh : Node := .table false false []

/-- Write out a table at a path, filled by the given function. It may have been
implied before, but not written out. -/
def addTable (path : List String) (fill : Node → Option Node) : Node → Option Node :=
  let name := path.getLast?.getD ""
  update false (fun node =>
    match node with
    | .table implied dotted members => do
      let start ← match member? name members with
        | none => some fresh
        | some (.table true false nested) => some (.table false false nested)
        | some _ => none
      let others := removeMember name members
      return .table implied dotted (others ++ [(name, ← fill start)])
    | _ => none) path.dropLast

/-- Add a table, filled by the given function, to the list of tables at a path. -/
def addToTables (path : List String) (fill : Node → Option Node) : Node → Option Node :=
  let name := path.getLast?.getD ""
  update false (fun node =>
    match node with
    | .table implied dotted members => do
      let items ← match member? name members with
        | none => some []
        | some (.tables items) => some items
        | some _ => none
      let item ← fill fresh
      return .table implied dotted (setMember name (.tables (items ++ [item])) members)
    | _ => none) path.dropLast

mutual

/-- The value that a node has become. -/
def finish : Node → Value
  | .value content => content
  | .table _ _ members => .table (finishMembers members)
  | .tables items => .list (finishItems items)

/-- The values that members have become. -/
def finishMembers : List (String × Node) → List (String × Value)
  | [] => []
  | member :: rest => finishMember member :: finishMembers rest

/-- The value that a member has become. -/
def finishMember : String × Node → String × Value
  | (name, node) => (name, finish node)

/-- The values that a list's tables have become. -/
def finishItems : List Node → List Value
  | [] => []
  | node :: rest => finish node :: finishItems rest

end

end Node

end Phrasebook.Toml
