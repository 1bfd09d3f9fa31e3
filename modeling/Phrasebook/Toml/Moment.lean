import Phrasebook.Toml.Scalar
import Phrasebook.Text.Order

/-!
# Dates and times spelled by tables

A table below the root whose first member has a reserved name stands for a date
or a time, which the text of that member spells. Its other members do not count.
All other tables are put into ascending order of names, so what a document
describes no longer depends on the order in which it says so.
-/

namespace Phrasebook.Toml

/-- The name of a member that spells what its table stands for. -/
def momentName : String := "$__toml_private_datetime"

/-- Whether a text is a date, a time of day, or both, and nothing more. -/
def isMoment (content : String) : Bool :=
  (dateTime? content.toList).any fun (_, rest) => rest.isEmpty

/-- The value of the first member, if that has the reserved name. -/
def moment? : List (String × Value) → Option Value
  | (name, content) :: _ => if name = momentName then some content else none
  | [] => none

mutual

/-- The value with its tables in order and with dates and times in the place of those
that stand for one. There is no such value when the reserved member spells none. -/
def Value.settle? : Value → Option Value
  | .text content => some (.text content)
  | .scalar kind => some (.scalar kind)
  | .list items => (settleItems? items).map .list
  | .table members =>
    match moment? members with
    | some (.text content) => if isMoment content then some (.scalar .dateTime) else none
    | some _ => none
    | none => (settleMembers? members).map fun members => .table (sortByName members)

/-- The settled items of a list. -/
def Value.settleItems? : List Value → Option (List Value)
  | [] => some []
  | item :: items => do
    let item ← item.settle?
    return item :: (← settleItems? items)

/-- The settled members of a table, still in the order they came in. -/
def Value.settleMembers? : List (String × Value) → Option (List (String × Value))
  | [] => some []
  | (name, content) :: members => do
    let content ← content.settle?
    return (name, content) :: (← settleMembers? members)

end

/-- The settled members of the root in ascending order of their names. The root is a
table whatever its first member is. -/
def Table.settle? (members : Table) : Option Table :=
  (Value.settleMembers? members).map sortByName

end Phrasebook.Toml
