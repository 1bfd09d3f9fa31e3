import Phrasebook.Json.Number
import Phrasebook.Json.Reader

/-!
# Values that can be represented

Where a whole value is asked for, and not only parts of it, a JSON text must also
keep three bounds: every string has a text, every number is within the range of
double precision, and arrays and objects nest less than 128 deep.
-/

namespace Phrasebook.Json

mutual

/-- Whether a value keeps the bounds when it may nest `depth` levels. -/
def Value.representable : Nat → Value → Bool
  | _, .null => true
  | _, .bool _ => true
  | _, .number written => inDoubleRange written
  | _, .string content => content.isSome
  | 0, .array _ => false
  | depth + 1, .array items => representableItems depth items
  | 0, .object _ => false
  | depth + 1, .object members => representableMembers depth members

/-- Whether all items keep the bounds. -/
def Value.representableItems : Nat → List Value → Bool
  | _, [] => true
  | depth, item :: items => item.representable depth && representableItems depth items

/-- Whether all members keep the bounds. -/
def Value.representableMembers : Nat → List (Content × Value) → Bool
  | _, [] => true
  | depth, member :: members =>
    representableMember depth member && representableMembers depth members

/-- Whether a member keeps the bounds. -/
def Value.representableMember : Nat → Content × Value → Bool
  | depth, (name, value) => name.isSome && value.representable depth

end

/-- How deep arrays and objects may nest in a value that is asked for. -/
def depthBound : Nat := 127

/-- The value of a JSON text that keeps the bounds. -/
def parseStrict (chars : List Char) : Option Value :=
  (parse chars).filter (·.representable depthBound)

end Phrasebook.Json
