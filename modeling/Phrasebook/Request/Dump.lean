import Phrasebook.Request.Basic
import Phrasebook.Json.Reader
import Phrasebook.Json.Writer

/-!
# Requests as JSON

A request is written as an array of keys and a key as an object with its name,
`null` when it has none, and its arguments. Reading is more generous: the name or
the arguments may be missing, members of other names are passed over, and a key
may also be an array of its name and its arguments or of its name alone. A
repeated member is refused.
-/

namespace Phrasebook

open Json (Value)

/-- The name of the member that holds a key's name. -/
def Key.nameMember : String := "key"

/-- The name of the member that holds a key's arguments. -/
def Key.argumentsMember : String := "arguments"

/-- The JSON value of a key. -/
def Key.toJson (key : Key) : Value :=
  .object [
    (some nameMember, (key.name.map Value.ofText).getD .null),
    (some argumentsMember, .array (key.arguments.map Value.ofText))]

/-- The JSON value of a request. -/
def Request.toJson (request : Request) : Value := .array (request.keys.map Key.toJson)

/-- The request as JSON without white space. -/
def Request.dump (request : Request) : String :=
  String.ofList (request.toJson.write .compact)

/-- The request as JSON with each part on a line of its own. -/
def Request.dumpIndented (request : Request) : String :=
  String.ofList (request.toJson.write (.indented 0))

namespace Key

/-- A key's name: a string, or `null` for none. -/
def nameOfJson? : Value → Option (Option String)
  | .null => some none
  | value => value.text?.map some

/-- A key's arguments: an array of strings. -/
def argumentsOfJson? : Value → Option (List String)
  | .array items => items.mapM Value.text?
  | _ => none

/-- The only member of a name: nothing when there is none, and a refusal when
there are several. -/
def onlyMember? (name : String) (members : List (String × Value)) : Option (Option Value) :=
  match members.filter fun member => member.1 == name with
  | [] => some none
  | [member] => some (some member.2)
  | _ => none

/-- The key that a JSON value describes. -/
def ofJson? : Value → Option Key
  | .object members => do
    let members ← members.mapM fun (name, value) => name.map (·, value)
    let name ← match ← onlyMember? nameMember members with
      | some value => nameOfJson? value
      | none => some none
    let arguments ← match ← onlyMember? argumentsMember members with
      | some value => argumentsOfJson? value
      | none => some []
    return ⟨name, arguments⟩
  | .array [name] => do return ⟨← nameOfJson? name, []⟩
  | .array [name, arguments] => do return ⟨← nameOfJson? name, ← argumentsOfJson? arguments⟩
  | _ => none

end Key

/-- The request that a JSON value describes. -/
def Request.ofJson? : Value → Option Request
  | .array items => Request.mk <$> items.mapM Key.ofJson?
  | _ => none

/-- The request that a JSON text describes. -/
def Request.load (text : String) : Option Request := do
  Request.ofJson? (← Json.parse text.toList)

/-- The key as JSON without white space. -/
def Key.dump (key : Key) : String := String.ofList (key.toJson.write .compact)

end Phrasebook
