import Phrasebook.Json.Token

/-!
# Reading JSON

The reader goes through the tokens once. Its state is what may come next,
together with the arrays and objects that are still open, innermost first. A text
is a value when its tokens lead from the initial state to a completed value.
-/

namespace Phrasebook.Json

/-- An array or object that is still open, with what is complete in it in
reverse order. -/
inductive Frame where
  /-- An array and its items. -/
  | array (items : List Value)
  /-- An object, its members and the name of the member being read. -/
  | object (members : List (Content × Value)) (name : Content)

/-- What may come next. -/
inductive State where
  /-- A value. -/
  | value (outer : List Frame)
  /-- The first item of an array, or the end of the array. -/
  | firstItem (outer : List Frame)
  /-- The first name of an object, or the end of the object. -/
  | firstName (outer : List Frame)
  /-- Another name of an object. -/
  | nextName (members : List (Content × Value)) (outer : List Frame)
  /-- The colon after a name. -/
  | colon (members : List (Content × Value)) (name : Content) (outer : List Frame)
  /-- A comma, or the end of an array. -/
  | afterItem (items : List Value) (outer : List Frame)
  /-- A comma, or the end of an object. -/
  | afterMember (members : List (Content × Value)) (outer : List Frame)
  /-- Nothing: the value is complete. -/
  | complete (result : Value)

/-- The state after a value is completed inside the open frames. -/
def State.deliver (completed : Value) : List Frame → State
  | [] => .complete completed
  | .array items :: outer => .afterItem (completed :: items) outer
  | .object members name :: outer => .afterMember ((name, completed) :: members) outer

/-- The state after the first token of a value. -/
def State.beginValue (outer : List Frame) : Token → Option State
  | .openBracket => some (.firstItem outer)
  | .openBrace => some (.firstName outer)
  | .name named => some (deliver named outer)
  | .number written => some (deliver (.number written) outer)
  | .string content => some (deliver (.string content) outer)
  | _ => none

/-- The state after a token, or nothing when it may not come here. -/
def State.step : State → Token → Option State
  | State.value outer, token => beginValue outer token
  | .firstItem outer, .closeBracket => some (deliver (.array []) outer)
  | .firstItem outer, token => beginValue (.array [] :: outer) token
  | .firstName outer, .closeBrace => some (deliver (.object []) outer)
  | .firstName outer, .string name => some (.colon [] name outer)
  | .nextName members outer, .string name => some (.colon members name outer)
  | .colon members name outer, .colon => some (.value (.object members name :: outer))
  | .afterItem items outer, .comma => some (.value (.array items :: outer))
  | .afterItem items outer, .closeBracket => some (deliver (.array items.reverse) outer)
  | .afterMember members outer, .comma => some (.nextName members outer)
  | .afterMember members outer, .closeBrace => some (deliver (.object members.reverse) outer)
  | _, _ => none

/-- The state after a list of tokens. -/
def State.run : State → List Token → Option State
  | state, [] => some state
  | state, token :: rest => (state.step token).bind fun next => next.run rest

/-- The value that a JSON text describes. -/
def parse (chars : List Char) : Option Value := do
  match ← (State.value []).run (← tokens? chars) with
  | .complete result => some result
  | _ => none

end Phrasebook.Json
