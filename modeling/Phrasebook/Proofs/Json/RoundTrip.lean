import Phrasebook.Json.Reader
import Phrasebook.Proofs.Json.Spelling

/-!
# Reading back what is written

The tokens of a value lead the reader from where a value may come to where this value has been
delivered, whatever containers are open around it. With the spelling of values it follows that
a value without numbers is read back from its text, in either layout and with any white space
behind it.
-/

namespace Phrasebook.Json

namespace State

@[simp] theorem run_nil (state : State) : state.run [] = some state := rfl

@[simp] theorem run_cons (state : State) (token : Token) (rest : List Token) :
    state.run (token :: rest) = (state.step token).bind fun next => next.run rest := rfl

/-- The first item of an array is read as any other value: no value begins with the token that
would end the array. -/
theorem run_firstItem (value : Value) (outer : List Frame) (rest : List Token) :
    (firstItem outer).run (value.tokens ++ rest) =
      (State.value (.array [] :: outer)).run (value.tokens ++ rest) := by
  match value with
  | .null => rfl
  | .bool _ => rfl
  | .number _ => rfl
  | .string _ => rfl
  | .array [] => rfl
  | .array (_ :: _) => rfl
  | .object [] => rfl
  | .object (_ :: _) => rfl

mutual

/-- The tokens of a value deliver the value to what is open around it. -/
theorem run_tokens (outer : List Frame) (rest : List Token) : (value : Value) →
    (State.value outer).run (value.tokens ++ rest) = (deliver value outer).run rest
  | .null => rfl
  | .bool _ => rfl
  | .number _ => rfl
  | .string _ => rfl
  | .array [] => rfl
  | .array (item :: items) => by
    calc (State.value outer).run ((Value.array (item :: items)).tokens ++ rest)
        = (firstItem outer).run
            (item.tokens ++ (Value.itemTokens items ++ .closeBracket :: rest)) := by
          simp [Value.tokens, step, beginValue]
      _ = (afterItem [item] outer).run (Value.itemTokens items ++ .closeBracket :: rest) := by
          rw [run_firstItem, run_tokens]
          rfl
      _ = (deliver (.array (item :: items)) outer).run rest := run_itemTokens outer rest _ items
  | .object [] => rfl
  | .object ((name, content) :: members) => by
    calc (State.value outer).run ((Value.object ((name, content) :: members)).tokens ++ rest)
        = (State.value (.object [] name :: outer)).run
            (content.tokens ++ (Value.membersTokens members ++ .closeBrace :: rest)) := by
          simp [Value.tokens, Value.memberTokens, step, beginValue]
      _ = (afterMember [(name, content)] outer).run
            (Value.membersTokens members ++ .closeBrace :: rest) := by
          rw [run_tokens]
          rfl
      _ = (deliver (.object ((name, content) :: members)) outer).run rest :=
          run_membersTokens outer rest _ members

/-- The tokens of further items complete an array. -/
theorem run_itemTokens (outer : List Frame) (rest : List Token) (done : List Value) :
    (items : List Value) →
      (afterItem done outer).run (Value.itemTokens items ++ .closeBracket :: rest) =
        (deliver (.array (done.reverse ++ items)) outer).run rest
  | [] => by simp [Value.itemTokens, step]
  | item :: items => by
    have others := run_itemTokens outer rest (item :: done) items
    rw [List.reverse_cons, List.append_assoc, List.singleton_append] at others
    rw [← others]
    calc (afterItem done outer).run (Value.itemTokens (item :: items) ++ .closeBracket :: rest)
        = (State.value (.array done :: outer)).run
            (item.tokens ++ (Value.itemTokens items ++ .closeBracket :: rest)) := by
          simp [Value.itemTokens, step]
      _ = (afterItem (item :: done) outer).run
            (Value.itemTokens items ++ .closeBracket :: rest) := run_tokens _ _ item

/-- The tokens of further members complete an object. -/
theorem run_membersTokens (outer : List Frame) (rest : List Token)
    (done : List (Content × Value)) : (members : List (Content × Value)) →
      (afterMember done outer).run (Value.membersTokens members ++ .closeBrace :: rest) =
        (deliver (.object (done.reverse ++ members)) outer).run rest
  | [] => by simp [Value.membersTokens, step]
  | (name, content) :: members => by
    have others := run_membersTokens outer rest ((name, content) :: done) members
    rw [List.reverse_cons, List.append_assoc, List.singleton_append] at others
    rw [← others]
    calc (afterMember done outer).run
          (Value.membersTokens ((name, content) :: members) ++ .closeBrace :: rest)
        = (State.value (.object done name :: outer)).run
            (content.tokens ++ (Value.membersTokens members ++ .closeBrace :: rest)) := by
          simp [Value.membersTokens, Value.memberTokens, step]
      _ = (afterMember ((name, content) :: done) outer).run
            (Value.membersTokens members ++ .closeBrace :: rest) := run_tokens _ _ content

end

end State

/-- A value without numbers is read back from its text, whatever the layout and however much
white space follows. -/
theorem parse_write (layout : Layout) {value : Value} (spelled : value.Spelled)
    (blanks : List Char) (allSpace : ∀ c ∈ blanks, isSeparator c = true) :
    parse (value.write layout ++ blanks) = some value := by
  have spells := (spells_write layout value spelled).append (Spells.separators blanks allSpace)
  have read : (State.value []).run value.tokens = some (.complete value) := by
    have led := State.run_tokens [] [] value
    rwa [List.append_nil] at led
  rw [parse, spells.lexes.tokens?, List.append_nil]
  simp [read]

end Phrasebook.Json
