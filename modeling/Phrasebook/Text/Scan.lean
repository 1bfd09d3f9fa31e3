/-!
# Scanning

A scanner reads something at the start of a text and returns what follows it, or
refuses the text.
-/

namespace Phrasebook.Text

/-- Reads a value at the start of a text. -/
abbrev Scan (α : Type) := List Char → Option (α × List Char)

variable {α : Type}

/-- Items as long as there are any, but at most `rounds`, and what follows them. -/
def manyWithin (item : Scan α) : Nat → List Char → List α × List Char
  | 0, chars => ([], chars)
  | rounds + 1, chars =>
    match item chars with
    | none => ([], chars)
    | some (value, rest) =>
      let following := manyWithin item rounds rest
      (value :: following.1, following.2)

/-- As many items as there are, and what follows them. Every item takes at least
one character, so there are no more items than characters. -/
def many (item : Scan α) (chars : List Char) : List α × List Char :=
  manyWithin item chars.length chars

/-- What follows a word at the start of a text. -/
def afterWord? : List Char → List Char → Option (List Char)
  | [], chars => some chars
  | _ :: _, [] => none
  | expected :: word, c :: rest => if c == expected then afterWord? word rest else none

/-- The longest start of a text in which every character passes a test, provided
it is not empty. -/
def takeSome (test : Char → Bool) : Scan (List Char) := fun chars =>
  match chars.takeWhile test with
  | [] => none
  | taken => some (taken, chars.dropWhile test)

end Phrasebook.Text
