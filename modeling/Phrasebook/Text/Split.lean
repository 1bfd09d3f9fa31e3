/-!
# Splitting

A text is split at every occurrence of a separator, so there is one part more
than there are separators.
-/

namespace Phrasebook.Text

/-- The parts of a text between separators. -/
def splitAt (separator : Char) : List Char → List (List Char)
  | [] => [[]]
  | c :: rest =>
    if c == separator then [] :: splitAt separator rest
    else
      match splitAt separator rest with
      | [] => [[c]]
      | part :: parts => (c :: part) :: parts

/-- A text has a part even when it is empty. -/
theorem splitAt_ne_nil (separator : Char) (chars : List Char) : splitAt separator chars ≠ [] := by
  cases chars with
  | nil => simp [splitAt]
  | cons c rest =>
    rw [splitAt]
    split
    · simp
    · split <;> simp

end Phrasebook.Text

namespace Phrasebook

/-- The parts of a text between separators. -/
def splitText (separator : Char) (text : String) : List String :=
  (Text.splitAt separator text.toList).map String.ofList

end Phrasebook
