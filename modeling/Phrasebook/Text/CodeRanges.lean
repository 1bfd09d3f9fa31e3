/-!
# Sets of code points

A set of code points is written as ascending ranges that do not touch.
-/

namespace Phrasebook.Text

/-- Whether a code point lies in one of the ranges. Ranges that start behind it
need no look, since the list ascends. -/
def inRanges : List (Nat × Nat) → Nat → Bool
  | [], _ => false
  | (first, last) :: rest, code =>
    if code < first then false
    else if code ≤ last then true
    else inRanges rest code

end Phrasebook.Text
