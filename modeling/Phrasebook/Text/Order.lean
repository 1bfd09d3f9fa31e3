/-!
# Byte order

Texts are sorted by their characters' code points, which is also the order of
their bytes in UTF-8.
-/

namespace Phrasebook

/-- Whether the first text does not come after the second. -/
def precedes (left right : String) : Bool := decide (left ≤ right)

/-- The texts in ascending order. -/
def sortTexts (texts : List String) : List String := texts.mergeSort precedes

universe u

/-- Named values in ascending order of their names. -/
def sortByName {α : Type u} (entries : List (String × α)) : List (String × α) :=
  entries.mergeSort fun left right => precedes left.1 right.1

end Phrasebook
