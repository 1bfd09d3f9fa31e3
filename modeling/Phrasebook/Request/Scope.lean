import Phrasebook.Request.Basic

/-!
# Scopes

A scope is a text put before the names that are looked up. In its normal form it
is either empty or ends with a dot, so that `menu` and `menu.` are one scope.
-/

namespace Phrasebook

/-- The normal form of a scope. A scope that is absent or blank is empty, and a
dot is added to any other that does not end with one. -/
def normalizeScope : Option String → String
  | none => ""
  | some given =>
    if blank given then ""
    else if given.toList.getLast? == some '.' then given
    else given ++ "."

end Phrasebook
