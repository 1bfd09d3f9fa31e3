import Phrasebook.Request.Basic
import Phrasebook.Text.Quoted

/-!
# Showing keys and requests

A key shows its name, or `null` when it has none, and its quoted arguments. A
request shows its keys between brackets.
-/

namespace Phrasebook

/-- The key for display. -/
def Key.display (key : Key) : String :=
  "(key=" ++ key.name.getD "null" ++ ",arguments=" ++ bracketed (key.arguments.map quoted) ++ ")"

/-- The request for display. -/
def Request.display (request : Request) : String := bracketed (request.keys.map Key.display)

end Phrasebook
