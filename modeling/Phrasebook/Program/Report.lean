import Phrasebook.Text.Split

/-!
# Reports

A report tells what went wrong and, below it, what brought this about, the nearest
cause first. Several causes are numbered. The lines of a cause are indented.
-/

namespace Phrasebook

/-- What went wrong and why. -/
structure Report where
  /-- What went wrong. -/
  message : String
  /-- What brought it about, the nearest cause first. -/
  causes : List String := []
deriving DecidableEq, Repr

namespace Report

/-- The start of the first line of a cause, which is numbered when there are
several. -/
def lead (isNumbered : Bool) (number : Nat) : String :=
  if isNumbered then
    let digits := toString number
    "".pushn ' ' (5 - digits.length) ++ digits ++ ": "
  else "    "

/-- The start of the other lines of a cause. -/
def margin (isNumbered : Bool) : String := if isNumbered then "       " else "    "

/-- A cause on lines of its own. -/
def causeText (isNumbered : Bool) (number : Nat) (cause : String) : String :=
  "\n" ++ lead isNumbered number ++
    ("\n" ++ margin isNumbered).intercalate (splitText '\n' cause)

/-- The causes one below the other, from a number on. -/
def causeTexts (isNumbered : Bool) : Nat → List String → String
  | _, [] => ""
  | number, cause :: causes =>
    causeText isNumbered number cause ++ causeTexts isNumbered (number + 1) causes

/-- The text of a report. -/
def text (report : Report) : String :=
  "Error: " ++ report.message ++
    (if report.causes.isEmpty then ""
    else "\n\nCaused by:" ++ causeTexts (1 < report.causes.length) 0 report.causes) ++ "\n"

end Report

end Phrasebook
