import Phrasebook.Escape
import Phrasebook.Text.Digits

/-!
# Templates

A template is text with placeholders in it. A placeholder is an opening brace,
any number of ASCII digits and a closing brace, where the opening brace is not
escaped. `{}` takes the next positional argument, and `{N}` takes the argument
of that number, counted from one. An argument that is missing shows as a
question mark; `{0}` names none and always does.

Reading a template keeps every character: the text before the first placeholder,
and after each placeholder the text up to the next. Two ways to fill a template
are defined on this form. `substitute` leaves the text as it is, `render` checks
and unescapes each stretch of text by itself. Arguments are inserted as they are.
-/

namespace Phrasebook

open Text (byteLength isDigit decimal)

/-- Text, and placeholders that are each followed by more text. A placeholder
is kept as its digits. -/
structure Template where
  /-- The text before the first placeholder. -/
  lead : List Char
  /-- The digits of each placeholder and the text after it. -/
  slots : List (List Char × List Char)
deriving DecidableEq, Repr

namespace Template

/-- The digits of a placeholder whose opening brace has been read, and what
follows its closing brace. -/
def placeholder? : List Char → Option (List Char × List Char)
  | [] => none
  | c :: rest =>
    if c == '}' then some ([], rest)
    else if isDigit c then
      (placeholder? rest).map fun found => (c :: found.1, found.2)
    else none

/-- What follows a placeholder is shorter than what it was read from. -/
theorem placeholder?_shorter {chars digits rest : List Char}
    (found : placeholder? chars = some (digits, rest)) : rest.length < chars.length := by
  induction chars generalizing digits with
  | nil => simp [placeholder?] at found
  | cons c tail inductionHypothesis =>
    rw [placeholder?] at found
    split at found
    · cases found
      simp
    · split at found
      · obtain ⟨⟨inner, after⟩, step, same⟩ := Option.map_eq_some_iff.1 found
        cases same
        exact Nat.lt_trans (inductionHypothesis step) (by simp)
      · cases found

/-- The template with a character put before its text. -/
def consChar (c : Char) (template : Template) : Template :=
  { template with lead := c :: template.lead }

/-- Read a template. The flag tells whether the character before the text is
an escape marker, which makes an opening brace plain text. -/
def read (escaped : Bool) (chars : List Char) : Template :=
  match chars with
  | [] => ⟨[], []⟩
  | c :: rest =>
    if c == '{' && !escaped then
      match found : placeholder? rest with
      | some (digits, after) =>
        have : after.length < rest.length + 1 := Nat.lt_succ_of_lt (placeholder?_shorter found)
        let following := read false after
        ⟨[], (digits, following.lead) :: following.slots⟩
      | none => consChar c (read false rest)
    else consChar c (read (c == Escape.marker) rest)
termination_by chars.length

/-- The template of a text. -/
def ofText (text : List Char) : Template := read false text

/-- The characters of the placeholder with the given digits. -/
def placeholderText (digits : List Char) : List Char := '{' :: (digits ++ ['}'])

/-- The characters of a template. -/
def text (template : Template) : List Char :=
  template.lead ++ template.slots.flatMap fun slot => placeholderText slot.1 ++ slot.2

/-- Numbers from here on name no argument: they are read as if no number stood
in the placeholder. -/
def numberBound : Nat := Nat.pow 2 64

/-- What a placeholder asks for. -/
inductive Choice where
  /-- The next positional argument. -/
  | next
  /-- The argument at a position counted from zero. -/
  | nth (index : Nat)
  /-- No argument at all. -/
  | nothing
deriving DecidableEq, Repr

/-- The meaning of a placeholder's digits. -/
def choice (digits : List Char) : Choice :=
  if digits.isEmpty then .next
  else
    let value := decimal digits
    if numberBound ≤ value then .next
    else if value = 0 then .nothing
    else .nth (value - 1)

/-- Stands for an argument that is not there. -/
def missingArgument : String := "?"

/-- The argument that a choice takes after `used` positional arguments, and the
number of positional arguments used from then on. -/
def take (arguments : List String) (used : Nat) : Choice → String × Nat
  | .next => (arguments.getD used missingArgument, used + 1)
  | .nth index => (arguments.getD index missingArgument, used)
  | .nothing => (missingArgument, used)

/-- Fill placeholders in order, each followed by its text. -/
def fill (arguments : List String) : Nat → List (List Char × List Char) → List Char
  | _, [] => []
  | used, (digits, following) :: slots =>
    let (argument, used) := take arguments used (choice digits)
    argument.toList ++ following ++ fill arguments used slots

/-- The template's characters with every placeholder replaced by its argument. -/
def substitute (template : Template) (arguments : List String) : List Char :=
  template.lead ++ fill arguments 0 template.slots

/-- Fill placeholders in order, each followed by the text that its own text
stands for. The position is that of the first placeholder in the whole input. -/
def renderSlots (input : String) (arguments : List String) :
    Nat → Nat → List (List Char × List Char) → Except StrayDelimiter (List Char)
  | _, _, [] => .ok []
  | position, used, (digits, following) :: slots => do
    let (argument, used) := take arguments used (choice digits)
    let start := position + byteLength (placeholderText digits)
    let plain ← unescapeFragment .template input start following
    let rest ← renderSlots input arguments (start + byteLength following) used slots
    return argument.toList ++ plain ++ rest

/-- Every placeholder replaced by its argument and every stretch of text by
what it stands for, or the first stray delimiter of the template. -/
def render (input : String) (template : Template) (arguments : List String) :
    Except StrayDelimiter (List Char) := do
  let plain ← unescapeFragment .template input 0 template.lead
  let rest ← renderSlots input arguments (byteLength template.lead) 0 template.slots
  return plain ++ rest

end Template

/-- The template text with its placeholders filled and nothing else changed. -/
def substitute (template : String) (arguments : List String) : String :=
  String.ofList ((Template.ofText template.toList).substitute arguments)

/-- The text that a template gives for some arguments. -/
def render (template : String) (arguments : List String) : Except StrayDelimiter String :=
  (Template.render template (Template.ofText template.toList) arguments).map String.ofList

end Phrasebook
