import Phrasebook.Text.Double
import Phrasebook.Text.Scan

/-!
# What plain scalars mean

A scalar without quotes may stand for no value, for a truth value, or for a number.
Each has its few spellings, and every other scalar is a text. Digits after a
leading zero are a text too.
-/

namespace Phrasebook.Yaml

open Text (isDigit digitValue decimal hexadecimal? afterWord? belowDoubleBound)

/-- A spelling of no value. -/
def isNull (text : String) : Bool := ["null", "Null", "NULL", "~"].contains text

/-- The truth value that a text spells. -/
def boolean? (text : String) : Option Bool :=
  if ["true", "True", "TRUE"].contains text then some true
  else if ["false", "False", "FALSE"].contains text then some false
  else none

/-- The number that digits below a base of at most ten denote. -/
def inBase? (base : Nat) (digits : List Char) : Option Nat :=
  digits.foldlM (fun value digit =>
    if isDigit digit && digitValue digit < base then some (base * value + digitValue digit)
    else none) 0

/-- Whether all characters are digits, the first is a zero, and it is not alone. -/
def hasLeadingZero : List Char → Bool
  | '0' :: d :: digits => (d :: digits).all isDigit
  | _ => false

/-- The value of an integer without its sign: decimal, or in base sixteen, eight or
two after a mark. -/
def magnitude? : List Char → Option Nat
  | [] => none
  | '0' :: 'x' :: d :: digits => hexadecimal? (d :: digits)
  | '0' :: 'o' :: d :: digits => inBase? 8 (d :: digits)
  | '0' :: 'b' :: d :: digits => inBase? 2 (d :: digits)
  | digits => if hasLeadingZero digits then none else inBase? 10 digits

/-- An integer: whether it has a minus sign, and its value without the sign. -/
def integer? : List Char → Option (Bool × Nat)
  | '-' :: digits => (magnitude? digits).map (true, ·)
  | '+' :: digits => (magnitude? digits).map (false, ·)
  | digits => (magnitude? digits).map (false, ·)

/-- The exponent of a decimal fraction, from its letter on. -/
def exponent? : List Char → Option Int
  | [] => some 0
  | letter :: rest =>
    if letter == 'e' || letter == 'E' then
      let digits := match rest with
        | '+' :: digits | '-' :: digits => digits
        | digits => digits
      if digits.isEmpty || !digits.all isDigit then none
      else if rest.head? == some '-' then some (-(decimal digits : Int))
      else some (decimal digits)
    else none

/-- Whether characters without a sign are a decimal fraction that does not exceed
all doubles. A digit must stand before or after the point. -/
def isFinite (chars : List Char) : Bool :=
  let whole := chars.takeWhile isDigit
  let afterWhole := chars.drop whole.length
  let afterPoint := match afterWhole with
    | '.' :: rest => rest
    | _ => []
  let fraction := afterPoint.takeWhile isDigit
  let rest := if afterWhole.head? == some '.' then afterPoint.drop fraction.length else afterWhole
  match exponent? rest with
  | none => false
  | some exponent =>
    !(whole.isEmpty && fraction.isEmpty) &&
      belowDoubleBound (decimal (whole ++ fraction)) (exponent - fraction.length)

/-- A spelling of infinity. -/
def isInfinity (chars : List Char) : Bool :=
  [".inf", ".Inf", ".INF"].contains (String.ofList chars)

/-- A spelling of the value that is no number. -/
def isNotANumber (chars : List Char) : Bool :=
  [".nan", ".NaN", ".NAN"].contains (String.ofList chars)

/-- Whether a text spells a number that need not be an integer. -/
def isFloat (chars : List Char) : Bool :=
  match chars with
  | '-' :: rest => isInfinity rest || isFinite rest
  | '+' :: rest => isInfinity rest || isFinite rest
  | _ => isInfinity chars || isNotANumber chars || isFinite chars

/-- What a plain scalar stands for. -/
inductive Plain where
  | null
  | boolean (value : Bool)
  /-- An integer without a minus sign that 64 bits can hold. -/
  | unsigned (value : Nat)
  /-- Any other number, as it is written. -/
  | number (written : String)
  | text (text : String)
deriving DecidableEq, Repr

namespace Plain

/-- What an integer stands for. One that needs more than 64 bits, but no more than
128, is refused. One that needs even more is no integer. -/
def ofInteger? (written : String) (isNegative : Bool) (magnitude : Nat) : Option (Option Plain) :=
  if isNegative then
    if magnitude ≤ Nat.pow 2 63 then some (some (.number written))
    else if magnitude ≤ Nat.pow 2 127 then none
    else some none
  else if magnitude < Nat.pow 2 64 then some (some (.unsigned magnitude))
  else if magnitude < Nat.pow 2 128 then none
  else some none

/-- What a text stands for that spells neither no value nor a truth value nor an
integer. -/
def ofOther (text : String) : Plain :=
  let unsignedPart := match text.toList with
    | '-' :: rest | '+' :: rest => rest
    | chars => chars
  if !hasLeadingZero unsignedPart && isFloat text.toList then .number text else .text text

/-- What a plain scalar stands for. Integers that are refused give nothing. -/
def ofText? (text : String) : Option Plain :=
  if text.isEmpty || isNull text then some .null
  else
    match boolean? text with
    | some value => some (.boolean value)
    | none =>
      match integer? text.toList with
      | some (isNegative, magnitude) =>
        (ofInteger? text isNegative magnitude).map fun found => found.getD (ofOther text)
      | none => some (ofOther text)

end Plain

end Phrasebook.Yaml
