import Phrasebook.Text.Double

/-!
# The value of a number

A number is computed from the digits that fit into 64 bits and a power of ten.
Further digits of the whole part only raise the power, and further digits of the
fraction do not count. The digits and the power are rounded to doubles one by one,
so a number close to the largest double may be on either side of the bound.
-/

namespace Phrasebook.Json

open Text (isDigit digitValue decimal finiteProduct)

/-- Digits are taken while the number they denote is below this bound. -/
def significandBound : Nat := Nat.pow 2 64

/-- The number that digits denote after those of another number, as far as they
fit, and the digits that do not. -/
def takeDigits (significand : Nat) : List Char → Nat × List Char
  | [] => (significand, [])
  | digit :: rest =>
    let extended := 10 * significand + digitValue digit
    if extended < significandBound then takeDigits extended rest else (significand, digit :: rest)

/-- The exponent of a number, from the letter before it. -/
def exponentValue : List Char → Int
  | _ :: '-' :: digits => -(decimal digits : Int)
  | _ :: '+' :: digits => decimal digits
  | _ :: digits => decimal digits
  | [] => 0

/-- Whether a written number is within the range of double precision. -/
def inDoubleRange (written : List Char) : Bool :=
  let unsigned := match written with
    | '-' :: rest => rest
    | _ => written
  let whole := unsigned.takeWhile isDigit
  let afterWhole := unsigned.dropWhile isDigit
  let (fraction, afterFraction) := match afterWhole with
    | '.' :: rest => (rest.takeWhile isDigit, rest.dropWhile isDigit)
    | _ => ([], afterWhole)
  let (significand, wholeRest) := takeDigits 0 whole
  let (significand, fractionRest) := takeDigits significand fraction
  let shift : Int := wholeRest.length - (fraction.length - fractionRest.length : Nat)
  finiteProduct significand (shift + exponentValue afterFraction)

end Phrasebook.Json
