import Phrasebook.Text.Digits

/-!
# Double precision

Which written numbers stay finite in double precision, and to which double an
integer is rounded. Both are computed with exact integers.
-/

namespace Phrasebook.Text

/-- Integers from here on round to infinity in double precision: the point
halfway between the largest double and the next power of two. -/
def doubleBound : Nat := Nat.pow 2 1024 - Nat.pow 2 970

/-- Whether `mantissa` times the given power of ten is below the bound. A number
of more than 310 digits is not, and no exact value is computed for it. -/
def belowDoubleBound (mantissa : Nat) (exponent : Int) : Bool :=
  let length := (Nat.toDigits 10 mantissa).length
  if mantissa = 0 then true
  else if 310 < length + exponent then false
  else if exponent < 0 then mantissa / Nat.pow 10 (min exponent.natAbs length) < doubleBound
  else mantissa * Nat.pow 10 exponent.toNat < doubleBound

/-- The nearest integer that has at most 53 binary digits before its last zeros. Of
two equally near ones it is the one whose last such digit is even. -/
def nearestDouble (value : Nat) : Nat :=
  let unit := Nat.pow 2 (Nat.log2 value - 52)
  let kept := value / unit
  let twice := 2 * (value % unit)
  if unit < twice || (unit = twice && kept % 2 = 1) then (kept + 1) * unit else kept * unit

/-- The power of ten from which on no product with a positive integer is finite. -/
def powerBound : Nat := 309

/-- Whether the double nearest to `significand` stays finite when it is multiplied
with the double nearest to the given power of ten. Negative powers divide and do
not make it larger. -/
def finiteProduct (significand : Nat) (exponent : Int) : Bool :=
  if significand = 0 || exponent < 0 then true
  else if powerBound ≤ exponent then false
  else nearestDouble significand * nearestDouble (Nat.pow 10 exponent.toNat) < doubleBound

end Phrasebook.Text
