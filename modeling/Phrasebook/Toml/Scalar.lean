import Phrasebook.Text.Double
import Phrasebook.Toml.Lexis
import Phrasebook.Toml.Value

/-!
# TOML scalars

Truth values, integers, floats, and dates and times. Integers take 64 bits; a
float may not round to positive infinity; a date must exist in its month.
-/

namespace Phrasebook.Toml

open Text (Scan many afterWord? isDigit decimal hexValue? belowDoubleBound)

/-- A digit that may follow an underscore. -/
def furtherDigit? (test : Char → Bool) : Scan Char
  | '_' :: c :: rest => if test c then some (c, rest) else none
  | c :: rest => if test c then some (c, rest) else none
  | [] => none

/-- Digits with single underscores between them. -/
def digits? (test : Char → Bool) : Scan (List Char)
  | c :: rest =>
    if test c then
      let (others, rest) := many (furtherDigit? test) rest
      some (c :: others, rest)
    else none
  | [] => none

/-- Whether there is a minus sign, and what follows the sign, if there is one. -/
def sign (chars : List Char) : Bool × List Char :=
  match chars with
  | '-' :: rest => (true, rest)
  | '+' :: rest => (false, rest)
  | _ => (false, chars)

/-- Decimal digits that do not begin with zero, or zero alone. -/
def whole? : Scan (List Char)
  | '0' :: rest => some (['0'], rest)
  | chars => digits? isDigit chars

/-- Digits of a base from after the letter that names it. -/
def based? (base : Nat) : Scan ScalarKind := fun chars => do
  let (digits, rest) ← digits? (fun c => (hexValue? c).any (· < base)) chars
  let value := digits.foldl (fun value c => base * value + (hexValue? c).getD 0) 0
  if value < Nat.pow 2 63 then return (.integer, rest) else none

/-- An integer. -/
def integer? : Scan ScalarKind
  | '0' :: 'x' :: rest => based? 16 rest
  | '0' :: 'o' :: rest => based? 8 rest
  | '0' :: 'b' :: rest => based? 2 rest
  | chars => do
    let (negative, unsigned) := sign chars
    let (digits, rest) ← whole? unsigned
    let value := decimal digits
    if value < Nat.pow 2 63 || (negative && value = Nat.pow 2 63) then return (.integer, rest)
    else none

/-- The fraction of a float, from its point. -/
def fraction? : Scan (List Char)
  | '.' :: rest => digits? isDigit rest
  | _ => none

/-- The exponent of a float, from its letter. -/
def exponent? : Scan Int
  | c :: rest =>
    if c == 'e' || c == 'E' then do
      let (negative, unsigned) := sign rest
      let (digits, rest) ← digits? isDigit unsigned
      return (if negative then -(decimal digits : Int) else decimal digits, rest)
    else none
  | [] => none

/-- A float with a fraction, an exponent, or both. -/
def decimalFloat? : Scan ScalarKind := fun chars => do
  let (negative, unsigned) := sign chars
  let (whole, rest) ← whole? unsigned
  let (fraction, afterFraction) := (fraction? rest).getD ([], rest)
  let (exponent, afterExponent) := (exponent? afterFraction).getD (0, afterFraction)
  if afterExponent.length = rest.length then none
  else if negative || belowDoubleBound (decimal (whole ++ fraction)) (exponent - fraction.length)
  then return (.float, afterExponent)
  else none

/-- An infinity or a value that is no number. -/
def specialFloat? : Scan ScalarKind := fun chars =>
  let unsigned := (sign chars).2
  ((afterWord? ['i', 'n', 'f'] unsigned).orElse fun _ => afterWord? ['n', 'a', 'n'] unsigned).map
    (.float, ·)

/-- A number of exactly `count` digits within bounds. -/
def field? (count least greatest : Nat) : Scan Nat := fun chars =>
  let digits := chars.take count
  let value := decimal digits
  if digits.length = count && digits.all isDigit && least ≤ value && value ≤ greatest then
    some (value, chars.drop count)
  else none

/-- What follows a certain character. -/
def after? (c : Char) : List Char → Option (List Char)
  | first :: rest => if first == c then some rest else none
  | [] => none

/-- The number of days in a month. -/
def daysIn (year month : Nat) : Nat :=
  if month = 2 then
    if (year % 4 = 0 && year % 100 != 0) || year % 400 = 0 then 29 else 28
  else if month = 4 || month = 6 || month = 9 || month = 11 then 30
  else 31

/-- What follows a date. -/
def date? (chars : List Char) : Option (List Char) := do
  let (year, rest) ← field? 4 0 9999 chars
  let (month, rest) ← field? 2 1 12 (← after? '-' rest)
  let (_, rest) ← field? 2 1 (daysIn year month) (← after? '-' rest)
  return rest

/-- What follows a time of day, perhaps with a fraction of a second. A leap second
is allowed. -/
def time? (chars : List Char) : Option (List Char) := do
  let (_, rest) ← field? 2 0 23 chars
  let (_, rest) ← field? 2 0 59 (← after? ':' rest)
  let (_, rest) ← field? 2 0 60 (← after? ':' rest)
  match rest with
  | '.' :: c :: fraction => if isDigit c then return fraction.dropWhile isDigit else none
  | '.' :: [] => none
  | _ => return rest

/-- What follows an offset from universal time. -/
def offset? : List Char → Option (List Char)
  | c :: rest =>
    if c == 'Z' || c == 'z' then some rest
    else if c == '+' || c == '-' then do
      let (_, rest) ← field? 2 0 23 rest
      let (_, rest) ← field? 2 0 59 (← after? ':' rest)
      return rest
    else none
  | [] => none

/-- What follows the time after a date, from the character that separates them.
The time may have an offset. -/
def timeAfterDate? : List Char → Option (List Char)
  | c :: rest =>
    if c == 'T' || c == 't' || c == ' ' then do
      let rest ← time? rest
      return (offset? rest).getD rest
    else none
  | [] => none

/-- A date, a time of day, or both. -/
def dateTime? : Scan ScalarKind := fun chars =>
  match date? chars with
  | some rest => some (.dateTime, (timeAfterDate? rest).getD rest)
  | none => (time? chars).map (.dateTime, ·)

/-- A truth value. -/
def boolean? : Scan ScalarKind := fun chars =>
  ((afterWord? ['t', 'r', 'u', 'e'] chars).orElse fun _ =>
    afterWord? ['f', 'a', 'l', 's', 'e'] chars).map (.boolean, ·)

/-- A scalar that is no text. -/
def scalar? : Scan ScalarKind := fun chars =>
  (dateTime? chars).orElse fun _ => (decimalFloat? chars).orElse fun _ =>
    (specialFloat? chars).orElse fun _ => (integer? chars).orElse fun _ => boolean? chars

end Phrasebook.Toml
