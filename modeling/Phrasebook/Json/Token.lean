import Phrasebook.Json.Value
import Phrasebook.Text.Digits
import Phrasebook.Text.Scan

/-!
# JSON tokens

The words of a JSON text: brackets, separators, the three names, numbers and
strings. White space between them is space, tab, newline and carriage return.
-/

namespace Phrasebook.Json

open Text (isDigit hexValue? afterWord? takeSome)

/-- A word of a JSON text. -/
inductive Token where
  | openBracket
  | closeBracket
  | openBrace
  | closeBrace
  | comma
  | colon
  /-- One of the three names. -/
  | name (value : Value)
  | number (written : List Char)
  | string (content : Content)

/-- White space between tokens. -/
def isSeparator (c : Char) : Bool := c == ' ' || c == '\n' || c == '\t' || c == '\r'

/-- A part of a string: a character as it stands, or an escaped code unit. -/
inductive StringUnit where
  | character (c : Char)
  | code (value : Nat)

/-- The character that a letter after a backslash stands for. -/
def shortEscape? (c : Char) : Option Char :=
  if c == '"' || c == '\\' || c == '/' then some c
  else if c == 'b' then some '\x08'
  else if c == 'f' then some '\x0c'
  else if c == 'n' then some '\n'
  else if c == 'r' then some '\r'
  else if c == 't' then some '\t'
  else none

/-- The units of a string from after its opening quote, and what follows the
closing quote. Control characters must be escaped. -/
def stringUnits? : List Char → Option (List StringUnit × List Char)
  | [] => none
  | c :: rest =>
    if c == '"' then some ([], rest)
    else if c == '\\' then
      match rest with
      | [] => none
      | letter :: rest =>
        if letter == 'u' then
          match rest with
          | a :: b :: c :: d :: rest => do
            let value := 4096 * (← hexValue? a) + 256 * (← hexValue? b) + 16 * (← hexValue? c) +
              (← hexValue? d)
            let (units, after) ← stringUnits? rest
            return (.code value :: units, after)
          | _ => none
        else do
          let character ← shortEscape? letter
          let (units, after) ← stringUnits? rest
          return (.character character :: units, after)
    else if c.toNat < 0x20 then none
    else do
      let (units, after) ← stringUnits? rest
      return (.character c :: units, after)

/-- The first half of a surrogate pair. -/
def isHighSurrogate (code : Nat) : Bool := 0xD800 ≤ code && code < 0xDC00

/-- The second half of a surrogate pair. -/
def isLowSurrogate (code : Nat) : Bool := 0xDC00 ≤ code && code < 0xE000

/-- The characters of string units. Two escaped halves of a surrogate pair that
follow each other make one character, and any other half makes none. -/
def unitsText? : List StringUnit → Option (List Char)
  | [] => some []
  | .character c :: rest => (unitsText? rest).map (c :: ·)
  | .code high :: .code low :: rest =>
    if isHighSurrogate high then
      if isLowSurrogate low then
        (unitsText? rest).map
          (Char.ofNat (0x10000 + 1024 * (high - 0xD800) + (low - 0xDC00)) :: ·)
      else none
    else if isLowSurrogate high then none
    else (unitsText? (.code low :: rest)).map (Char.ofNat high :: ·)
  | .code code :: rest =>
    if isHighSurrogate code || isLowSurrogate code then none
    else (unitsText? rest).map (Char.ofNat code :: ·)

/-- The content of a string from after its opening quote, and what follows. -/
def string? (chars : List Char) : Option (Content × List Char) :=
  (stringUnits? chars).map fun (units, rest) => ((unitsText? units).map String.ofList, rest)

/-- One or more digits and what follows them. -/
def digits? (chars : List Char) : Option (List Char × List Char) := takeSome isDigit chars

/-- The whole part of a number: zero alone, or digits that do not begin with
zero. -/
def whole? : List Char → Option (List Char × List Char)
  | '0' :: rest => some (['0'], rest)
  | chars => digits? chars

/-- The fraction of a number, which may be missing. -/
def fraction? : List Char → Option (List Char × List Char)
  | '.' :: rest => (digits? rest).map fun (digits, rest) => ('.' :: digits, rest)
  | chars => some ([], chars)

/-- The exponent of a number, which may be missing. -/
def exponent? : List Char → Option (List Char × List Char)
  | c :: rest =>
    if c == 'e' || c == 'E' then
      match rest with
      | sign :: afterSign =>
        if sign == '+' || sign == '-' then
          (digits? afterSign).map fun (digits, rest) => (c :: sign :: digits, rest)
        else (digits? rest).map fun (digits, rest) => (c :: digits, rest)
      | [] => none
    else some ([], c :: rest)
  | [] => some ([], [])

/-- The characters of a number and what follows them. -/
def number? (chars : List Char) : Option (List Char × List Char) := do
  let (sign, unsigned) := match chars with
    | '-' :: rest => (['-'], rest)
    | _ => ([], chars)
  let (whole, rest) ← whole? unsigned
  let (fraction, rest) ← fraction? rest
  let (exponent, rest) ← exponent? rest
  return (sign ++ whole ++ fraction ++ exponent, rest)

/-- The token at the start of a text, and what follows it. -/
def token? (chars : List Char) : Option (Token × List Char) :=
  match chars with
  | [] => none
  | '[' :: rest => some (.openBracket, rest)
  | ']' :: rest => some (.closeBracket, rest)
  | '{' :: rest => some (.openBrace, rest)
  | '}' :: rest => some (.closeBrace, rest)
  | ',' :: rest => some (.comma, rest)
  | ':' :: rest => some (.colon, rest)
  | '"' :: rest => (string? rest).map fun (content, rest) => (.string content, rest)
  | 'n' :: rest => (afterWord? ['u', 'l', 'l'] rest).map fun rest => (.name .null, rest)
  | 't' :: rest => (afterWord? ['r', 'u', 'e'] rest).map fun rest => (.name (.bool true), rest)
  | 'f' :: rest =>
    (afterWord? ['a', 'l', 's', 'e'] rest).map fun rest => (.name (.bool false), rest)
  | _ => (number? chars).map fun (written, rest) => (.number written, rest)

/-- The tokens of a text. Every token takes a character at least, so as many
rounds as there are characters are enough; `fuel` counts them. -/
def tokensWithin? : Nat → List Char → Option (List Token)
  | _, [] => some []
  | 0, _ :: _ => none
  | fuel + 1, c :: rest =>
    if isSeparator c then tokensWithin? fuel rest
    else do
      let (token, rest) ← token? (c :: rest)
      return token :: (← tokensWithin? fuel rest)

/-- The tokens of a JSON text, or nothing when some part of it is no token. -/
def tokens? (chars : List Char) : Option (List Token) := tokensWithin? chars.length chars

end Phrasebook.Json
