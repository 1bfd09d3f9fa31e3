import Phrasebook.Text.Digits
import Phrasebook.Text.Scan

/-!
# The words of TOML

White space, comments, line ends, quoted texts and keys. Control characters other
than the tab are not allowed anywhere; a line ends with a newline that may follow
a carriage return.
-/

namespace Phrasebook.Toml

open Text (Scan many takeSome hexChar? isDigit)

/-- White space inside a line. -/
def isSpace (c : Char) : Bool := c == ' ' || c == '\t'

/-- A character that may stand in a comment: all but control characters. -/
def isPlain (c : Char) : Bool := c == '\t' || (0x20 ≤ c.toNat && c.toNat != 0x7F)

/-- What follows white space inside a line. -/
def skipSpace (chars : List Char) : List Char := chars.dropWhile isSpace

/-- What follows a line end. -/
def lineEnd? : List Char → Option (List Char)
  | '\n' :: rest => some rest
  | '\r' :: '\n' :: rest => some rest
  | _ => none

/-- What follows white space and a comment, both of which may be missing. -/
def skipComment (chars : List Char) : List Char :=
  match skipSpace chars with
  | '#' :: rest => rest.dropWhile isPlain
  | rest => rest

/-- What follows the rest of a line that holds nothing more than a comment. The
text may also end here. -/
def restOfLine? (chars : List Char) : Option (List Char) :=
  match skipComment chars with
  | [] => some []
  | rest => lineEnd? rest

/-- Reads over a line break, perhaps after white space and a comment. -/
def blankLine? : Scan Unit := fun chars => (lineEnd? (skipComment chars)).map ((), ·)

/-- What follows white space, comments and line breaks. -/
def skipBlank (chars : List Char) : List Char := skipSpace (many blankLine? chars).2

/-- The character that an escape stands for, from after its backslash. -/
def escape? : Scan Char
  | 'b' :: rest => some ('\x08', rest)
  | 't' :: rest => some ('\t', rest)
  | 'n' :: rest => some ('\n', rest)
  | 'f' :: rest => some ('\x0c', rest)
  | 'r' :: rest => some ('\r', rest)
  | '"' :: rest => some ('"', rest)
  | '\\' :: rest => some ('\\', rest)
  | 'u' :: rest => hexChar? 4 rest
  | 'U' :: rest => hexChar? 8 rest
  | _ => none

/-- A character inside double quotes. -/
def basicChar? : Scan Char
  | '\\' :: rest => escape? rest
  | c :: rest => if isPlain c && c != '"' then some (c, rest) else none
  | [] => none

/-- A text on one line from after its opening double quote. -/
def basicText? : Scan (List Char) := fun chars =>
  match many basicChar? chars with
  | (content, '"' :: rest) => some (content, rest)
  | _ => none

/-- A text on one line from after its opening single quote. It has no escapes. -/
def literalText? : Scan (List Char) := fun chars =>
  let content := chars.takeWhile fun c => isPlain c && c != '\''
  match chars.drop content.length with
  | '\'' :: rest => some (content, rest)
  | _ => none

/-- A line break inside a text, which always counts as a newline. -/
def lineBreak? : Scan (List Char) := fun chars => (lineEnd? chars).map (['\n'], ·)

/-- What follows a backslash at the end of a line, the line break, and all white
space up to the next other character. -/
def continuation? : Scan (List Char) := fun chars => do
  let rest ← lineEnd? (skipSpace chars)
  let blankLine : Scan Unit := fun chars => (lineEnd? (skipSpace chars)).map ((), ·)
  return ([], skipSpace (many blankLine rest).2)

/-- How many of the given quote character a text begins with. -/
def quoteRun (quote : Char) (chars : List Char) : Nat := (chars.takeWhile (· == quote)).length

/-- One or two quotes that do not end a text of several lines, since something
else follows them. -/
def innerQuotes? (quote : Char) : Scan (List Char) := fun chars =>
  let run := quoteRun quote chars
  if run = 1 || run = 2 then some (List.replicate run quote, chars.drop run) else none

/-- A part of a text of several lines inside double quotes. -/
def basicPart? : Scan (List Char)
  | '\\' :: rest =>
    (continuation? rest).orElse fun _ => (escape? rest).map fun (c, rest) => ([c], rest)
  | '"' :: rest => innerQuotes? '"' ('"' :: rest)
  | c :: rest => if isPlain c then some ([c], rest) else lineBreak? (c :: rest)
  | [] => none

/-- A part of a text of several lines inside single quotes. -/
def literalPart? : Scan (List Char)
  | '\'' :: rest => innerQuotes? '\'' ('\'' :: rest)
  | c :: rest => if isPlain c then some ([c], rest) else lineBreak? (c :: rest)
  | [] => none

/-- A text of several lines from after its three opening quotes. A line break
right there is dropped. Up to two more quotes before the three closing ones
belong to the text. -/
def blockText? (quote : Char) (part : Scan (List Char)) : Scan (List Char) := fun chars =>
  let chars := (lineEnd? chars).getD chars
  let (parts, rest) := many part chars
  let run := min (quoteRun quote rest) 5
  if run < 3 then none
  else some (parts.flatten ++ List.replicate (run - 3) quote, rest.drop run)

/-- A quoted text in any of the four forms. -/
def quotedText? : Scan (List Char)
  | '"' :: '"' :: '"' :: rest => blockText? '"' basicPart? rest
  | '"' :: rest => basicText? rest
  | '\'' :: '\'' :: '\'' :: rest => blockText? '\'' literalPart? rest
  | '\'' :: rest => literalText? rest
  | _ => none

/-- A character that may stand in a key without quotes. -/
def isBare (c : Char) : Bool :=
  isDigit c || ('a' ≤ c && c ≤ 'z') || ('A' ≤ c && c ≤ 'Z') || c == '-' || c == '_'

/-- A single key. -/
def key? : Scan String
  | '"' :: rest => (basicText? rest).map fun (content, rest) => (String.ofList content, rest)
  | '\'' :: rest => (literalText? rest).map fun (content, rest) => (String.ofList content, rest)
  | chars => (takeSome isBare chars).map fun (content, rest) => (String.ofList content, rest)

/-- A key with white space around it. -/
def spacedKey? : Scan String := fun chars =>
  (key? (skipSpace chars)).map fun (key, rest) => (key, skipSpace rest)

/-- A dot and the key after it. -/
def dotKey? : Scan String
  | '.' :: rest => spacedKey? rest
  | _ => none

/-- How deep values and keys may nest. -/
def depthBound : Nat := 79

/-- Keys with dots between them. -/
def path? : Scan (List String) := fun chars => do
  let (first, rest) ← spacedKey? chars
  let (others, rest) := many dotKey? rest
  if depthBound < others.length + 1 then none else return (first :: others, rest)

end Phrasebook.Toml
