import Phrasebook.Request.Basic
import Phrasebook.Request.Piece

/-!
# Reading requests

Each piece of a request text becomes one key. Plain text becomes a literal key
with the text it stands for. A reference becomes a key whose name is its first
component and whose arguments are the others. A reference after a backslash is
checked as plain text without that backslash.

Positions in reports are byte positions of the whole text.
-/

namespace Phrasebook

open Text (byteLength ByteRange)

/-- Why a request text can not be read. -/
inductive RequestFailure where
  /-- A delimiter lacks its escape marker. -/
  | strayDelimiter (stray : StrayDelimiter)
  /-- The first component of the reference at a range names no key. The text of
  the reference is kept beside it. -/
  | emptyKey (input : String) (span : ByteRange) (reference : String)
deriving DecidableEq, Repr

/-- The wording of the report. -/
def RequestFailure.message : RequestFailure → String
  | .strayDelimiter stray => stray.message
  | .emptyKey _ span reference =>
    "Localization key can not be empty. Match string '" ++ reference ++ "' in indexes " ++
      span.describe

namespace Request

/-- What a fragment of the text stands for. -/
def readText (input : String) (start : Nat) (fragment : List Char) :
    Except RequestFailure String :=
  match unescapeFragment .request input start fragment with
  | .ok text => .ok (String.ofList text)
  | .error stray => .error (.strayDelimiter stray)

/-- The key of the reference that begins at `start`. All components are read
before the name is looked at, so that a stray delimiter is reported first. -/
def readReference (input : String) (start : Nat) (body : List Char) :
    Except RequestFailure Key := do
  let values ← (contents (start + 1) body).mapM fun (position, content) =>
    readText input position content
  let name := values.headD ""
  if blank name then
    let reference := '@' :: body
    throw (.emptyKey input (ByteRange.ofFragment start reference) (String.ofList reference))
  return ⟨some name, values.tail⟩

/-- The key of the piece that begins at `start`. -/
def Piece.read (input : String) (start : Nat) : Piece → Except RequestFailure Key
  | .plain text => Key.literal <$> readText input start text
  | .guarded body => Key.literal <$> readText input (start + 1) ('@' :: body)
  | .reference body => readReference input start body

/-- The keys of pieces that follow each other from `start` on, or the first
failure. -/
def readPieces (input : String) : Nat → List Piece → Except RequestFailure (List Key)
  | _, [] => .ok []
  | start, piece :: rest => do
    let key ← piece.read input start
    let keys ← readPieces input (start + byteLength piece.text) rest
    return key :: keys

/-- The request that a text describes. -/
def parse (input : String) : Except RequestFailure Request :=
  Request.mk <$> readPieces input 0 (pieces input.toList)

end Request

end Phrasebook
