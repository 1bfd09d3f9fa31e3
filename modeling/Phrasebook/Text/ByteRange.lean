/-!
# Byte ranges

Positions in a text are counted in bytes of its UTF-8 form. A range holds the
position of its first byte and the position after its last one.
-/

namespace Phrasebook.Text

/-- The number of bytes that the characters take in UTF-8. -/
def byteLength : List Char → Nat
  | [] => 0
  | c :: rest => c.utf8Size + byteLength rest

/-- The bytes of a joined text are those of its parts. -/
theorem byteLength_append (left right : List Char) :
    byteLength (left ++ right) = byteLength left + byteLength right := by
  induction left with
  | nil => simp [byteLength]
  | cons c rest inductionHypothesis =>
    simp only [List.cons_append, byteLength, inductionHypothesis, Nat.add_assoc]

/-- A half-open range of byte positions. -/
structure ByteRange where
  /-- Position of the first byte. -/
  start : Nat
  /-- Position after the last byte. -/
  stop : Nat
deriving DecidableEq, Repr

/-- The range that a fragment fills when it begins at the given position. -/
def ByteRange.ofFragment (start : Nat) (fragment : List Char) : ByteRange :=
  ⟨start, start + byteLength fragment⟩

/-- The two bounds with two dots between them. -/
def ByteRange.describe (range : ByteRange) : String :=
  toString range.start ++ ".." ++ toString range.stop

end Phrasebook.Text
