import Phrasebook.Proofs.Escape.Codec
import Phrasebook.Proofs.Text.Range

/-!
# What a report about a stray delimiter says

A report names the whole input, the fragment that was checked and the delimiter, with a
range for each of the latter two. Both ranges lie in the input and hold what is named.
The delimiter is the first one of its fragment that is not escaped there.
-/

namespace Phrasebook

open Text (byteLength byteLength_append ByteRange)

/-- Whether a report about a stray delimiter describes the given input. -/
structure StrayDelimiter.Exact (delimiters : Delimiters) (input : String)
    (stray : StrayDelimiter) : Prop where
  /-- The whole input is named. -/
  whole : stray.input = input
  /-- The fragment is what its range holds. -/
  fragment : stray.fragmentRange.Reads input stray.fragment
  /-- The delimiter is what the other range holds. -/
  delimiter : stray.offending.Reads input stray.delimiter.toString
  /-- The delimiter is a reserved one. -/
  reserved : delimiters.contains stray.delimiter = true
  /-- The delimiter takes one byte. -/
  oneByte : stray.offending.stop = stray.offending.start + 1
  /-- It lies inside the fragment. -/
  inside : stray.fragmentRange.start ≤ stray.offending.start ∧
    stray.offending.stop ≤ stray.fragmentRange.stop
  /-- It is not escaped there, and every delimiter before it is. -/
  first : ∃ before after, stray.fragment.toList = before ++ stray.delimiter :: after ∧
    stray.offending.start = stray.fragmentRange.start + byteLength before ∧
    before.getLast? ≠ some Escape.marker ∧
    ∀ left c right, before = left ++ c :: right → delimiters.contains c = true →
      left.getLast? = some Escape.marker

/-- A fragment is refused at what the search finds in it, and the report tells where this lies in
the input. -/
theorem unescapeFragment_eq_error_iff_stray {delimiters : Delimiters} {input : String}
    {start : Nat} {fragment : List Char} {stray : StrayDelimiter} :
    unescapeFragment delimiters input start fragment = .error stray ↔
      ∃ offset delimiter, Escape.stray delimiters false fragment = some (offset, delimiter) ∧
        stray = {
          input
          fragment := String.ofList fragment
          fragmentRange := ByteRange.ofFragment start fragment
          offending := ⟨start + offset, start + offset + 1⟩
          delimiter } := by
  rw [unescapeFragment]
  cases decoded : Escape.decode delimiters fragment with
  | ok text =>
    constructor
    · rintro ⟨⟩
    · rintro ⟨offset, delimiter, found, -⟩
      rw [← Escape.decode_eq_error_iff, decoded] at found
      cases found
  | error found =>
    obtain ⟨offset, delimiter⟩ := found
    rw [Escape.decode_eq_error_iff] at decoded
    obtain ⟨_, _, _, reserved, _⟩ := (Escape.stray_eq_some_iff ..).1 decoded
    simp only [decoded, Escape.delimiter_size delimiters reserved]
    constructor
    · rintro ⟨⟩
      exact ⟨offset, delimiter, rfl, rfl⟩
    · rintro ⟨_, _, ⟨⟩, rfl⟩
      rfl

/-- A fragment is refused exactly at the first of its delimiters that is not escaped, and
the report is fixed by that delimiter. -/
theorem unescapeFragment_eq_error_iff {delimiters : Delimiters} {input : String} {start : Nat}
    {fragment : List Char} {stray : StrayDelimiter} :
    unescapeFragment delimiters input start fragment = .error stray ↔
      ∃ before delimiter after, fragment = before ++ delimiter :: after ∧
        delimiters.contains delimiter = true ∧ before.getLast? ≠ some Escape.marker ∧
        (∀ left c right, before = left ++ c :: right → delimiters.contains c = true →
          left.getLast? = some Escape.marker) ∧
        stray = {
          input
          fragment := String.ofList fragment
          fragmentRange := ByteRange.ofFragment start fragment
          offending := ⟨start + byteLength before, start + byteLength before + 1⟩
          delimiter } := by
  simp only [unescapeFragment_eq_error_iff_stray, Escape.stray_eq_some_iff,
    Escape.stray_start_eq_none_iff, ← Bool.not_eq_true, Escape.markedAfter_eq_true_iff, ne_eq]
  constructor
  · rintro ⟨_, delimiter, ⟨before, after, split, reserved, unmarked, first, rfl⟩, rfl⟩
    exact ⟨before, delimiter, after, split, reserved, unmarked, first, rfl⟩
  · rintro ⟨before, delimiter, after, split, reserved, unmarked, first, rfl⟩
    exact ⟨_, delimiter, ⟨before, after, split, reserved, unmarked, first, rfl⟩, rfl⟩

/-- A refused fragment of an input gives an exact report. -/
theorem unescapeFragment_exact {delimiters : Delimiters} {input : String}
    {before fragment after : List Char} {stray : StrayDelimiter}
    (whole : input.toList = before ++ fragment ++ after)
    (refused : unescapeFragment delimiters input (byteLength before) fragment = .error stray) :
    stray.Exact delimiters input ∧
      stray.fragmentRange = ByteRange.ofFragment (byteLength before) fragment := by
  obtain ⟨left, delimiter, right, rfl, reserved, unmarked, first, rfl⟩ :=
    unescapeFragment_eq_error_iff.1 refused
  have oneByte : delimiter.utf8Size = 1 := Escape.delimiter_size delimiters reserved
  have around : input.toList = before ++ left ++ [delimiter] ++ (right ++ after) := by
    simpa using whole
  have place := ByteRange.reads_ofFragment around
  refine ⟨⟨rfl, ByteRange.reads_ofFragment whole, ?_, reserved, rfl, ?_, ?_⟩, rfl⟩
  · simpa [ByteRange.ofFragment, byteLength_append, byteLength, oneByte] using place
  · simp only [ByteRange.ofFragment, byteLength_append, byteLength]
    omega
  · exact ⟨left, right, by simp, rfl, unmarked, first⟩

end Phrasebook
