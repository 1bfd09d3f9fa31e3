import Phrasebook.Proofs.Request.Diagnosis
import Phrasebook.Proofs.Request.RoundTrip

/-!
# References behind a marker

A marker before a reference keeps it from being read as a reference, but the text can not
be read as plain text either: the marker is left out before the rest is checked, and so the
at sign is found to be stray. Such a text is refused whenever reading comes that far.

Reading comes that far exactly when the text before the marker can be read by itself. What
stands there, a marker at its end included, can not draw the guarded reference into a
piece of its own, and the contents of the reference do not matter.
-/

namespace Phrasebook.Request

open Text (byteLength byteLength_append byteLength_eq_size ByteRange)

/-- The report about a reference behind a marker. It is about the reference alone, which
begins at `start`, and points at its at sign. -/
def guardedReport (input : String) (start : Nat) (body : List Char) : StrayDelimiter where
  input
  fragment := String.ofList ('@' :: body)
  fragmentRange := ByteRange.ofFragment start ('@' :: body)
  offending := ⟨start, start + 1⟩
  delimiter := '@'

/-- Whether reading an input comes to a reference behind a marker. All pieces before it can be
read, and hold the text `before`. -/
def Reaches (input : String) (before body : List Char) : Prop :=
  ∃ earlier later keys, pieces input.toList = earlier ++ .guarded body :: later ∧
    piecesText earlier = before ∧ readPieces input 0 earlier = .ok keys

/-- A reference behind a marker is reported wherever it stands. -/
theorem read_guarded (input : String) (start : Nat) (body : List Char) :
    (Piece.guarded body).read input start =
      .error (.strayDelimiter (guardedReport input (start + 1) body)) := by
  rw [Piece.read, readText_guarded]
  rfl

/-- The report is about the input behind the marker. -/
theorem guardedReport_exact {input : String} {before body after : List Char}
    (whole : input.toList = before ++ Escape.marker :: '@' :: (body ++ after)) :
    (guardedReport input (byteLength before + 1) body).Exact .request input := by
  have behind : input.toList = before ++ [Escape.marker] ++ '@' :: body ++ after := by
    simpa using whole
  have start : byteLength (before ++ [Escape.marker]) = byteLength before + 1 :=
    byteLength_append ..
  obtain ⟨stray, same, exactReport, -⟩ := readText_exact behind (readText_guarded ..)
  rw [start] at same
  cases same
  exact exactReport

/-- The contents that a reference was taken for make up a body. -/
theorem Taken.body {contents : List (List Char)} {after : List Char}
    (taken : Taken contents after) : Body (componentsText contents) :=
  ⟨contents, taken.nonempty, taken.valid, rfl⟩

/-- A text that begins with a reference begins with one that is as long as it can be. -/
theorem BeginsReference.taken {chars : List Char} (begins : BeginsReference chars) :
    ∃ contents after, chars = '@' :: (componentsText contents ++ after) ∧ Taken contents after := by
  obtain ⟨rest, rfl, present⟩ := beginsReference_iff.1 begins
  obtain ⟨⟨body, after⟩, found⟩ :=
    Option.ne_none_iff_exists'.1 (mt referenceBody?_eq_none_iff.1 present)
  obtain ⟨split, valid, ended⟩ := referenceBody?_sound found
  obtain ⟨contents, rfl, taken⟩ := valid.taken ended
  exact ⟨contents, after, congrArg (List.cons '@') split, taken⟩

/-- Reading stops at the reference behind the marker. -/
theorem Reaches.refused {input : String} {before body : List Char}
    (reaches : Reaches input before body) :
    parse input = .error (.strayDelimiter (guardedReport input (byteLength before + 1) body)) := by
  obtain ⟨earlier, later, keys, split, rfl, accepted⟩ := reaches
  rw [parse, split, Steps.map_eq_error_iff]
  refine readPieces_stop accepted ?_ later
  rw [Nat.zero_add]
  exact read_guarded ..

/-- Reading comes to a reference behind a marker exactly when the text before the marker can be
read by itself.

The scanner looks forward, so it has to be shown that it cuts the text before the marker as
it does without the rest. It does since a marker opens no component and ends plain text. -/
theorem reaches_iff {input : String} {before body : List Char} :
    Reaches input before body ↔
      ∃ read contents after, parse (String.ofList before) = .ok read ∧
        body = componentsText contents ∧ Taken contents after ∧
        input.toList = before ++ Escape.marker :: '@' :: (body ++ after) := by
  constructor
  · rintro ⟨earlier, later, keys, split, rfl, accepted⟩
    obtain ⟨cut, text⟩ := pieces_eq_iff.1 split
    obtain ⟨rfl, canonical⟩ := (readPieces_eq_ok_iff cut.of_append).1 accepted
    obtain ⟨valid, ended⟩ := cut.drop.1
    obtain ⟨contents, rfl, taken⟩ := valid.taken ended
    refine ⟨⟨keys⟩, contents, piecesText later, ?_, rfl, taken, ?_⟩
    · have chain := (Key.cut_iff canonical).1 cut.of_append
      refine parse_eq_ok_iff.2 ⟨⟨canonical, chain⟩, ?_⟩
      rw [print, Key.piecesText_map_piece]
    · simpa [Piece.text] using text.symm
  · rintro ⟨⟨keys⟩, contents, after, accepted, rfl, taken, whole⟩
    obtain ⟨⟨canonical, chain⟩, printed⟩ := parse_eq_ok_iff.1 accepted
    have text : piecesText (keys.map Key.piece) = before := by
      rw [← String.ofList_inj, ← printed, print, Key.piecesText_map_piece]
    have cut : Cut (keys.map Key.piece) := (Key.cut_iff canonical).2 chain
    obtain ⟨afterCut, afterText⟩ := pieces_cut after
    have others : Cut (.guarded (componentsText contents) :: pieces after) := by
      refine ⟨⟨taken.body, ?_⟩, afterCut⟩
      rw [afterText]
      exact taken.ended
    have head : (piecesText (.guarded (componentsText contents) :: pieces after)).head? ≠
        some '{' := by simp [Piece.text, Escape.marker]
    have split := Key.cut_append canonical cut others head fun _ => trivial
    refine ⟨keys.map Key.piece, pieces after, keys, ?_, text, ?_⟩
    · refine pieces_eq_iff.2 ⟨split, ?_⟩
      simp [text, afterText, whole, Piece.text]
    · exact (readPieces_eq_ok_iff cut).2 ⟨rfl, canonical⟩

/-- A reference behind a marker is never read. Reading fails there whenever it comes that far,
with a report about the reference without the marker that points at its at sign. This happens
exactly to the texts of which the part before the marker can be read. -/
theorem guarded_refused :
    (∀ input before body, Reaches input before body →
      parse input = .error (.strayDelimiter (guardedReport input (byteLength before + 1) body)) ∧
      (guardedReport input (byteLength before + 1) body).Exact .request input) ∧
    (∀ input start body key, (Piece.guarded body).read input start ≠ .ok key) ∧
    (∀ input before body, Reaches input before body ↔
      ∃ read contents after, parse (String.ofList before) = .ok read ∧
        body = componentsText contents ∧ Taken contents after ∧
        input.toList = before ++ Escape.marker :: '@' :: (body ++ after)) ∧
    ∀ accepted read reference, parse accepted = .ok read → BeginsReference reference →
      ∃ contents after, reference = '@' :: (componentsText contents ++ after) ∧
        Taken contents after ∧
        parse (accepted ++ String.ofList (Escape.marker :: reference)) =
          .error (.strayDelimiter (guardedReport
            (accepted ++ String.ofList (Escape.marker :: reference))
            (accepted.utf8ByteSize + 1) (componentsText contents))) := by
  refine ⟨?_, ?_, fun _ _ _ => reaches_iff, ?_⟩
  · intro input before body reaches
    obtain ⟨read, contents, after, -, -, -, whole⟩ := reaches_iff.1 reaches
    exact ⟨reaches.refused, guardedReport_exact whole⟩
  · intro input start body key accepted
    rw [read_guarded] at accepted
    cases accepted
  · intro accepted read reference before begins
    obtain ⟨contents, after, rfl, taken⟩ := begins.taken
    refine ⟨contents, after, rfl, taken, ?_⟩
    have reaches : Reaches
        (accepted ++ String.ofList (Escape.marker :: '@' :: (componentsText contents ++ after)))
        accepted.toList (componentsText contents) :=
      reaches_iff.2 ⟨read, contents, after, by rwa [String.ofList_toList], rfl, taken, by simp⟩
    have size : byteLength accepted.toList = accepted.utf8ByteSize := by
      rw [byteLength_eq_size, String.ofList_toList]
    rw [← size]
    exact reaches.refused

/-- A text that can be read, and that ends in a marker. -/
def markedText : String := "é\\@\\"

/-- A reference whose contents hold escaped and stray delimiters, and some text behind it. -/
def behindMarker : List Char := "@\x7bk\\\x7d\x7d\x7b@\x7bx\x7d\x7dy".toList

/-- The marker at the end of the text is not the one that guards the reference. -/
theorem guarded_refused_marked :
    parse markedText = .ok (literal "é@\\") ∧ BeginsReference behindMarker ∧
      (∃ contents after, behindMarker = '@' :: (componentsText contents ++ after) ∧
        Taken contents after ∧
        parse (markedText ++ String.ofList (Escape.marker :: behindMarker)) =
          .error (.strayDelimiter (guardedReport
            (markedText ++ String.ofList (Escape.marker :: behindMarker))
            (markedText.utf8ByteSize + 1) (componentsText contents)))) ∧
      Reaches "é\\@\\\\@\x7bk\x7d" markedText.toList "\x7bk\x7d".toList ∧
      parse "é\\@\\\\@\x7bk\x7d" = .error (.strayDelimiter (guardedReport
        "é\\@\\\\@\x7bk\x7d" (byteLength markedText.toList + 1) "\x7bk\x7d".toList)) := by
  have accepted : parse markedText = .ok (literal "é@\\") := by decide +kernel
  have begins : BeginsReference behindMarker :=
    beginsReference_iff.2 ⟨_, rfl, by decide +kernel⟩
  have reaches : Reaches "é\\@\\\\@\x7bk\x7d" markedText.toList "\x7bk\x7d".toList :=
    ⟨[.plain markedText.toList], [], [Key.literal "é@\\"], by decide +kernel, rfl,
      by decide +kernel⟩
  exact ⟨accepted, begins, guarded_refused.2.2.2 _ _ _ accepted begins, reaches,
    (guarded_refused.1 _ _ _ reaches).1⟩

end Phrasebook.Request
