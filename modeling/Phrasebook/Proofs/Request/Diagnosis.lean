import Phrasebook.Proofs.Escape.Report
import Phrasebook.Proofs.Request.Reading

/-!
# What a report about a request text says

Every report names the whole input and ranges that lie in it. A stray delimiter is
the first one of its fragment, and the fragment is the text between two references, a
reference behind a marker without that marker, or one content of a reference. A
missing name is reported for a reference all of whose contents could be read.

Reading stops at the first piece that fails. What stands before that piece can be
read by itself, whichever kind of piece it is.
-/

namespace Phrasebook

open Text (byteLength byteLength_append ByteRange)
open Request (Piece Content Body Cut componentText componentsText piecesText)
open Key (content)

/-- An escaped text can be unescaped as a text of its own. -/
theorem unescape_content (text : String) :
    unescape .request (String.ofList (content text)) = .ok text :=
  (unescape_ok_iff .request _ text).2 rfl

namespace Request

/-- A fragment of a request text that is refused gives an exact report about it. -/
theorem readText_exact {input : String} {before fragment after : List Char}
    {failure : RequestFailure} (whole : input.toList = before ++ fragment ++ after)
    (refused : readText input (byteLength before) fragment = .error failure) :
    ∃ stray : StrayDelimiter, failure = .strayDelimiter stray ∧ stray.Exact .request input ∧
      stray.fragmentRange = ByteRange.ofFragment (byteLength before) fragment := by
  obtain ⟨stray, unescaped, rfl⟩ := readText_eq_error_iff.1 refused
  exact ⟨stray, rfl, unescapeFragment_exact whole unescaped⟩

/-- Whether contents are those of a reference that the text goes on behind: there is
at least one, and no other component follows. -/
structure Taken (contents : List (List Char)) (after : List Char) : Prop where
  /-- At least the name is there. -/
  nonempty : contents ≠ []
  /-- Each of them stands between the braces of a component. -/
  valid : ∀ inner ∈ contents, Content inner
  /-- The reference is as long as it can be. -/
  maximal : ∀ inner rest, Content inner → after ≠ componentText inner ++ rest

/-- Whether a text begins with a reference. -/
def BeginsReference (chars : List Char) : Prop :=
  ∃ inner rest, Content inner ∧ chars = '@' :: (componentText inner ++ rest)

/-- Whether a text is all that stands between two references, or between one and an
end of the input, when the part of the input before it was read. -/
structure Gap (read : Request) (text after : List Char) : Prop where
  /-- There is some text. -/
  nonempty : text ≠ []
  /-- A reference stands before it, if anything does. -/
  begins : ∀ key ∈ read.keys.getLast?, key.name ≠ none
  /-- No reference begins inside. -/
  bare : ∀ left right, text = left ++ right → right ≠ [] → ¬ BeginsReference (right ++ after)
  /-- A reference, perhaps behind a marker, stands after it, if anything does. -/
  ends : after = [] ∨ BeginsReference after ∨
    ∃ rest, after = Escape.marker :: rest ∧ BeginsReference rest

/-- How a piece between two parts of an input can fail. The part before it was read to
a request. -/
inductive Fault (input : String) (before : List Char) (read : Request) (after : List Char) :
    List Char → RequestFailure → Prop where
  /-- Text between references is checked as it is. -/
  | gap (text : List Char) (stray : StrayDelimiter) (between : Gap read text after)
      (fragment : stray.fragmentRange = ByteRange.ofFragment (byteLength before) text) :
      Fault input before read after text (.strayDelimiter stray)
  /-- A reference behind a marker is checked without the marker, which leaves its at
  sign stray. -/
  | guarded (contents : List (List Char)) (stray : StrayDelimiter) (taken : Taken contents after)
      (fragment : stray.fragmentRange =
        ByteRange.ofFragment (byteLength before + 1) ('@' :: componentsText contents))
      (offending : stray.offending.start = byteLength before + 1) :
      Fault input before read after (Escape.marker :: '@' :: componentsText contents)
        (.strayDelimiter stray)
  /-- Of the contents of a reference, those before the refused one can be unescaped. -/
  | component (earlier : List (List Char)) (inner : List Char) (later : List (List Char))
      (stray : StrayDelimiter) (taken : Taken (earlier ++ inner :: later) after)
      (unmarked : before.getLast? ≠ some Escape.marker)
      (accepted : ∀ other ∈ earlier, ∃ text, unescape .request (String.ofList other) = .ok text)
      (fragment : stray.fragmentRange = ByteRange.ofFragment
        (byteLength before + 1 + byteLength (componentsText earlier) + 1) inner) :
      Fault input before read after ('@' :: componentsText (earlier ++ inner :: later))
        (.strayDelimiter stray)
  /-- All contents of a reference can be unescaped, and the first one is blank then. -/
  | unnamed (name : List Char) (arguments : List (List Char)) (plain : String)
      (taken : Taken (name :: arguments) after)
      (unmarked : before.getLast? ≠ some Escape.marker)
      (blankName : unescape .request (String.ofList name) = .ok plain ∧ blank plain = true)
      (accepted : ∀ other ∈ arguments,
        ∃ text, unescape .request (String.ofList other) = .ok text) :
      Fault input before read after ('@' :: componentsText (name :: arguments))
        (.emptyKey input
          (ByteRange.ofFragment (byteLength before) ('@' :: componentsText (name :: arguments)))
          (String.ofList ('@' :: componentsText (name :: arguments))))

end Request

/-- Whether a report describes the given input. -/
def RequestFailure.Exact (input : String) : RequestFailure → Prop
  | .strayDelimiter stray => stray.Exact .request input
  | .emptyKey whole span reference => whole = input ∧ span.Reads input reference

namespace Request

/-- The scanner takes references that are as long as they can be. -/
theorem Body.taken {body after : List Char} (valid : Body body) (ended : component? after = none) :
    ∃ contents, body = componentsText contents ∧ Taken contents after := by
  obtain ⟨contents, nonempty, valid, rfl⟩ := valid
  refine ⟨contents, rfl, nonempty, valid, ?_⟩
  rintro inner rest content rfl
  rw [component?_eq_some_iff.2 ⟨rfl, content⟩] at ended
  cases ended

/-- No component follows a reference that is as long as it can be. -/
theorem Taken.ended {contents : List (List Char)} {after : List Char}
    (taken : Taken contents after) : component? after = none := by
  cases found : component? after with
  | none => rfl
  | some step =>
    obtain ⟨same, valid⟩ := component?_eq_some_iff.1 found
    exact absurd same (taken.maximal _ _ valid)

/-- A reference begins where a component follows an at sign. -/
theorem beginsReference_iff {chars : List Char} :
    BeginsReference chars ↔ ∃ rest, chars = '@' :: rest ∧ component? rest ≠ none := by
  constructor
  · rintro ⟨inner, rest, valid, rfl⟩
    refine ⟨_, rfl, ?_⟩
    rw [component?_eq_some_iff.2 ⟨rfl, valid⟩]
    exact Option.some_ne_none _
  · rintro ⟨rest, rfl, present⟩
    obtain ⟨⟨inner, more⟩, found⟩ := Option.ne_none_iff_exists'.1 present
    obtain ⟨rfl, valid⟩ := component?_eq_some_iff.1 found
    exact ⟨inner, more, valid, rfl⟩

/-- Plain text that the scanner cuts out is all that stands between two references. -/
theorem Cut.gap {keys : List Key} {text : List Char} {later : List Piece}
    (cut : Cut (keys.map Key.piece ++ .plain text :: later)) :
    Gap ⟨keys⟩ text (piecesText later) := by
  obtain ⟨nonempty, ends, inside⟩ := cut.drop.1
  refine ⟨nonempty, ?_, ?_, ?_⟩
  · rintro ⟨name, arguments⟩ last rfl
    obtain ⟨front, rfl⟩ := List.getLast?_eq_some_iff.1 last
    rw [List.map_append, List.append_assoc] at cut
    exact cut.drop.1.2.1
  · rintro left right rfl some begins
    obtain ⟨rest, same, present⟩ := beginsReference_iff.1 begins
    cases right with
    | nil => contradiction
    | cons c more =>
      obtain ⟨rfl, rfl⟩ := List.cons.inj same
      exact present (inside left more rfl)
  · cases later with
    | nil => exact .inl rfl
    | cons piece rest =>
      have fits := cut.drop.2.1
      cases piece with
      | plain other => exact ends.elim
      | guarded body =>
        exact .inr (.inr ⟨_, rfl, beginsReference_iff.2 ⟨_, rfl, fits.1.component _⟩⟩)
      | reference body =>
        exact .inr (.inl (beginsReference_iff.2 ⟨_, rfl, fits.1.component _⟩))

/-- Plain text fails at its first stray delimiter. -/
theorem Cut.plain_fault {input : String} {keys : List Key} {text : List Char}
    {later : List Piece} {failure : RequestFailure}
    (cut : Cut (keys.map Key.piece ++ .plain text :: later))
    (whole : input.toList = piecesText (keys.map Key.piece) ++ text ++ piecesText later)
    (failed : (Piece.plain text).read input (byteLength (piecesText (keys.map Key.piece))) =
      .error failure) :
    failure.Exact input ∧
      Fault input (piecesText (keys.map Key.piece)) ⟨keys⟩ (piecesText later) text failure := by
  obtain ⟨stray, rfl, exactReport, fragment⟩ :=
    readText_exact whole (Steps.map_eq_error_iff.1 failed)
  exact ⟨exactReport, .gap text stray cut.gap fragment⟩

/-- A reference behind a marker fails at its at sign. -/
theorem Cut.guarded_fault {input : String} {keys : List Key} {body : List Char}
    {later : List Piece} {failure : RequestFailure}
    (cut : Cut (keys.map Key.piece ++ .guarded body :: later))
    (whole : input.toList =
      piecesText (keys.map Key.piece) ++ (Piece.guarded body).text ++ piecesText later)
    (failed : (Piece.guarded body).read input (byteLength (piecesText (keys.map Key.piece))) =
      .error failure) :
    failure.Exact input ∧ Fault input (piecesText (keys.map Key.piece)) ⟨keys⟩
      (piecesText later) (Piece.guarded body).text failure := by
  have behind : input.toList = piecesText (keys.map Key.piece) ++ [Escape.marker] ++
      '@' :: body ++ piecesText later := by simpa [Piece.text] using whole
  have start : byteLength (piecesText (keys.map Key.piece) ++ [Escape.marker]) =
      byteLength (piecesText (keys.map Key.piece)) + 1 := by
    rw [byteLength_append]
    rfl
  have fits := cut.drop.1
  obtain ⟨contents, rfl, taken⟩ := fits.1.taken fits.2
  have refused := Steps.map_eq_error_iff.1 failed
  rw [← start] at refused
  obtain ⟨stray, rfl, exactReport, fragment⟩ := readText_exact behind refused
  rw [start] at fragment refused
  rw [readText_guarded] at refused
  cases refused
  exact ⟨exactReport, .guarded contents _ taken fragment rfl⟩

/-- A reference fails at the first stray delimiter of a content, or because all of its
contents can be read and its name is blank. -/
theorem Cut.reference_fault {input : String} {keys : List Key} {body : List Char}
    {later : List Piece} {failure : RequestFailure}
    (cut : Cut (keys.map Key.piece ++ .reference body :: later))
    (whole : input.toList =
      piecesText (keys.map Key.piece) ++ (Piece.reference body).text ++ piecesText later)
    (failed : (Piece.reference body).read input (byteLength (piecesText (keys.map Key.piece))) =
      .error failure) :
    failure.Exact input ∧ Fault input (piecesText (keys.map Key.piece)) ⟨keys⟩
      (piecesText later) (Piece.reference body).text failure := by
  have fits := cut.drop.1
  have unmarked := cut.unmarked
  obtain ⟨contents, rfl, taken⟩ := fits.1.taken fits.2
  rcases readReference_eq_error taken.nonempty taken.valid failed with
    ⟨earlier, inner, others, rfl, refused⟩ | ⟨name, arguments, rfl, unnamed, rfl⟩
  · have behind : input.toList =
        piecesText (keys.map Key.piece) ++ ['@'] ++ componentsText (earlier.map content) ++ ['{'] ++
          inner ++ ('}' :: (componentsText others ++ piecesText later)) := by
      simpa [Piece.text, componentText] using whole
    have start : byteLength (piecesText (keys.map Key.piece) ++ ['@'] ++
        componentsText (earlier.map content) ++ ['{']) =
        byteLength (piecesText (keys.map Key.piece)) + 1 +
          byteLength (componentsText (earlier.map content)) + 1 := by
      simp only [byteLength_append]
      rfl
    rw [← start] at refused
    obtain ⟨stray, rfl, exactReport, fragment⟩ := readText_exact behind refused
    rw [start] at fragment
    refine ⟨exactReport, .component _ inner others stray taken unmarked ?_ fragment⟩
    intro other member
    obtain ⟨text, -, rfl⟩ := List.mem_map.1 member
    exact ⟨text, unescape_content text⟩
  · refine ⟨⟨rfl, ByteRange.reads_ofFragment whole⟩,
      .unnamed _ _ name taken unmarked ⟨unescape_content name, unnamed⟩ ?_⟩
    intro other member
    obtain ⟨text, -, rfl⟩ := List.mem_map.1 member
    exact ⟨text, unescape_content text⟩

/-- A refused text has an exact report, made for the first piece that fails. What stands
before that piece can be read by itself. -/
theorem parse_refused {input : String} {failure : RequestFailure}
    (refused : parse input = .error failure) :
    failure.Exact input ∧
      ∃ before piece after read, input.toList = before ++ piece ++ after ∧
        parse (String.ofList before) = .ok read ∧
          Fault input before read after piece failure := by
  obtain ⟨cut, text⟩ := pieces_cut input.toList
  obtain ⟨earlier, piece, later, keys, split, accepted, failed⟩ :=
    readPieces_eq_error (Steps.map_eq_error_iff.1 refused)
  rw [split] at cut text
  obtain ⟨rfl, canonical⟩ := (readPieces_eq_ok_iff cut.of_append).1 accepted
  rw [Nat.zero_add] at failed
  have whole : input.toList =
      piecesText (keys.map Key.piece) ++ piece.text ++ piecesText later := by
    rw [← text]
    simp
  have before : parse (String.ofList (piecesText (keys.map Key.piece))) = .ok ⟨keys⟩ := by
    refine Steps.map_eq_ok_iff.2 ⟨keys, ?_, rfl⟩
    rw [String.toList_ofList, pieces_piecesText cut.of_append]
    exact (readPieces_eq_ok_iff cut.of_append).2 ⟨rfl, canonical⟩
  have found : failure.Exact input ∧ Fault input (piecesText (keys.map Key.piece)) ⟨keys⟩
      (piecesText later) piece.text failure := by
    cases piece with
    | plain text => exact cut.plain_fault whole failed
    | guarded body => exact cut.guarded_fault whole failed
    | reference body => exact cut.reference_fault whole failed
  exact ⟨found.1, _, _, _, _, whole, before, found.2⟩

/-- A text whose last argument holds a brace that is not escaped. -/
def strayText : String := "é\\@@\x7bk\x7d\x7b\\\x7d\x7d\x7bx\x7by\x7d"

/-- The report about it. -/
def strayReport : StrayDelimiter where
  input := strayText
  fragment := "x\x7by"
  fragmentRange := ⟨13, 16⟩
  offending := ⟨14, 15⟩
  delimiter := '\x7b'

/-- The literal text before the reference can be read by itself. -/
theorem parse_refused_argument :
    parse strayText = .error (.strayDelimiter strayReport) ∧
      RequestFailure.Exact strayText (.strayDelimiter strayReport) ∧
      ∃ before piece after read, strayText.toList = before ++ piece ++ after ∧
        parse (String.ofList before) = .ok read ∧
          Fault strayText before read after piece (.strayDelimiter strayReport) := by
  have refused : parse strayText = .error (.strayDelimiter strayReport) := by decide +kernel
  exact ⟨refused, parse_refused refused⟩

end Request

end Phrasebook
