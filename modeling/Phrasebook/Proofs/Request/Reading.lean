import Phrasebook.Proofs.Request.Canonical
import Phrasebook.Proofs.Steps
import Phrasebook.Request.Reader

/-!
# What reading a piece gives

A piece is read without a failure exactly when it is what some canonical key is
printed to, and then it gives that key. Neither the whole input nor the position of
the piece has a part in this; they occur in reports only.

A piece that can not be read fails at its first stray delimiter, or because its name
is blank after all of its components have been read.
-/

namespace Phrasebook.Request

open Text (byteLength byteLength_append ByteRange)
open Key (content)

/-- A fragment stands for the text that it is the escaped form of. -/
theorem readText_eq_ok_iff {input : String} {start : Nat} {fragment : List Char} {text : String} :
    readText input start fragment = .ok text ↔ fragment = content text := by
  rw [content, ← Escape.decode_eq_ok_iff, readText, unescapeFragment]
  cases Escape.decode .request fragment with
  | error found => simp
  | ok plain => simp [← String.toList_inj]

/-- A fragment is refused at its first stray delimiter. -/
theorem readText_eq_error_iff {input : String} {start : Nat} {fragment : List Char}
    {failure : RequestFailure} :
    readText input start fragment = .error failure ↔
      ∃ stray, unescapeFragment .request input start fragment = .error stray ∧
        failure = .strayDelimiter stray := by
  rw [readText]
  cases unescapeFragment .request input start fragment <;> simp [eq_comm]

/-- The contents of a reference are read one by one. -/
def readContents (input : String) (items : List (Nat × List Char)) :
    Except RequestFailure (List String) :=
  items.mapM fun (position, content) => readText input position content

/-- Contents are read without a failure exactly when all are escaped texts. -/
theorem readContents_eq_ok_iff {input : String} {position : Nat} {contents : List (List Char)}
    {texts : List String} :
    readContents input (located position contents) = .ok texts ↔ contents = texts.map content := by
  rw [readContents, Steps.mapM_eq_ok_iff]
  induction contents generalizing position texts with
  | nil => cases texts <;> simp [located]
  | cons inner contents inductionHypothesis =>
    cases texts with
    | nil => simp [located]
    | cons text texts =>
      rw [located, List.forall₂_cons, inductionHypothesis, readText_eq_ok_iff]
      simp

/-- The contents before a certain one fill the space up to it. -/
theorem located_split {position : Nat} {contents : List (List Char)} {item : Nat × List Char}
    {before after : List (Nat × List Char)}
    (split : located position contents = before ++ item :: after) :
    ∃ earlier later, contents = earlier ++ item.2 :: later ∧ before = located position earlier ∧
      item.1 = position + byteLength (componentsText earlier) + 1 := by
  induction contents generalizing position before with
  | nil => simp [located] at split
  | cons inner contents inductionHypothesis =>
    rw [located] at split
    cases before with
    | nil =>
      obtain ⟨rfl, -⟩ := List.cons.inj split
      exact ⟨[], contents, rfl, rfl, by simp [byteLength]⟩
    | cons head before =>
      obtain ⟨rfl, others⟩ := List.cons.inj split
      obtain ⟨earlier, later, rfl, rfl, place⟩ := inductionHypothesis others
      refine ⟨inner :: earlier, later, rfl, rfl, ?_⟩
      rw [place, componentsText_cons, byteLength_append]
      omega

/-- Contents are refused at the first one that has a stray delimiter. -/
theorem readContents_eq_error {input : String} {position : Nat} {contents : List (List Char)}
    {failure : RequestFailure}
    (refused : readContents input (located position contents) = .error failure) :
    ∃ (earlier : List String) (inner : List Char) (later : List (List Char)),
      contents = earlier.map content ++ inner :: later ∧
        readText input
          (position + byteLength (componentsText (earlier.map content)) + 1) inner =
            .error failure := by
  obtain ⟨before, item, after, split, ⟨texts, accepted⟩, failed⟩ :=
    Steps.mapM_eq_error_iff.1 refused
  obtain ⟨earlier, later, rfl, rfl, place⟩ := located_split split
  obtain rfl := readContents_eq_ok_iff.1 accepted
  exact ⟨texts, item.2, later, rfl, place ▸ failed⟩

/-- Reading a reference is reading the contents that it was taken for and looking at
the first of them. -/
theorem readReference_eq {input : String} {start : Nat} {contents : List (List Char)}
    (valid : ∀ inner ∈ contents, Content inner) :
    readReference input start (componentsText contents) =
      readContents input (located (start + 1) contents) >>= fun values =>
        if blank (values.headD "") then
          .error (.emptyKey input (ByteRange.ofFragment start ('@' :: componentsText contents))
            (String.ofList ('@' :: componentsText contents)))
        else .ok ⟨some (values.headD ""), values.tail⟩ := by
  rw [readReference, contents_componentsText (start + 1) valid, readContents]
  rfl

/-- A reference gives the key whose name and arguments its contents stand for. -/
theorem readReference_eq_ok_iff {input : String} {start : Nat} {contents : List (List Char)}
    (nonempty : contents ≠ []) (valid : ∀ inner ∈ contents, Content inner) {key : Key} :
    readReference input start (componentsText contents) = .ok key ↔
      ∃ name arguments, key = ⟨some name, arguments⟩ ∧ blank name = false ∧
        contents = (name :: arguments).map content := by
  rw [readReference_eq valid, Steps.bind_eq_ok_iff]
  constructor
  · rintro ⟨texts, accepted, result⟩
    obtain rfl := readContents_eq_ok_iff.1 accepted
    cases texts with
    | nil => simp at nonempty
    | cons name arguments =>
      split at result
      · cases result
      · next named =>
        cases result
        exact ⟨name, arguments, rfl, by simpa using named, rfl⟩
  · rintro ⟨name, arguments, rfl, named, rfl⟩
    exact ⟨name :: arguments, readContents_eq_ok_iff.2 rfl, by simp [named]⟩

/-- A reference that can not be read has a stray delimiter in one of its contents, or
else a blank name. -/
theorem readReference_eq_error {input : String} {start : Nat} {contents : List (List Char)}
    (nonempty : contents ≠ []) (valid : ∀ inner ∈ contents, Content inner)
    {failure : RequestFailure}
    (refused : readReference input start (componentsText contents) = .error failure) :
    (∃ (earlier : List String) (inner : List Char) (later : List (List Char)),
      contents = earlier.map content ++ inner :: later ∧
        readText input
          (start + 1 + byteLength (componentsText (earlier.map content)) + 1) inner =
            .error failure) ∨
    ∃ name arguments, contents = (name :: arguments).map content ∧ blank name = true ∧
      failure = .emptyKey input (ByteRange.ofFragment start ('@' :: componentsText contents))
        (String.ofList ('@' :: componentsText contents)) := by
  rw [readReference_eq valid, Steps.bind_eq_error_iff] at refused
  rcases refused with failed | ⟨texts, accepted, result⟩
  · exact .inl (readContents_eq_error failed)
  · obtain rfl := readContents_eq_ok_iff.1 accepted
    cases texts with
    | nil => simp at nonempty
    | cons name arguments =>
      split at result
      · next unnamed =>
        cases result
        exact .inr ⟨name, arguments, rfl, by simpa using unnamed, rfl⟩
      · cases result

/-- A reference after a marker is never read: its at sign is a stray delimiter. -/
theorem readText_guarded (input : String) (start : Nat) (body : List Char) :
    readText input start ('@' :: body) = .error (.strayDelimiter {
      input
      fragment := String.ofList ('@' :: body)
      fragmentRange := ByteRange.ofFragment start ('@' :: body)
      offending := ⟨start, start + 1⟩
      delimiter := '@' }) := rfl

/-- A piece that is read is what the key it gives is printed to. -/
theorem Piece.read_sound {input : String} {start : Nat} {piece : Piece} {following : List Piece}
    {key : Key} (fits : piece.Fits following) (accepted : piece.read input start = .ok key) :
    piece = key.piece ∧ key.Canonical := by
  cases piece with
  | plain text =>
    obtain ⟨plain, read, rfl⟩ := Steps.map_eq_ok_iff.1 accepted
    obtain rfl := readText_eq_ok_iff.1 read
    refine ⟨by simp [Key.literal, Key.piece], ?_⟩
    have nonempty := fits.1
    rw [content, ne_eq, Escape.encode_eq_nil_iff] at nonempty
    simpa [Key.literal, Key.Canonical] using nonempty
  | guarded body =>
    obtain ⟨plain, read, -⟩ := Steps.map_eq_ok_iff.1 accepted
    rw [readText_guarded] at read
    cases read
  | reference body =>
    obtain ⟨⟨contents, nonempty, valid, rfl⟩, -⟩ := fits
    obtain ⟨name, arguments, rfl, named, rfl⟩ :=
      (readReference_eq_ok_iff nonempty valid).1 accepted
    refine ⟨rfl, named, ?_⟩
    intro text listed
    exact (Key.content_iff text).1 (valid _ (List.mem_map_of_mem listed))

/-- What a canonical key is printed to is read as that key. -/
theorem Piece.read_complete {key : Key} (canonical : key.Canonical) (input : String)
    (start : Nat) : key.piece.read input start = .ok key := by
  match key, canonical with
  | ⟨none, [text]⟩, _ =>
    refine Steps.map_eq_ok_iff.2 ⟨text, readText_eq_ok_iff.2 ?_, rfl⟩
    simp
  | ⟨some name, arguments⟩, ⟨named, bracketed⟩ =>
    refine (readReference_eq_ok_iff (by simp) ?_).2 ⟨name, arguments, rfl, named, rfl⟩
    intro inner member
    obtain ⟨text, listed, rfl⟩ := List.mem_map.1 member
    exact (Key.content_iff text).2 (bracketed text listed)

/-- Cut pieces are read without a failure exactly when they are what canonical keys
are printed to. -/
theorem readPieces_eq_ok_iff {input : String} {start : Nat} {parts : List Piece}
    (cut : Cut parts) {keys : List Key} :
    readPieces input start parts = .ok keys ↔
      parts = keys.map Key.piece ∧ ∀ key ∈ keys, key.Canonical := by
  induction parts generalizing start keys with
  | nil => cases keys <;> simp [readPieces]
  | cons piece following inductionHypothesis =>
    simp only [readPieces, Steps.bind_eq_ok_iff, inductionHypothesis cut.2]
    constructor
    · rintro ⟨key, accepted, others, ⟨rfl, canonical⟩, result⟩
      cases result
      obtain ⟨rfl, first⟩ := Piece.read_sound cut.1 accepted
      exact ⟨rfl, by simpa using ⟨first, canonical⟩⟩
    · rintro ⟨same, canonical⟩
      cases keys with
      | nil => cases same
      | cons key others =>
        cases same
        have first := canonical key (by simp)
        exact ⟨key, Piece.read_complete first input start, others,
          ⟨rfl, fun other member => canonical other (by simp [member])⟩, rfl⟩

/-- Pieces are refused at the first one that can not be read. -/
theorem readPieces_eq_error {input : String} {start : Nat} {parts : List Piece}
    {failure : RequestFailure} (refused : readPieces input start parts = .error failure) :
    ∃ earlier piece later keys, parts = earlier ++ piece :: later ∧
      readPieces input start earlier = .ok keys ∧
        piece.read input (start + byteLength (piecesText earlier)) = .error failure := by
  induction parts generalizing start with
  | nil => cases refused
  | cons piece following inductionHypothesis =>
    rw [readPieces, Steps.bind_eq_error_iff] at refused
    rcases refused with failed | ⟨key, accepted, refused⟩
    · exact ⟨[], piece, following, [], rfl, rfl, failed⟩
    · rw [Steps.bind_eq_error_iff] at refused
      rcases refused with refused | ⟨keys, _, impossible⟩
      · obtain ⟨earlier, failing, later, keys, rfl, before, failed⟩ := inductionHypothesis refused
        refine ⟨piece :: earlier, failing, later, key :: keys, rfl, ?_, ?_⟩
        · simp only [readPieces, accepted, before]
          rfl
        · rwa [piecesText_cons, byteLength_append, ← Nat.add_assoc]
      · cases impossible

/-- A piece that can not be read is where reading stops, provided that all pieces before it
can be read. What follows it has no part in this. -/
theorem readPieces_stop {input : String} {start : Nat} {earlier : List Piece} {keys : List Key}
    {piece : Piece} {failure : RequestFailure}
    (accepted : readPieces input start earlier = .ok keys)
    (failed : piece.read input (start + byteLength (piecesText earlier)) = .error failure)
    (later : List Piece) :
    readPieces input start (earlier ++ piece :: later) = .error failure := by
  induction earlier generalizing start keys with
  | nil => exact Steps.bind_eq_error_iff.2 (.inl failed)
  | cons first others inductionHypothesis =>
    rw [readPieces, Steps.bind_eq_ok_iff] at accepted
    obtain ⟨key, read, accepted⟩ := accepted
    obtain ⟨keys, accepted, -⟩ := Steps.bind_eq_ok_iff.1 accepted
    rw [piecesText_cons, byteLength_append, ← Nat.add_assoc] at failed
    refine Steps.bind_eq_error_iff.2 (.inr ⟨key, read, ?_⟩)
    exact Steps.bind_eq_error_iff.2 (.inl (inductionHypothesis accepted failed))

end Phrasebook.Request
