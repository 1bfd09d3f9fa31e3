import Phrasebook.Proofs.Request.Diagnosis

/-!
# The components of a reference tile it

A reference is read twice. The scanner goes forward from the at sign and takes components as long
as there are any; this fixes where the reference ends. Then the components are searched for in
what was taken, where a search could pass over text and could find other components than those
that were taken. It does neither. The components that are found lie side by side, from right
behind the at sign to the end of the reference, and each of them is one that the scanner took.

So no text of a reference is lost between its components, and there is always a first component
to be the name.
-/

namespace Phrasebook.Request

open Text (byteLength byteLength_append ByteRange)
open Key (content)

/-- Whether ranges lie side by side and fill a stretch of text. -/
structure Tiles (stretch : ByteRange) (tiles : List ByteRange) : Prop where
  /-- There is at least one. -/
  nonempty : tiles ≠ []
  /-- The first one starts where the stretch does. -/
  starts : ∀ first ∈ tiles.head?, first.start = stretch.start
  /-- Each of the others starts where the one before it stops. -/
  adjoining : tiles.IsChain fun tile next => next.start = tile.stop
  /-- The last one stops where the stretch does. -/
  stops : ∀ last ∈ tiles.getLast?, last.stop = stretch.stop

/-- The range of a component that is kept as its content with the position of the content. The
opening brace stands right before that position. -/
def componentRange (found : Nat × List Char) : ByteRange :=
  .ofFragment (found.1 - 1) (componentText found.2)

/-- A single range fills itself. -/
theorem tiles_single (tile : ByteRange) : Tiles tile [tile] where
  nonempty := List.cons_ne_nil tile []
  starts := by simp
  adjoining := List.isChain_singleton tile
  stops := by simp

/-- A range before a filled stretch makes the stretch longer. -/
theorem Tiles.cons {stretch : ByteRange} {tiles : List ByteRange} (filled : Tiles stretch tiles)
    (tile : ByteRange) (adjoins : stretch.start = tile.stop) :
    Tiles ⟨tile.start, stretch.stop⟩ (tile :: tiles) where
  nonempty := List.cons_ne_nil tile tiles
  starts := by simp
  adjoining := by
    refine List.isChain_cons.2 ⟨?_, filled.adjoining⟩
    intro next isNext
    exact (filled.starts next isNext).trans adjoins
  stops := by
    intro last isLast
    rw [List.getLast?_cons_of_ne_nil filled.nonempty] at isLast
    exact filled.stops last isLast

/-- Components that follow each other fill what they take up. -/
theorem tiles_located (position : Nat) {contents : List (List Char)} (nonempty : contents ≠ []) :
    Tiles (.ofFragment position (componentsText contents))
      ((located position contents).map componentRange) := by
  induction contents generalizing position with
  | nil => contradiction
  | cons inner others inductionHypothesis =>
    by_cases alone : others = []
    · subst alone
      simpa [located, componentRange] using
        tiles_single (ByteRange.ofFragment position (componentText inner))
    · have behind := inductionHypothesis (position + byteLength (componentText inner)) alone
      have filled := behind.cons (.ofFragment position (componentText inner)) rfl
      simpa [located, componentRange, ByteRange.ofFragment, byteLength_append, Nat.add_assoc]
        using filled

/-- Components that follow each other are read where they lie. -/
theorem reads_located {input : String} {before after : List Char} {contents : List (List Char)}
    (whole : input.toList = before ++ componentsText contents ++ after) :
    ∀ found ∈ located (byteLength before) contents,
      (componentRange found).Reads input (String.ofList (componentText found.2)) := by
  intro found member
  obtain ⟨front, back, split⟩ := List.append_of_mem member
  obtain ⟨earlier, later, rfl, -, place⟩ := located_split split
  have behind : input.toList = before ++ componentsText earlier ++ componentText found.2 ++
      (componentsText later ++ after) := by simpa using whole
  have start : found.1 - 1 = byteLength (before ++ componentsText earlier) := by
    rw [place, byteLength_append, Nat.add_sub_cancel]
  rw [componentRange, start]
  exact ByteRange.reads_ofFragment behind

/-- The contents that components are kept with. -/
theorem map_snd_located (position : Nat) (contents : List (List Char)) :
    (located position contents).map Prod.snd = contents := by
  induction contents generalizing position with
  | nil => rfl
  | cons inner others inductionHypothesis => rw [located, List.map_cons, inductionHypothesis]

/-- There is one text for each content that is read. -/
theorem length_of_readContents {input : String} {items : List (Nat × List Char)}
    {values : List String} (accepted : readContents input items = .ok values) :
    values.length = items.length :=
  (Steps.mapM_eq_ok_iff.1 accepted).length_eq.symm

/-- A reference is read as the plain texts of its contents, the first of which is the name. -/
theorem readReference_forall₂ {input : String} {start : Nat} {contents : List (List Char)}
    (nonempty : contents ≠ []) (valid : ∀ inner ∈ contents, Content inner) {key : Key}
    (accepted : readReference input start (componentsText contents) = .ok key) :
    ∃ name, key.name = some name ∧
      List.Forall₂ (fun inner text => unescape .request (String.ofList inner) = .ok text)
        contents (name :: key.arguments) := by
  obtain ⟨name, arguments, rfl, -, rfl⟩ := (readReference_eq_ok_iff nonempty valid).1 accepted
  refine ⟨name, rfl, ?_⟩
  rw [List.forall₂_map_left_iff, List.forall₂_same]
  exact fun text _ => unescape_content text

/-- The components that are searched for in a reference tile it from right behind its at sign to
its end, and they are those for which the scanner took it. So each text between braces is read, in
its order, and the first one is always there to be the name. -/
theorem reference_tiled {input : String} {earlier later : List Piece} {body : List Char}
    (scanned : pieces input.toList = earlier ++ .reference body :: later) :
    let start := byteLength (piecesText earlier)
    let span := ByteRange.ofFragment start ('@' :: body)
    let found := contents (start + 1) body
    span.Reads input (String.ofList ('@' :: body)) ∧
    Tiles ⟨span.start + 1, span.stop⟩ (found.map componentRange) ∧
    (∀ item ∈ found, (componentRange item).Reads input (String.ofList (componentText item.2))) ∧
    components (body ++ piecesText later) = (found.map Prod.snd, piecesText later) ∧
    found = located (start + 1) (components (body ++ piecesText later)).1 ∧
    (∀ values, readContents input found = .ok values → values ≠ []) ∧
    ∀ key, readReference input start body = .ok key →
      ∃ name, key.name = some name ∧
        List.Forall₂ (fun inner text => unescape .request (String.ofList inner) = .ok text)
          (found.map Prod.snd) (name :: key.arguments) := by
  intro start span found
  obtain ⟨cut, text⟩ := pieces_eq_iff.1 scanned
  obtain ⟨valid, ended⟩ := cut.drop.1
  obtain ⟨contents, rfl, taken⟩ := valid.taken ended
  -- Both readings give back the contents that the reference is written with.
  have search : found = located (start + 1) contents :=
    contents_componentsText (start + 1) taken.valid
  have forward : components (componentsText contents ++ piecesText later) =
      (contents, piecesText later) := components_eq_iff.2 ⟨rfl, taken.valid, ended⟩
  have whole : input.toList =
      piecesText earlier ++ '@' :: componentsText contents ++ piecesText later := by
    rw [← text]
    simp [Piece.text]
  have behind : input.toList =
      (piecesText earlier ++ ['@']) ++ componentsText contents ++ piecesText later := by
    simpa using whole
  have place : byteLength (piecesText earlier ++ ['@']) = start + 1 := byteLength_append ..
  rw [search, map_snd_located]
  refine ⟨ByteRange.reads_ofFragment whole, ?_, ?_, forward, ?_, ?_, ?_⟩
  · have tiles := tiles_located (start + 1) taken.nonempty
    have atSign : '@'.utf8Size = 1 := rfl
    simpa [span, ByteRange.ofFragment, byteLength, atSign, Nat.add_assoc] using tiles
  · rw [← place]
    exact reads_located behind
  · rw [forward]
  · rintro values accepted rfl
    have empty : contents = [] := by
      rw [← map_snd_located (start + 1) contents]
      simpa using (length_of_readContents accepted).symm
    exact taken.nonempty empty
  · exact fun key => readReference_forall₂ taken.nonempty taken.valid

/-- A reference in which an escaped brace, no text at all and a final newline stand between
braces, with a brace behind it that opens no component. -/
def tiledText : String := "é@\x7bk\x7d\x7ba\\\x7db\x7d\x7b\x7d\x7bx\n\x7d\x7b"

/-- What stands behind its at sign. -/
def tiledBody : List Char := "\x7bk\x7d\x7ba\\\x7db\x7d\x7b\x7d\x7bx\n\x7d".toList

/-- The four components of the reference, of three, six, two and four bytes. -/
theorem reference_tiled_escaped :
    pieces tiledText.toList =
      [.plain ['é']] ++ .reference tiledBody :: [.plain ['\x7b']] ∧
    contents 3 tiledBody =
      [(4, ['k']), (7, ['a', '\\', '\x7d', 'b']), (13, []), (15, ['x', '\n'])] ∧
    Tiles ⟨3, 18⟩ ((contents 3 tiledBody).map componentRange) ∧
    (contents 3 tiledBody).map componentRange = [⟨3, 6⟩, ⟨6, 12⟩, ⟨12, 14⟩, ⟨14, 18⟩] ∧
    (readReference tiledText 2 tiledBody = .ok ⟨some "k", ["a\x7db", "", "x\n"]⟩ ∧
      ∃ name, some "k" = some name ∧
        List.Forall₂ (fun inner text => unescape .request (String.ofList inner) = .ok text)
          ((contents 3 tiledBody).map Prod.snd) [name, "a\x7db", "", "x\n"]) := by
  have scanned : pieces tiledText.toList =
      [.plain ['é']] ++ .reference tiledBody :: [.plain ['\x7b']] := by decide +kernel
  have accepted : readReference tiledText 2 tiledBody =
      .ok ⟨some "k", ["a\x7db", "", "x\n"]⟩ := by decide +kernel
  obtain ⟨-, tiles, -, -, -, -, read⟩ := reference_tiled scanned
  exact ⟨scanned, by decide +kernel, tiles, by decide +kernel, accepted, read _ accepted⟩

end Phrasebook.Request
