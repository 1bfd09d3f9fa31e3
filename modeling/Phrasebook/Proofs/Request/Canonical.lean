import Phrasebook.Proofs.Request.Cutting
import Phrasebook.Request.Basic
import Mathlib.Data.List.Chain

/-!
# Requests that a text can describe

A request is printed by escaping its texts and putting names and arguments between
braces. Not every request survives this: literal keys that touch become one, a
marker at the end of a text escapes what is printed behind it, and a newline ends a
component unless it is its last character. A request without these is canonical.

The pieces that the keys of a request print to are described here. They are cut
where the keys end exactly when the request is canonical.
-/

namespace Phrasebook

open Request (Piece Content Cut componentText componentsText piecesText)

namespace Key

/-- Whether a text can be printed between braces. -/
def Bracketed (text : String) : Prop :=
  text.toList.getLast? ≠ some Escape.marker ∧ '\n' ∉ text.toList.dropLast

instance (text : String) : Decidable (Bracketed text) := inferInstanceAs (Decidable (_ ∧ _))

/-- Whether a key by itself can be read from a text: some literal text, or a name
that is not blank with arguments, all of them fit for braces. -/
def Canonical : Key → Prop
  | ⟨none, [text]⟩ => text ≠ ""
  | ⟨none, _⟩ => False
  | ⟨some name, arguments⟩ =>
    blank name = false ∧ ∀ component ∈ name :: arguments, Bracketed component

instance : DecidablePred Canonical
  | ⟨none, []⟩ => .isFalse id
  | ⟨none, [text]⟩ => inferInstanceAs (Decidable (text ≠ ""))
  | ⟨none, _ :: _ :: _⟩ => .isFalse id
  | ⟨some _, _⟩ => inferInstanceAs (Decidable (_ ∧ _))

/-- Whether a key can stand right before another one. Literal texts must not touch,
and a marker must not stand before a reference. -/
def Precedes (left right : Key) : Prop :=
  left.name = none →
    right.name ≠ none ∧ left.joinedArguments.toList.getLast? ≠ some Escape.marker

instance (left right : Key) : Decidable (Precedes left right) :=
  inferInstanceAs (Decidable (_ → _))

/-- The characters of a text between braces, with its delimiters escaped. -/
def printComponent (text : String) : List Char := componentText (escape .request text).toList

/-- The characters that a key is printed to. -/
def print (key : Key) : List Char :=
  match key.name with
  | none => (escape .request key.joinedArguments).toList
  | some name => '@' :: (name :: key.arguments).flatMap printComponent

/-- The content that a text is printed to. -/
def content (text : String) : List Char := Escape.encode .request text.toList

/-- The piece of a request text that a key is printed to. -/
def piece (key : Key) : Piece :=
  match key.name with
  | none => .plain (content key.joinedArguments)
  | some name => .reference (componentsText ((name :: key.arguments).map content))

/-- Printing between braces is escaping to a content. -/
theorem printComponent_eq : printComponent = fun text => componentText (content text) := by
  funext text
  simp [printComponent, content, escape]

/-- A key is printed to the characters of its piece. -/
theorem piece_text (key : Key) : key.piece.text = key.print := by
  obtain ⟨name, arguments⟩ := key
  cases name with
  | none => simp [piece, print, Piece.text, content, escape]
  | some name =>
    simp only [piece, print, Piece.text, componentsText, List.flatMap_map, printComponent_eq]

/-- The pieces of keys hold what the keys are printed to. -/
theorem piecesText_map_piece (keys : List Key) :
    piecesText (keys.map piece) = keys.flatMap print := by
  simp [piecesText, List.flatMap_map, piece_text]

/-- Escaping a text makes it a content exactly when the text is fit for braces. -/
theorem content_iff (text : String) : Content (content text) ↔ Bracketed text :=
  Request.content_encode_iff text.toList

/-- Printed keys never begin with an opening brace, which would be taken for one more
component of a reference before them. -/
theorem pieces_head (keys : List Key) : (piecesText (keys.map piece)).head? ≠ some '{' := by
  induction keys with
  | nil => simp
  | cons key rest inductionHypothesis =>
    obtain ⟨name, arguments⟩ := key
    rw [List.map_cons, Request.piecesText_cons]
    cases name with
    | some name => simp [piece, Piece.text]
    | none =>
      simp only [piece, Piece.text]
      cases escaped : content (joinedArguments ⟨none, arguments⟩) with
      | nil => exact inductionHypothesis
      | cons c tail =>
        have free := Escape.encode_head_free .request escaped
        intro same
        obtain rfl : c = '{' := by simpa using same
        simp [Delimiters.contains] at free

/-- In escaped text no component begins behind an at sign, because the brace there
is escaped. Behind its end there must be no brace either. -/
theorem content_bare {text : String} {left right rest : List Char}
    (same : content text = left ++ '@' :: right) (head : rest.head? ≠ some '{') :
    Request.component? (right ++ rest) = none := by
  apply Request.component?_eq_none_of_head
  cases right with
  | nil => exact head
  | cons c tail =>
    intro opens
    obtain rfl : c = '{' := by simpa using opens
    have clean := Escape.stray_encode .request false text.toList
    have marked := (Escape.stray_start_eq_none_iff .request _).1 clean (left ++ ['@']) '{' tail
      (by rw [← content, same]; simp) rfl
    simp [Escape.marker] at marked

/-- The text of a literal key is its one argument. -/
@[simp] theorem joinedArguments_literal (text : String) :
    joinedArguments ⟨none, [text]⟩ = text := by simp [joinedArguments]

/-- Literal text can end where other keys begin if it may precede the first of them. -/
theorem plainEnds_iff (text : String) (rest : List Key) :
    Request.PlainEnds (content text) (rest.map piece) ↔
      ∀ next ∈ rest.head?, Precedes ⟨none, [text]⟩ next := by
  cases rest with
  | nil => simp [Request.PlainEnds]
  | cons next more =>
    obtain ⟨name, arguments⟩ := next
    cases name with
    | none => simp [piece, Request.PlainEnds, Precedes]
    | some name =>
      simp [piece, Request.PlainEnds, Precedes, content, Escape.encode_getLast?]

/-- The piece of a canonical key is one that the scanner takes before any pieces that do not
begin with a brace, provided that literal text can end there. -/
theorem Canonical.fits {key : Key} (canonical : key.Canonical) {following : List Piece}
    (head : (piecesText following).head? ≠ some '{')
    (ends : key.name = none → Request.PlainEnds (content key.joinedArguments) following) :
    key.piece.Fits following := by
  match key, canonical with
  | ⟨none, [text]⟩, nonempty =>
    have some : content text ≠ [] := by
      rw [content, ne_eq, Escape.encode_eq_nil_iff]
      simpa [Canonical] using nonempty
    have last := ends rfl
    rw [joinedArguments_literal] at last
    rw [piece, joinedArguments_literal]
    exact ⟨some, last, fun left right same => content_bare same head⟩
  | ⟨some name, arguments⟩, ⟨_, bracketed⟩ =>
    refine ⟨⟨_, by simp, ?_, rfl⟩, Request.component?_eq_none_of_head head⟩
    intro inner member
    obtain ⟨text, listed, rfl⟩ := List.mem_map.1 member
    exact (content_iff text).2 (bracketed text listed)

/-- The piece of a canonical key is one that the scanner takes before the pieces of
other keys, provided that the key may precede the first of them. -/
theorem Canonical.fits_iff {key : Key} (canonical : key.Canonical) (rest : List Key) :
    key.piece.Fits (rest.map piece) ↔ ∀ next ∈ rest.head?, key.Precedes next := by
  constructor
  · intro fits
    match key, canonical with
    | ⟨none, [text]⟩, _ =>
      rw [piece, joinedArguments_literal] at fits
      exact (plainEnds_iff text rest).1 fits.2.1
    | ⟨some name, arguments⟩, _ =>
      intro next _ absent
      cases absent
  · intro precedes
    refine canonical.fits (pieces_head rest) ?_
    intro unnamed
    match key, canonical with
    | ⟨none, [text]⟩, _ =>
      rw [joinedArguments_literal]
      exact (plainEnds_iff text rest).2 precedes

/-- The pieces of canonical keys are cut where the keys end exactly when each key may
precede the next one. -/
theorem cut_iff {keys : List Key} (canonical : ∀ key ∈ keys, key.Canonical) :
    Cut (keys.map piece) ↔ keys.IsChain Precedes := by
  induction keys with
  | nil => simp [Cut]
  | cons key rest inductionHypothesis =>
    have first := (canonical key (by simp)).fits_iff rest
    have others := inductionHypothesis fun other member => canonical other (by simp [member])
    rw [List.map_cons, Cut, first, others, List.isChain_cons]

/-- What follows the pieces of canonical keys does not change how these are cut, unless it
begins with a brace or with a piece that plain text can not end before. -/
theorem cut_append {keys : List Key} (canonical : ∀ key ∈ keys, key.Canonical)
    (cut : Cut (keys.map piece)) {later : List Piece} (others : Cut later)
    (head : (piecesText later).head? ≠ some '{')
    (ends : ∀ text, Request.PlainEnds text later) : Cut (keys.map piece ++ later) := by
  induction keys with
  | nil => exact others
  | cons key rest inductionHypothesis =>
    rw [List.map_cons, List.cons_append]
    refine ⟨(canonical key (by simp)).fits ?_ ?_,
      inductionHypothesis (fun other member => canonical other (by simp [member])) cut.2⟩
    · rw [Request.piecesText_append, List.head?_append]
      cases first : (piecesText (rest.map piece)).head? with
      | none => exact head
      | some c =>
        rw [Option.some_or, ← first]
        exact pieces_head rest
    · intro unnamed
      cases rest with
      | nil => exact ends _
      | cons next more =>
        have fits := cut.1
        rw [piece, unnamed] at fits
        have before : Request.PlainEnds (content key.joinedArguments) ((next :: more).map piece) :=
          fits.2.1
        rw [List.map_cons] at before ⊢
        cases shape : next.piece <;> rw [shape] at before <;> exact before

end Key

/-- Whether a request is one that a text can describe. -/
def Request.Canonical (request : Request) : Prop :=
  (∀ key ∈ request.keys, key.Canonical) ∧ request.keys.IsChain Key.Precedes

instance : DecidablePred Request.Canonical := fun _ => inferInstanceAs (Decidable (_ ∧ _))

/-- The text that a request is printed to. -/
def Request.print (request : Request) : String :=
  String.ofList (request.keys.flatMap Key.print)

end Phrasebook
