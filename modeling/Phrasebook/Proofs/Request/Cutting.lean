import Phrasebook.Proofs.Request.Component

/-!
# How a request text is cut

The scanner looks for the leftmost reference, takes it as long as it can, and goes
on behind it. Here the pieces are described by what may stand where: no reference
begins inside plain text, plain text is followed by no other plain text and does
not end in a marker before a reference, and behind a reference no further
component follows. A list of such pieces is the one that its own text is cut into.

The description looks forward only. Hence the first pieces of a text are also the
pieces of the text that they make up.
-/

namespace Phrasebook.Request

/-- The characters of pieces that follow each other. -/
def piecesText (parts : List Piece) : List Char := parts.flatMap Piece.text

@[simp] theorem piecesText_nil : piecesText [] = [] := rfl

@[simp] theorem piecesText_cons (piece : Piece) (parts : List Piece) :
    piecesText (piece :: parts) = piece.text ++ piecesText parts := rfl

@[simp] theorem piecesText_append (left right : List Piece) :
    piecesText (left ++ right) = piecesText left ++ piecesText right := List.flatMap_append

/-- What stands behind the at sign of a reference: at least one component. -/
def Body (body : List Char) : Prop :=
  ∃ contents, contents ≠ [] ∧ (∀ content ∈ contents, Content content) ∧
    body = componentsText contents

/-- A body begins with a component. -/
theorem Body.component {body : List Char} (valid : Body body) (rest : List Char) :
    component? (body ++ rest) ≠ none := by
  obtain ⟨contents, nonempty, valid, rfl⟩ := valid
  obtain ⟨content, more, rfl⟩ := List.exists_cons_of_ne_nil nonempty
  have found : component? (componentsText (content :: more) ++ rest) =
      some (content, componentsText more ++ rest) :=
    component?_eq_some_iff.2 ⟨by simp, valid content (by simp)⟩
  simp only [found, ne_eq, reduceCtorEq, not_false_eq_true]

/-- A body begins with a brace. -/
theorem Body.opens {body : List Char} (valid : Body body) : ∃ tail, body = '{' :: tail := by
  obtain ⟨contents, nonempty, -, rfl⟩ := valid
  obtain ⟨content, more, rfl⟩ := List.exists_cons_of_ne_nil nonempty
  exact ⟨content ++ '}' :: componentsText more, by simp [componentText]⟩

/-- A reference is refused only where not even one component follows. -/
theorem referenceBody?_eq_none_iff {chars : List Char} :
    referenceBody? chars = none ↔ component? chars = none := by
  have empty : (components chars).1 = [] ↔ component? chars = none := by
    rw [components]
    split
    · next found => simp [found]
    · next absent => simp [absent]
  rw [← empty, referenceBody?]
  simp

/-- What is taken is a body, and no component is left behind it. -/
theorem referenceBody?_sound {chars body : List Char}
    {after : { rest : List Char // rest.length ≤ chars.length }}
    (found : referenceBody? chars = some (body, after)) :
    chars = body ++ after.1 ∧ Body body ∧ component? after.1 = none := by
  rw [referenceBody?] at found
  split at found
  · cases found
  · next some =>
    cases found
    have maximal := components_maximal chars
    exact ⟨components_text chars, ⟨_, by simpa using some, maximal.1, rfl⟩, maximal.2⟩

/-- A body before anything but a component is taken whole. -/
theorem referenceBody?_complete {body rest : List Char} (valid : Body body)
    (ended : component? rest = none) :
    ∃ after, referenceBody? (body ++ rest) = some (body, after) ∧ after.1 = rest := by
  obtain ⟨contents, nonempty, valid, rfl⟩ := valid
  have taken : components (componentsText contents ++ rest) = (contents, rest) :=
    components_eq_iff.2 ⟨rfl, valid, ended⟩
  have body : (components (componentsText contents ++ rest)).1.flatMap componentText =
      componentsText contents := by rw [taken]; rfl
  refine ⟨⟨_, components_length _⟩, ?_, congrArg Prod.snd taken⟩
  simp only [referenceBody?, body]
  rw [if_neg (by simpa [taken] using nonempty)]

/-- Whether plain text can stand right before other pieces. A marker at its end
would belong to a reference that follows. -/
def PlainEnds (text : List Char) : List Piece → Prop
  | .plain _ :: _ => False
  | .reference _ :: _ => text.getLast? ≠ some Escape.marker
  | _ => True

/-- Whether a piece is what the scanner takes at the start of a text that goes on
with other pieces. -/
def Piece.Fits : Piece → List Piece → Prop
  | .plain text, following =>
    text ≠ [] ∧ PlainEnds text following ∧
      ∀ left right, text = left ++ '@' :: right →
        component? (right ++ piecesText following) = none
  | .guarded body, following => Body body ∧ component? (piecesText following) = none
  | .reference body, following => Body body ∧ component? (piecesText following) = none

/-- The lists of pieces that a text is cut into. -/
def Cut : List Piece → Prop
  | [] => True
  | piece :: following => piece.Fits following ∧ Cut following

/-- Every piece holds some text. -/
theorem Piece.Fits.text_ne_nil {piece : Piece} {following : List Piece}
    (fits : piece.Fits following) : piece.text ≠ [] := by
  cases piece with
  | plain text => exact fits.1
  | guarded body => simp [text]
  | reference body => simp [text]

/-- A character of plain text before cut pieces joins the plain text at their
start, provided that no reference begins with it. -/
theorem Cut.consPlain {c : Char} {parts : List Piece} (cut : Cut parts)
    (bare : c = '@' → component? (piecesText parts) = none)
    (unguarded : c = Escape.marker → ∀ body following, parts ≠ .reference body :: following) :
    Cut (consPlain c parts) ∧ piecesText (consPlain c parts) = c :: piecesText parts := by
  have alone : PlainEnds [c] parts → Cut (.plain [c] :: parts) := by
    intro ends
    refine ⟨⟨by simp, ends, ?_⟩, cut⟩
    intro left right same
    rcases List.append_eq_singleton_iff.1 same.symm with ⟨rfl, tail⟩ | ⟨_, impossible⟩
    · obtain ⟨rfl, rfl⟩ := List.cons.inj tail
      exact bare rfl
    · cases impossible
  cases parts with
  | nil => exact ⟨alone trivial, rfl⟩
  | cons piece following =>
    cases piece with
    | plain text =>
      obtain ⟨⟨nonempty, ends, inside⟩, others⟩ := cut
      refine ⟨⟨⟨by simp, ?_, ?_⟩, others⟩, rfl⟩
      · obtain ⟨d, more, rfl⟩ := List.exists_cons_of_ne_nil nonempty
        simpa [PlainEnds] using ends
      · intro left right same
        cases left with
        | nil =>
          obtain ⟨first, rfl⟩ := List.cons.inj same
          exact bare first
        | cons d before => exact inside before right (List.cons.inj same).2
    | guarded body => exact ⟨alone trivial, rfl⟩
    | reference body =>
      refine ⟨alone ?_, rfl⟩
      have different : c ≠ Escape.marker := fun same => unguarded same body following rfl
      simpa [PlainEnds] using different

/-- Pieces that begin with a reference begin with an at sign before a component. -/
theorem Cut.reference_text {body : List Char} {following : List Piece}
    (cut : Cut (.reference body :: following)) {c : Char} {rest : List Char}
    (text : piecesText (.reference body :: following) = c :: rest) :
    c = '@' ∧ component? rest ≠ none := by
  obtain ⟨rfl, rfl⟩ := List.cons.inj text
  exact ⟨rfl, cut.1.1.component (piecesText following)⟩

/-- The scanner loses nothing, and each piece is one that it may take there. -/
theorem pieces_cut (chars : List Char) :
    Cut (pieces chars) ∧ piecesText (pieces chars) = chars := by
  fun_induction pieces chars with
  | case1 => exact ⟨trivial, rfl⟩
  | case2 c =>
    have nothing : Cut [] := trivial
    exact nothing.consPlain (fun _ => rfl) (by simp)
  | case3 c next rest atSign body after _ found inductionHypothesis =>
    obtain ⟨text, valid, ended⟩ := referenceBody?_sound found
    obtain rfl : c = '@' := by simpa using atSign
    refine ⟨⟨⟨valid, by simpa [inductionHypothesis.2] using ended⟩, inductionHypothesis.1⟩, ?_⟩
    simp [Piece.text, inductionHypothesis.2, text]
  | case4 c next rest atSign absent inductionHypothesis =>
    obtain rfl : c = '@' := by simpa using atSign
    have bare := referenceBody?_eq_none_iff.1 absent
    have joined := Cut.consPlain inductionHypothesis.1
      (fun _ => by simpa [inductionHypothesis.2] using bare) (c := '@') (by simp [Escape.marker])
    simpa [inductionHypothesis.2] using joined
  | case5 c next rest _ guards body after _ found inductionHypothesis =>
    obtain ⟨text, valid, ended⟩ := referenceBody?_sound found
    simp only [Bool.and_eq_true, beq_iff_eq] at guards
    obtain ⟨rfl, rfl⟩ := guards
    refine ⟨⟨⟨valid, by simpa [inductionHypothesis.2] using ended⟩, inductionHypothesis.1⟩, ?_⟩
    simp [Piece.text, inductionHypothesis.2, text]
  | case6 c next rest _ guards absent inductionHypothesis =>
    simp only [Bool.and_eq_true, beq_iff_eq] at guards
    obtain ⟨rfl, rfl⟩ := guards
    have joined := Cut.consPlain inductionHypothesis.1 (c := Escape.marker)
      (by simp [Escape.marker]) (by
        intro _ body following starts
        have text := inductionHypothesis.2
        have cut := inductionHypothesis.1
        rw [starts] at text cut
        exact (cut.reference_text text).2 (referenceBody?_eq_none_iff.1 absent))
    simpa [inductionHypothesis.2] using joined
  | case7 c next rest notAt notGuard inductionHypothesis =>
    have joined := Cut.consPlain inductionHypothesis.1 (c := c)
      (fun same => (notAt (by simp [same])).elim) (by
        intro marker body following starts
        have text := inductionHypothesis.2
        have cut := inductionHypothesis.1
        rw [starts] at text cut
        exact notGuard (by simp [marker, (cut.reference_text text).1]))
    simpa [inductionHypothesis.2] using joined

/-- The scanner passes over a character that no reference begins with. -/
theorem pieces_cons_of_plain {c : Char} {chars : List Char}
    (bare : c = '@' → component? chars = none)
    (unguarded : c = Escape.marker → ∀ rest, chars = '@' :: rest → component? rest = none) :
    pieces (c :: chars) = consPlain c (pieces chars) := by
  cases chars with
  | nil => simp [pieces, consPlain]
  | cons next rest =>
    rw [pieces]
    split
    · next atSign =>
      have absent := referenceBody?_eq_none_iff.2 (bare (by simpa using atSign))
      split
      · next found => simp [absent] at found
      · rfl
    · split
      · next guards =>
        simp only [Bool.and_eq_true, beq_iff_eq] at guards
        have absent := referenceBody?_eq_none_iff.2
          (unguarded guards.1 rest (by rw [guards.2]))
        split
        · next found => simp [absent] at found
        · rfl
      · rfl

/-- The scanner takes a reference whole. -/
theorem pieces_reference {body rest : List Char} (valid : Body body)
    (ended : component? rest = none) :
    pieces ('@' :: (body ++ rest)) = .reference body :: pieces rest := by
  obtain ⟨after, found, same⟩ := referenceBody?_complete valid ended
  obtain ⟨tail, rfl⟩ := valid.opens
  simp only [List.cons_append] at found ⊢
  rw [pieces]
  simp [found, same]

/-- The scanner takes the marker before a reference together with it. -/
theorem pieces_guarded {body rest : List Char} (valid : Body body)
    (ended : component? rest = none) :
    pieces (Escape.marker :: '@' :: (body ++ rest)) = .guarded body :: pieces rest := by
  obtain ⟨after, found, same⟩ := referenceBody?_complete valid ended
  rw [pieces]
  simp [found, same, Escape.marker]

/-- Plain text that ends in a marker stands before no reference. -/
theorem PlainEnds.not_at {text : List Char} {following : List Piece}
    (ends : PlainEnds text following) (marked : text.getLast? = some Escape.marker)
    (right : List Char) : piecesText following ≠ '@' :: right := by
  intro same
  cases following with
  | nil => cases same
  | cons piece more =>
    cases piece with
    | plain other => exact ends
    | guarded body => exact absurd (List.cons.inj same).1 (by decide)
    | reference body => exact ends marked

/-- A character becomes a piece of its own where no plain text follows. -/
theorem PlainEnds.consPlain {text : List Char} {following : List Piece}
    (ends : PlainEnds text following) (c : Char) :
    consPlain c following = .plain [c] :: following := by
  cases following with
  | nil => rfl
  | cons piece more =>
    cases piece with
    | plain other => exact ends.elim
    | guarded body => rfl
    | reference body => rfl

/-- The scanner collects plain text up to the piece after it.

The induction is on the text. The part of the text behind a character, read with
the pieces that follow, is again plain text that fits there, unless it is empty. -/
theorem pieces_plain {text : List Char} {following : List Piece}
    (fits : (Piece.plain text).Fits following)
    (others : pieces (piecesText following) = following) :
    pieces (text ++ piecesText following) = .plain text :: following := by
  obtain ⟨nonempty, ends, inside⟩ := fits
  induction text with
  | nil => contradiction
  | cons c rest inductionHypothesis =>
    have bare : c = '@' → component? (rest ++ piecesText following) = none := by
      rintro rfl
      exact inside [] rest rfl
    cases rest with
    | nil =>
      have unguarded : c = Escape.marker → ∀ right,
          piecesText following = '@' :: right → component? right = none := by
        rintro rfl right same
        exact (ends.not_at rfl right same).elim
      rw [List.cons_append, pieces_cons_of_plain bare unguarded, List.nil_append, others,
        ends.consPlain]
    | cons d more =>
      have unguarded : c = Escape.marker → ∀ right,
          d :: more ++ piecesText following = '@' :: right → component? right = none := by
        rintro - right same
        obtain ⟨rfl, rfl⟩ := List.cons.inj same
        exact inside [c] more rfl
      have later := inductionHypothesis (by simp) (by simpa [PlainEnds] using ends)
        fun left right same => inside (c :: left) right (by rw [same]; rfl)
      rw [List.cons_append, pieces_cons_of_plain bare unguarded, later]
      rfl

/-- Pieces that fit are the ones that their text is cut into. -/
theorem pieces_piecesText {parts : List Piece} (cut : Cut parts) :
    pieces (piecesText parts) = parts := by
  induction parts with
  | nil => simp [pieces]
  | cons piece following inductionHypothesis =>
    obtain ⟨fits, others⟩ := cut
    have later := inductionHypothesis others
    cases piece with
    | plain text => exact pieces_plain fits later
    | guarded body =>
      have first := pieces_guarded fits.1 fits.2
      rwa [later] at first
    | reference body =>
      have first := pieces_reference fits.1 fits.2
      rwa [later] at first

/-- The pieces of a text are the only ones that fit and make it up. -/
theorem pieces_eq_iff {chars : List Char} {parts : List Piece} :
    pieces chars = parts ↔ Cut parts ∧ piecesText parts = chars := by
  constructor
  · rintro rfl
    exact pieces_cut chars
  · rintro ⟨cut, rfl⟩
    exact pieces_piecesText cut

/-- A piece that fits before other pieces fits before the first of them. -/
theorem Piece.Fits.of_append {piece : Piece} {more later : List Piece}
    (fits : piece.Fits (more ++ later)) : piece.Fits more := by
  cases piece with
  | plain text =>
    obtain ⟨nonempty, ends, inside⟩ := fits
    refine ⟨nonempty, ?_, ?_⟩
    · cases more with
      | nil => trivial
      | cons next rest => cases next <;> exact ends
    · intro left right same
      have absent := inside left right same
      rw [piecesText_append, ← List.append_assoc] at absent
      exact component?_eq_none_of_append absent
  | guarded body =>
    have absent : component? (piecesText more ++ piecesText later) = none := by
      simpa using fits.2
    exact ⟨fits.1, component?_eq_none_of_append absent⟩
  | reference body =>
    have absent : component? (piecesText more ++ piecesText later) = none := by
      simpa using fits.2
    exact ⟨fits.1, component?_eq_none_of_append absent⟩

/-- The first pieces of a text fit by themselves. -/
theorem Cut.of_append {earlier later : List Piece} (cut : Cut (earlier ++ later)) :
    Cut earlier := by
  induction earlier with
  | nil => trivial
  | cons piece more inductionHypothesis => exact ⟨cut.1.of_append, inductionHypothesis cut.2⟩

/-- The last pieces of a text fit by themselves. -/
theorem Cut.drop {earlier later : List Piece} (cut : Cut (earlier ++ later)) : Cut later := by
  induction earlier with
  | nil => exact cut
  | cons piece more inductionHypothesis => exact inductionHypothesis cut.2

/-- A body ends with a brace. -/
theorem Body.closes {body : List Char} (valid : Body body) : body.getLast? = some '}' := by
  obtain ⟨contents, nonempty, -, rfl⟩ := valid
  rcases List.eq_nil_or_concat contents with rfl | ⟨front, content, rfl⟩
  · contradiction
  · rw [List.concat_eq_append, componentsText_append]
    simp [componentText, List.getLast?_cons]

/-- What stands before a reference does not end in a marker. -/
theorem Cut.unmarked {earlier later : List Piece} {body : List Char}
    (cut : Cut (earlier ++ .reference body :: later)) :
    (piecesText earlier).getLast? ≠ some Escape.marker := by
  rcases List.eq_nil_or_concat earlier with rfl | ⟨front, last, rfl⟩
  · simp
  · rw [List.concat_eq_append, List.append_assoc] at cut
    have fits : last.Fits (.reference body :: later) := cut.drop.1
    have ending : (piecesText (front.concat last)).getLast? = last.text.getLast? := by
      rw [List.concat_eq_append, piecesText_append, piecesText_cons, piecesText_nil,
        List.append_nil, List.getLast?_append, Option.or_of_isSome]
      simpa using fits.text_ne_nil
    rw [ending]
    cases last with
    | plain text => exact fits.2.1
    | guarded inner => simp [Piece.text, List.getLast?_cons, fits.1.closes, Escape.marker]
    | reference inner => simp [Piece.text, List.getLast?_cons, fits.1.closes, Escape.marker]

end Phrasebook.Request
