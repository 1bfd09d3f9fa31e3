import Phrasebook.Proofs.Escape.Codec
import Phrasebook.Request.Piece

/-!
# What a component is

The reader of components takes the shortest content that a closing brace may
follow. Here the same contents are described without a reader: every closing
brace inside is escaped, the last character is no marker, and a newline can only
be the last character. The reader finds a component exactly where such a content
stands between braces, and it can not be divided in two ways.

From this follow the two readings of a reference. The one that goes forward takes
as many components as there are, and the one that searches inside the reference
finds the same components, with nothing between them.
-/

namespace Phrasebook.Request

open Text (byteLength)

/-- What can stand between the braces of a component. -/
structure Content (content : List Char) : Prop where
  /-- A closing brace inside stands right after a marker. -/
  closed : ∀ left right, content = left ++ '}' :: right → left.getLast? = some Escape.marker
  /-- The brace at the end is not escaped. -/
  unmarked : content.getLast? ≠ some Escape.marker
  /-- Only the last character can be a newline. -/
  oneLine : '\n' ∉ content.dropLast

/-- The empty content is allowed. -/
theorem content_nil : Content [] where
  closed left right same := by simp at same
  unmarked := by simp
  oneLine := by simp

/-- The reader stops at a brace that closes what it has read. A brace at the very
start can not close, because the content must not be empty. -/
theorem content?_sound {chars content rest : List Char}
    (found : content? chars = some (content, rest)) :
    content ≠ [] ∧ content.getLast? ≠ some Escape.marker ∧ '\n' ∉ content.dropLast ∧
      ∀ left right, content = left ++ '}' :: right → left ≠ [] →
        left.getLast? = some Escape.marker := by
  fun_induction content? chars generalizing content with
  | case1 => cases found
  | case2 => cases found
  | case3 c next tail closes =>
    cases found
    simp only [Bool.and_eq_true, bne_iff_ne, beq_iff_eq] at closes
    refine ⟨by simp, by simpa using closes.1, by simp, ?_⟩
    intro left right same nonempty
    cases left with
    | nil => contradiction
    | cons d before => simp at same
  | case4 => cases found
  | case5 c next tail continues sameLine inductionHypothesis =>
    obtain ⟨⟨inner, after⟩, step, same⟩ := Option.map_eq_some_iff.1 found
    cases same
    obtain ⟨nonempty, unmarked, oneLine, closed⟩ := inductionHypothesis step
    obtain ⟨d, more, rfl⟩ := List.exists_cons_of_ne_nil nonempty
    have first : next = d := by simpa using (List.cons.inj (content?_text step)).1
    subst first
    refine ⟨by simp, by simpa using unmarked, ?_, ?_⟩
    · have different : '\n' ≠ c := Ne.symm (by simpa using sameLine)
      simpa [List.dropLast, different] using oneLine
    · intro left right same _
      cases left with
      | nil => contradiction
      | cons e before =>
        obtain ⟨rfl, split⟩ := List.cons.inj same
        cases before with
        | nil =>
          have brace : next = '}' := (List.cons.inj split).1
          simpa [brace] using continues
        | cons e more => simpa using closed _ _ split (by simp)

/-- Where such a content stands before a brace, the reader takes all of it. -/
theorem content?_complete {content : List Char} (rest : List Char) (nonempty : content ≠ [])
    (unmarked : content.getLast? ≠ some Escape.marker) (oneLine : '\n' ∉ content.dropLast)
    (closed : ∀ left right, content = left ++ '}' :: right → left ≠ [] →
      left.getLast? = some Escape.marker) :
    content? (content ++ '}' :: rest) = some (content, rest) := by
  induction content with
  | nil => contradiction
  | cons c inner inductionHypothesis =>
    cases inner with
    | nil =>
      have plain : c ≠ Escape.marker := by simpa using unmarked
      simp [content?, plain]
    | cons next tail =>
      have continues : ¬ (c ≠ Escape.marker ∧ next = '}') := by
        rintro ⟨plain, rfl⟩
        have marked := closed [c] tail rfl (by simp)
        exact plain (by simpa using marked)
      have sameLine : c ≠ '\n' ∧ '\n' ∉ (next :: tail).dropLast := by
        simpa [List.dropLast, eq_comm] using oneLine
      have later : content? (next :: tail ++ '}' :: rest) = some (next :: tail, rest) := by
        refine inductionHypothesis (by simp) (by simpa using unmarked) sameLine.2 ?_
        intro left right same nonempty
        have marked := closed (c :: left) right (by rw [same]; rfl) (by simp)
        obtain ⟨d, more, rfl⟩ := List.exists_cons_of_ne_nil nonempty
        simpa using marked
      simp only [List.cons_append] at later ⊢
      simp [content?, continues, sameLine.1, later]

/-- The reader of components finds one exactly where a content stands between
braces. So the content is fixed by the text alone. -/
theorem component?_eq_some_iff {chars content rest : List Char} :
    component? chars = some (content, rest) ↔
      chars = componentText content ++ rest ∧ Content content := by
  constructor
  · intro found
    refine ⟨component?_text found, ?_⟩
    unfold component? at found
    split at found
    · cases found
      exact content_nil
    · next tail notEmpty =>
      obtain ⟨nonempty, unmarked, oneLine, closed⟩ := content?_sound found
      refine ⟨?_, unmarked, oneLine⟩
      intro left right same
      cases left with
      | nil =>
        subst same
        rw [content?_text found] at notEmpty
        exact (notEmpty _ rfl).elim
      | cons c before => exact closed _ _ same (by simp)
    · cases found
  · rintro ⟨rfl, content⟩
    rename_i inner
    cases inner with
    | nil => rfl
    | cons c tail =>
      have opens : c ≠ '}' := by
        rintro rfl
        simpa using content.closed [] tail rfl
      have taken := content?_complete rest (by simp) content.unmarked content.oneLine
        fun left right same _ => content.closed left right same
      simpa [componentText, component?, opens] using taken

/-- A component at the start of a text is followed by whatever follows it. -/
theorem component?_append {chars content rest : List Char} (more : List Char)
    (found : component? chars = some (content, rest)) :
    component? (chars ++ more) = some (content, rest ++ more) := by
  obtain ⟨rfl, valid⟩ := component?_eq_some_iff.1 found
  exact component?_eq_some_iff.2 ⟨List.append_assoc .., valid⟩

/-- Text that is cut off at its end does not gain a component at its start. -/
theorem component?_eq_none_of_append {chars more : List Char}
    (absent : component? (chars ++ more) = none) : component? chars = none := by
  cases found : component? chars with
  | none => rfl
  | some taken =>
    rw [component?_append more found] at absent
    cases absent

/-- A component begins with an opening brace. -/
theorem component?_eq_none_of_head {chars : List Char} (other : chars.head? ≠ some '{') :
    component? chars = none := by
  cases found : component? chars with
  | none => rfl
  | some taken =>
    rw [component?_text found] at other
    simp [componentText] at other

/-- The components of a list of contents, one after the other. -/
def componentsText (contents : List (List Char)) : List Char := contents.flatMap componentText

@[simp] theorem componentsText_nil : componentsText [] = [] := rfl

@[simp] theorem componentsText_cons (content : List Char) (contents : List (List Char)) :
    componentsText (content :: contents) = componentText content ++ componentsText contents := rfl

@[simp] theorem componentsText_append (left right : List (List Char)) :
    componentsText (left ++ right) = componentsText left ++ componentsText right :=
  List.flatMap_append

/-- The components that are taken and what is left make up the text. -/
theorem components_text (chars : List Char) :
    chars = componentsText (components chars).1 ++ (components chars).2 := by
  fun_induction components chars with
  | case1 chars content rest found _ following inductionHypothesis =>
    rw [componentsText_cons, List.append_assoc, ← inductionHypothesis]
    exact component?_text found
  | case2 => rfl

/-- Components are taken as long as there are any: none begins what is left. -/
theorem components_maximal (chars : List Char) :
    (∀ content ∈ (components chars).1, Content content) ∧
      component? (components chars).2 = none := by
  fun_induction components chars with
  | case1 chars content rest found _ following inductionHypothesis =>
    have first : Content content := (component?_eq_some_iff.1 found).2
    refine ⟨?_, inductionHypothesis.2⟩
    intro inner member
    rcases List.mem_cons.1 member with rfl | member
    · exact first
    · exact inductionHypothesis.1 inner member
  | case2 chars absent => exact ⟨by simp, absent⟩

/-- A text is divided into components and a rest in one way only. -/
theorem components_eq_iff {chars rest : List Char} {contents : List (List Char)} :
    components chars = (contents, rest) ↔
      chars = componentsText contents ++ rest ∧ (∀ content ∈ contents, Content content) ∧
        component? rest = none := by
  constructor
  · intro taken
    have text := components_text chars
    have maximal := components_maximal chars
    rw [taken] at text maximal
    exact ⟨text, maximal⟩
  · rintro ⟨rfl, valid, ended⟩
    induction contents with
    | nil =>
      rw [components]
      split
      · next found => simp [ended] at found
      · rfl
    | cons content contents inductionHypothesis =>
      have found : component? (componentsText (content :: contents) ++ rest) =
          some (content, componentsText contents ++ rest) :=
        component?_eq_some_iff.2 ⟨by simp, valid content (by simp)⟩
      have later := inductionHypothesis fun inner member => valid inner (by simp [member])
      rw [components]
      split
      · next found' =>
        rw [found] at found'
        cases found'
        simp [later]
      · next absent =>
        rw [found] at absent
        cases absent

/-- Contents with the byte positions that they have when their components follow
each other from a position on. -/
def located : Nat → List (List Char) → List (Nat × List Char)
  | _, [] => []
  | position, content :: contents =>
    (position + 1, content) :: located (position + byteLength (componentText content)) contents

/-- The search for components inside a reference finds those that the reference was
taken for, at their positions. Nothing between them is passed over. -/
theorem contents_componentsText (position : Nat) {contents : List (List Char)}
    (valid : ∀ content ∈ contents, Content content) :
    Request.contents position (componentsText contents) = located position contents := by
  induction contents generalizing position with
  | nil =>
    rw [Request.contents]
    rfl
  | cons content contents inductionHypothesis =>
    have found : component? (componentsText (content :: contents)) =
        some (content, componentsText contents) :=
      component?_eq_some_iff.2 ⟨by simp, valid content (by simp)⟩
    have later := inductionHypothesis (position + byteLength (componentText content))
      fun inner member => valid inner (by simp [member])
    rw [Request.contents]
    split
    · next found' =>
      rw [found] at found'
      cases found'
      rw [later, located]
    · next absent =>
      rw [found] at absent
      cases absent

/-- An escaped text can stand between braces when the plain text does not end in a
marker and has no newline before its end. Escaping takes care of the braces. -/
theorem content_encode_iff (text : List Char) :
    Content (Escape.encode .request text) ↔
      text.getLast? ≠ some Escape.marker ∧ '\n' ∉ text.dropLast := by
  have closed : ∀ left right, Escape.encode .request text = left ++ '}' :: right →
      left.getLast? = some Escape.marker := by
    intro left right same
    have clean := Escape.stray_encode .request false text
    exact (Escape.stray_start_eq_none_iff .request _).1 clean left '}' right same rfl
  have oneLine : '\n' ∈ (Escape.encode .request text).dropLast ↔ '\n' ∈ text.dropLast :=
    Escape.mem_dropLast_encode .request (by decide) text
  constructor
  · intro valid
    rw [← Escape.encode_getLast? .request, ← oneLine]
    exact ⟨valid.unmarked, valid.oneLine⟩
  · rintro ⟨unmarked, noBreak⟩
    rw [← Escape.encode_getLast? .request] at unmarked
    exact ⟨closed, unmarked, fun member => noBreak (oneLine.1 member)⟩

end Phrasebook.Request
