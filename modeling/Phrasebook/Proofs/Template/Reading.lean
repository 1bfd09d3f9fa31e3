import Phrasebook.Proofs.Escape.Codec
import Phrasebook.Template

/-!
# What a template is read to

Reading cuts a text at its placeholders. A placeholder is an opening brace that no
marker stands right before, any number of digits and a closing brace. The characters of
the placeholders and of the text between them make up the whole again, every placeholder
is one by this description, and none is left in the text between.

A placeholder holds one opening brace, at its start. So two of them never overlap, and
whether some text holds one does not depend on what follows the text.
-/

namespace Phrasebook.Template

open Escape (marker markedAfter)
open Text (isDigit)

/-- The characters of placeholders, each with the text that follows it. -/
def slotsText (slots : List (List Char × List Char)) : List Char :=
  slots.flatMap fun slot => placeholderText slot.1 ++ slot.2

/-- A template is its first text and its slots. -/
theorem text_eq (template : Template) : template.text = template.lead ++ slotsText template.slots :=
  rfl

@[simp] theorem slotsText_nil : slotsText [] = [] := rfl

@[simp] theorem slotsText_cons (digits following : List Char)
    (slots : List (List Char × List Char)) :
    slotsText ((digits, following) :: slots) =
      placeholderText digits ++ (following ++ slotsText slots) := by
  simp [slotsText]

/-- Behind an opening brace a placeholder is found exactly when digits and a closing
brace follow. -/
theorem placeholder?_eq_some_iff {chars digits rest : List Char} :
    placeholder? chars = some (digits, rest) ↔
      chars = digits ++ '}' :: rest ∧ ∀ digit ∈ digits, isDigit digit = true := by
  constructor
  · intro found
    induction chars generalizing digits with
    | nil => cases found
    | cons c tail inductionHypothesis =>
      rw [placeholder?] at found
      split at found
      · next closes =>
        cases found
        exact ⟨by simpa using closes, by simp⟩
      · split at found
        · next numeric =>
          obtain ⟨⟨inner, after⟩, later, same⟩ := Option.map_eq_some_iff.1 found
          cases same
          obtain ⟨rfl, others⟩ := inductionHypothesis later
          exact ⟨rfl, by simpa using ⟨numeric, others⟩⟩
        · cases found
  · rintro ⟨rfl, numeric⟩
    induction digits with
    | nil => simp [placeholder?]
    | cons digit more inductionHypothesis =>
      have first : isDigit digit = true := numeric digit List.mem_cons_self
      have later := inductionHypothesis fun other member =>
        numeric other (List.mem_cons_of_mem digit member)
      have opens : digit ≠ '}' := by
        rintro rfl
        exact absurd first (by decide)
      simp [placeholder?, opens, first, later]

/-- A character put before a template comes first in its text. -/
theorem text_consChar (c : Char) (template : Template) :
    (consChar c template).text = c :: template.text := rfl

/-- Reading loses nothing. -/
theorem read_text (escaped : Bool) (chars : List Char) : (read escaped chars).text = chars := by
  fun_induction read escaped chars with
  | case1 => rfl
  | case2 escaped c rest opens digits after found _ following inductionHypothesis =>
    simp only [Bool.and_eq_true, beq_iff_eq] at opens
    obtain ⟨rfl, -⟩ := opens
    obtain ⟨rfl, -⟩ := placeholder?_eq_some_iff.1 found
    rw [text_eq] at inductionHypothesis
    simp [text_eq, placeholderText, following, inductionHypothesis]
  | case3 escaped c rest _ _ inductionHypothesis => rw [text_consChar, inductionHypothesis]
  | case4 escaped c rest _ inductionHypothesis => rw [text_consChar, inductionHypothesis]

/-- What stands in a placeholder are digits. -/
theorem read_numeric (escaped : Bool) (chars : List Char) :
    ∀ slot ∈ (read escaped chars).slots, ∀ digit ∈ slot.1, isDigit digit = true := by
  fun_induction read escaped chars with
  | case1 => simp
  | case2 escaped c rest _ digits after found _ following inductionHypothesis =>
    have numeric := (placeholder?_eq_some_iff.1 found).2
    intro slot member
    rcases List.mem_cons.1 member with rfl | member
    · exact numeric
    · exact inductionHypothesis slot member
  | case3 _ _ _ _ _ inductionHypothesis => exact inductionHypothesis
  | case4 _ _ _ _ inductionHypothesis => exact inductionHypothesis

/-- Whether no placeholder stands right behind a marker. The flag tells whether the
first text does. -/
def Bare (escaped : Bool) (text : List Char) : List (List Char × List Char) → Prop
  | [] => True
  | (_, following) :: slots => markedAfter escaped text = false ∧ Bare false following slots

/-- A character put before the text moves the flag behind it. -/
theorem bare_consChar {c : Char} {escaped : Bool} {template : Template}
    (bare : Bare (c == marker) template.lead template.slots) :
    Bare escaped (consChar c template).lead (consChar c template).slots := by
  obtain ⟨lead, slots⟩ := template
  cases slots with
  | nil => trivial
  | cons slot slots => exact bare

/-- A brace behind a marker begins no placeholder. -/
theorem read_bare (escaped : Bool) (chars : List Char) :
    Bare escaped (read escaped chars).lead (read escaped chars).slots := by
  fun_induction read escaped chars with
  | case1 => trivial
  | case2 escaped c rest opens digits after _ _ following inductionHypothesis =>
    simp only [Bool.and_eq_true, Bool.not_eq_true'] at opens
    exact ⟨opens.2, inductionHypothesis⟩
  | case3 escaped c rest opens _ inductionHypothesis =>
    simp only [Bool.and_eq_true, beq_iff_eq] at opens
    obtain ⟨rfl, -⟩ := opens
    exact bare_consChar inductionHypothesis
  | case4 escaped c rest _ inductionHypothesis => exact bare_consChar inductionHypothesis

/-- Whether some text holds no placeholder. The flag tells whether a marker stands
before the text. -/
def Free (escaped : Bool) (text : List Char) : Prop :=
  ∀ before digits after, text = before ++ placeholderText digits ++ after →
    (∀ digit ∈ digits, isDigit digit = true) → markedAfter escaped before = true

/-- A character put before the text begins no placeholder unless it is an opening brace
that no marker stands before. -/
theorem Free.cons {escaped : Bool} {c : Char} {text : List Char} (free : Free (c == marker) text)
    (first : escaped = false → c = '{' → placeholder? text = none) : Free escaped (c :: text) := by
  intro before digits after split numeric
  cases before with
  | nil =>
    cases escaped with
    | true => rfl
    | false =>
      have same : c = '{' ∧ text = digits ++ '}' :: after := by
        simpa [placeholderText] using split
      have found := placeholder?_eq_some_iff.2 ⟨same.2, numeric⟩
      rw [first rfl same.1] at found
      cases found
  | cons d more =>
    obtain ⟨rfl, later⟩ := List.cons.inj split
    exact free more digits after later numeric

/-- Where nothing makes a placeholder out of a text, nothing makes one out of its
beginning. -/
theorem placeholder?_eq_none_of_append {left right : List Char}
    (absent : placeholder? (left ++ right) = none) : placeholder? left = none := by
  cases found : placeholder? left with
  | none => rfl
  | some taken =>
    obtain ⟨rfl, numeric⟩ := placeholder?_eq_some_iff.1 found
    have longer : placeholder? (taken.1 ++ '}' :: taken.2 ++ right) =
        some (taken.1, taken.2 ++ right) :=
      placeholder?_eq_some_iff.2 ⟨by simp, numeric⟩
    rw [longer] at absent
    cases absent

/-- No placeholder is left in the text before the first one or behind any of them. -/
theorem read_free (escaped : Bool) (chars : List Char) :
    Free escaped (read escaped chars).lead ∧
      ∀ slot ∈ (read escaped chars).slots, Free false slot.2 := by
  fun_induction read escaped chars with
  | case1 =>
    refine ⟨?_, by simp⟩
    intro before digits after split
    simp [placeholderText] at split
  | case2 escaped c rest _ digits after _ _ following inductionHypothesis =>
    refine ⟨?_, ?_⟩
    · intro before digits after split
      simp [placeholderText] at split
    · intro slot member
      rcases List.mem_cons.1 member with rfl | member
      · exact inductionHypothesis.1
      · exact inductionHypothesis.2 slot member
  | case3 escaped c rest opens absent inductionHypothesis =>
    simp only [Bool.and_eq_true, beq_iff_eq] at opens
    obtain ⟨rfl, -⟩ := opens
    have behind : Free ('{' == marker) (read false rest).lead := inductionHypothesis.1
    refine ⟨behind.cons fun _ _ => ?_, inductionHypothesis.2⟩
    rw [← read_text false rest, text_eq] at absent
    exact placeholder?_eq_none_of_append absent
  | case4 escaped c rest closed inductionHypothesis =>
    refine ⟨inductionHypothesis.1.cons fun unescaped opens => ?_, inductionHypothesis.2⟩
    exact (closed (by simp [unescaped, opens])).elim

end Phrasebook.Template
