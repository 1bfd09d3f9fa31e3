import Phrasebook.Proofs.Steps
import Phrasebook.Template

/-!
# Slot by slot

A template is filled and rendered slot by slot. The argument of the first slot and the text
behind it come first, and the other slots go on with the positional arguments that are left.
Rendering stops at the first stretch of text that can not be unescaped.
-/

namespace Phrasebook.Template

/-- The first slot is filled before the others. -/
theorem fill_cons (arguments : List String) (used : Nat) (digits following : List Char)
    (slots : List (List Char × List Char)) :
    fill arguments used ((digits, following) :: slots) =
      (take arguments used (choice digits)).1.toList ++ (following ++
        fill arguments (take arguments used (choice digits)).2 slots) := by
  simp only [fill, List.append_assoc]

/-- Slots are rendered when the text behind the first one can be unescaped and the others
are rendered. -/
theorem renderSlots_cons_eq_ok_iff {input : String} {arguments : List String}
    {position used : Nat} {digits following : List Char} {slots : List (List Char × List Char)}
    {text : List Char} :
    renderSlots input arguments position used ((digits, following) :: slots) = .ok text ↔
      ∃ plain others,
        unescapeFragment .template input
          (position + Text.byteLength (placeholderText digits)) following = .ok plain ∧
        renderSlots input arguments
          (position + Text.byteLength (placeholderText digits) + Text.byteLength following)
          (take arguments used (choice digits)).2 slots = .ok others ∧
        text = (take arguments used (choice digits)).1.toList ++ (plain ++ others) := by
  rw [renderSlots, Steps.bind_eq_ok_iff]
  simp only [Steps.bind_eq_ok_iff, pure, Except.pure, Except.ok.injEq, List.append_assoc]
  constructor
  · rintro ⟨plain, unescaped, others, rendered, rfl⟩
    exact ⟨plain, others, unescaped, rendered, rfl⟩
  · rintro ⟨plain, others, unescaped, rendered, rfl⟩
    exact ⟨plain, unescaped, others, rendered, rfl⟩

/-- Slots can not be rendered when the text behind the first one can not be unescaped, or
when it can but the other slots can not be rendered. -/
theorem renderSlots_cons_eq_error_iff {input : String} {arguments : List String}
    {position used : Nat} {digits following : List Char} {slots : List (List Char × List Char)}
    {stray : StrayDelimiter} :
    renderSlots input arguments position used ((digits, following) :: slots) = .error stray ↔
      unescapeFragment .template input (position + Text.byteLength (placeholderText digits))
          following = .error stray ∨
        (∃ plain, unescapeFragment .template input
          (position + Text.byteLength (placeholderText digits)) following = .ok plain) ∧
        renderSlots input arguments
          (position + Text.byteLength (placeholderText digits) + Text.byteLength following)
          (take arguments used (choice digits)).2 slots = .error stray := by
  rw [renderSlots]
  simp only [Steps.bind_eq_error_iff, pure, Except.pure, reduceCtorEq, and_false, exists_false,
    or_false, exists_and_right]

/-- A template is rendered when the text before its slots can be unescaped and the slots
are rendered. -/
theorem render_eq_ok_iff {input : String} {template : Template} {arguments : List String}
    {text : List Char} :
    template.render input arguments = .ok text ↔
      ∃ plain others, unescapeFragment .template input 0 template.lead = .ok plain ∧
        renderSlots input arguments (Text.byteLength template.lead) 0 template.slots =
          .ok others ∧ text = plain ++ others := by
  rw [Template.render, Steps.bind_eq_ok_iff]
  simp only [Steps.bind_eq_ok_iff, pure, Except.pure, Except.ok.injEq]
  constructor
  · rintro ⟨plain, unescaped, others, rendered, rfl⟩
    exact ⟨plain, others, unescaped, rendered, rfl⟩
  · rintro ⟨plain, others, unescaped, rendered, rfl⟩
    exact ⟨plain, unescaped, others, rendered, rfl⟩

end Phrasebook.Template
