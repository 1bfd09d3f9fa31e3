import Phrasebook.Proofs.Template.Reading
import Phrasebook.Proofs.Template.Rendering

/-!
# Rendering in one pass and in two

A template can be rendered by checking each stretch of its text by itself, or by
putting escaped arguments into it and unescaping the whole. Where the first way gives
a text the second gives the same one. The second way accepts more, because a marker at
the end of an argument escapes a brace that the template has behind the placeholder.
Without such arguments both ways accept the same templates.

No placeholder stands right behind a marker. So the text before a placeholder can not
escape anything that is put in its place, even when the argument is empty.
-/

namespace Phrasebook

open Escape (marker markedAfter stray encode)

/-- Put escaped arguments into a template and unescape the whole. -/
def renderTwoPass (template : String) (arguments : List String) : Except StrayDelimiter String :=
  unescape .template (substitute template (arguments.map (escape .template)))

namespace Template

/-- Escaped arguments are chosen as plain ones are. What stands for a missing one has
no delimiter in it. -/
theorem take_escaped (arguments : List String) (used : Nat) (choice : Choice) :
    take (arguments.map (escape .template)) used choice =
      (escape .template (take arguments used choice).1, (take arguments used choice).2) := by
  have missing : missingArgument = escape .template missingArgument := by decide
  have chosen : ∀ index, (arguments.map (escape .template)).getD index missingArgument =
      escape .template (arguments.getD index missingArgument) := by
    intro index
    rw [List.getD_eq_getElem?_getD, List.getD_eq_getElem?_getD, List.getElem?_map]
    cases arguments[index]? with
    | none => exact missing
    | some argument => rfl
  cases choice with
  | next => simp only [take, chosen]
  | nth index => simp only [take, chosen]
  | nothing => simp only [take, ← missing]

/-- What is chosen is one of the arguments or what stands for a missing one. -/
theorem take_unmarked {arguments : List String}
    (unmarked : ∀ argument ∈ arguments, argument.toList.getLast? ≠ some marker) (used : Nat)
    (choice : Choice) : (take arguments used choice).1.toList.getLast? ≠ some marker := by
  have missing : missingArgument.toList.getLast? ≠ some marker := by decide
  have chosen : ∀ index, (arguments.getD index missingArgument).toList.getLast? ≠ some marker := by
    intro index
    rw [List.getD_eq_getElem?_getD]
    cases present : arguments[index]? with
    | none => exact missing
    | some argument => exact unmarked argument (List.mem_of_getElem? present)
  cases choice with
  | next => exact chosen used
  | nth index => exact chosen index
  | nothing => exact missing

/-- Rendered slots are the plain form of the slots filled with escaped arguments. -/
theorem fill_of_renderSlots {input : String} {arguments : List String} {position used : Nat}
    {slots : List (List Char × List Char)} {text : List Char}
    (rendered : renderSlots input arguments position used slots = .ok text) :
    fill (arguments.map (escape .template)) used slots = encode .template text := by
  induction slots generalizing position used text with
  | nil =>
    cases rendered
    rfl
  | cons slot slots inductionHypothesis =>
    obtain ⟨digits, following⟩ := slot
    obtain ⟨plain, others, unescaped, later, rfl⟩ := renderSlots_cons_eq_ok_iff.1 rendered
    rw [unescapeFragment_eq_ok_iff] at unescaped
    rw [fill_cons, take_escaped, inductionHypothesis later, unescaped, Escape.encode_append,
      Escape.encode_append, escape, String.toList_ofList]

/-- A text rendered in one pass is what the template filled with escaped arguments stands
for. -/
theorem substitute_of_render {input : String} {template : Template} {arguments : List String}
    {text : List Char} (rendered : template.render input arguments = .ok text) :
    template.substitute (arguments.map (escape .template)) = encode .template text := by
  obtain ⟨plain, others, unescaped, later, rfl⟩ := render_eq_ok_iff.1 rendered
  rw [unescapeFragment_eq_ok_iff] at unescaped
  rw [Template.substitute, fill_of_renderSlots later, unescaped, Escape.encode_append]

/-- A fragment without a stray delimiter can be unescaped. -/
theorem unescapeFragment_of_clean {fragment : List Char}
    (clean : stray .template false fragment = none) (input : String) (start : Nat) :
    ∃ text, unescapeFragment .template input start fragment = .ok text := by
  refine ⟨Escape.collapse .template fragment, ?_⟩
  rw [unescapeFragment_eq_ok_iff]
  exact (Escape.encode_collapse .template clean).symm

/-- Slots with clean text between them are rendered. -/
theorem renderSlots_of_clean {slots : List (List Char × List Char)}
    (clean : ∀ slot ∈ slots, stray .template false slot.2 = none) (input : String)
    (arguments : List String) (position used : Nat) :
    ∃ text, renderSlots input arguments position used slots = .ok text := by
  induction slots generalizing position used with
  | nil => exact ⟨[], rfl⟩
  | cons slot slots inductionHypothesis =>
    obtain ⟨digits, following⟩ := slot
    obtain ⟨plain, unescaped⟩ := unescapeFragment_of_clean (clean _ List.mem_cons_self) input
      (position + Text.byteLength (placeholderText digits))
    obtain ⟨others, later⟩ :=
      inductionHypothesis (fun other member => clean other (List.mem_cons_of_mem _ member))
        (position + Text.byteLength (placeholderText digits) + Text.byteLength following)
        (take arguments used (choice digits)).2
    exact ⟨_, renderSlots_cons_eq_ok_iff.2 ⟨plain, others, unescaped, later, rfl⟩⟩

/-- When nothing before it is a marker, clean filled text has clean text between its
arguments. The arguments must not end in a marker themselves. -/
theorem clean_of_fill {arguments : List String}
    (unmarked : ∀ argument ∈ arguments, argument.toList.getLast? ≠ some marker) {used : Nat}
    {text : List Char} {slots : List (List Char × List Char)} (bare : Bare false text slots)
    (clean : stray .template (markedAfter false text)
      (fill (arguments.map (escape .template)) used slots) = none) :
    ∀ slot ∈ slots, stray .template false slot.2 = none := by
  induction slots generalizing used text with
  | nil => simp
  | cons slot slots inductionHypothesis =>
    obtain ⟨digits, following⟩ := slot
    obtain ⟨before, others⟩ := bare
    have plainEnd : markedAfter false
        (escape .template (take arguments used (choice digits)).1).toList = false := by
      rw [escape, String.toList_ofList, Escape.markedAfter_encode]
      exact Escape.markedAfter_of_unmarked (take_unmarked unmarked used (choice digits))
    rw [before, fill_cons, take_escaped, Escape.stray_append_eq_none_iff, plainEnd,
      Escape.stray_append_eq_none_iff] at clean
    obtain ⟨-, first, later⟩ := clean
    intro slot member
    rcases List.mem_cons.1 member with rfl | member
    · exact first
    · exact inductionHypothesis others later slot member

end Template

/-- What is rendered in one pass is rendered in two, to the same text. Where no argument
ends in a marker, the converse holds as well. -/
theorem render_eq_renderTwoPass (template : String) (arguments : List String) :
    (∀ output, render template arguments = .ok output →
      renderTwoPass template arguments = .ok output) ∧
    ((∀ argument ∈ arguments, argument.toList.getLast? ≠ some marker) →
      ∀ output, renderTwoPass template arguments = .ok output →
        render template arguments = .ok output) := by
  have onePass : ∀ output, render template arguments = .ok output →
      renderTwoPass template arguments = .ok output := by
    intro output rendered
    obtain ⟨text, filled, rfl⟩ := Steps.map_eq_ok_iff.1 rendered
    rw [renderTwoPass, unescape_ok_iff, substitute, Template.substitute_of_render filled, escape,
      String.toList_ofList]
  refine ⟨onePass, ?_⟩
  intro unmarked output accepted
  have escaped := (unescape_ok_iff .template _ output).1 accepted
  have clean : stray .template false ((Template.ofText template.toList).substitute
      (arguments.map (escape .template))) = none := by
    have same := congrArg String.toList escaped
    rw [substitute, escape, String.toList_ofList, String.toList_ofList] at same
    rw [same]
    exact Escape.stray_encode .template false output.toList
  rw [Template.substitute, Escape.stray_append_eq_none_iff] at clean
  have bare := Template.read_bare false template.toList
  obtain ⟨plain, unescaped⟩ := Template.unescapeFragment_of_clean clean.1 template 0
  obtain ⟨others, later⟩ := Template.renderSlots_of_clean
    (Template.clean_of_fill unmarked bare clean.2) template arguments
    (Text.byteLength (Template.ofText template.toList).lead) 0
  have rendered : render template arguments = .ok (String.ofList (plain ++ others)) := by
    refine Steps.map_eq_ok_iff.2 ⟨plain ++ others, ?_, rfl⟩
    exact Template.render_eq_ok_iff.2 ⟨plain, others, unescaped, later, rfl⟩
  have same := (onePass _ rendered).symm.trans accepted
  rw [rendered, same]

/-- Text and argument both hold braces, and the argument a marker inside. -/
theorem render_eq_renderTwoPass_braces :
    render "\\\x7b\x7b\x7d\\\x7d" ["\x7b\\ \x7d"] = .ok "\x7b\x7b\\ \x7d\x7d" ∧
      renderTwoPass "\\\x7b\x7b\x7d\\\x7d" ["\x7b\\ \x7d"] = .ok "\x7b\x7b\\ \x7d\x7d" ∧
      (∀ argument ∈ ["\x7b\\ \x7d"], argument.toList.getLast? ≠ some marker) ∧
      render "\\\x7b\x7b\x7d\\\x7d" ["\x7b\\ \x7d"] = .ok "\x7b\x7b\\ \x7d\x7d" := by
  have agree := render_eq_renderTwoPass "\\\x7b\x7b\x7d\\\x7d" ["\x7b\\ \x7d"]
  have rendered : render "\\\x7b\x7b\x7d\\\x7d" ["\x7b\\ \x7d"] = .ok "\x7b\x7b\\ \x7d\x7d" := by
    decide +kernel
  have unmarked : ∀ argument ∈ ["\x7b\\ \x7d"], argument.toList.getLast? ≠ some marker := by
    decide
  have twice := agree.1 _ rendered
  exact ⟨rendered, twice, unmarked, agree.2 unmarked _ twice⟩

/-- An argument that ends in a marker escapes the brace behind it in two passes only. -/
example : renderTwoPass "\x7b\x7d\x7d" ["\\"] = .ok "\x7d" ∧
    render "\x7b\x7d\x7d" ["\\"] ≠ .ok "\x7d" := by decide +kernel

end Phrasebook
