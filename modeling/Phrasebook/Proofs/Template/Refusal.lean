import Phrasebook.Proofs.Escape.Report
import Phrasebook.Proofs.Template.Rendering
import Phrasebook.Proofs.Template.Stretch

/-!
# Which templates are refused

A template can be rendered exactly when it holds no stray brace. Otherwise the report
points at the first one and at the text between the placeholders around it. The arguments
have no part in this, neither in whether a template is refused nor in what is reported.
-/

namespace Phrasebook

open Text (byteLength byteLength_append)

namespace Template

/-- Whether a report is about the first stray brace of a template. -/
structure FirstStray (template : String) (stray : StrayDelimiter) : Prop where
  /-- It describes the template. -/
  exact : stray.Exact .template template
  /-- It points at the first stray brace. -/
  first : IsLeast {position | StrayAt template.toList position} stray.offending.start
  /-- The fragment begins behind the last placeholder before that brace, or at the start. -/
  begins : IsGreatest {edge | edge = 0 ∨ ∃ range, PlaceholderAt template.toList range ∧
    range.stop = edge ∧ edge ≤ stray.offending.start} stray.fragmentRange.start
  /-- The fragment ends before the next placeholder, or at the end. -/
  ends : IsLeast {edge | edge = byteLength template.toList ∨
    ∃ range, PlaceholderAt template.toList range ∧ range.start = edge ∧
      stray.offending.start < edge} stray.fragmentRange.stop

/-- Check stretches of an input one after the other. -/
def check (input : String) (parts : List (List Char × List Char)) :
    Except StrayDelimiter (List (List Char)) :=
  parts.mapM fun part => unescapeFragment .template input (byteLength part.1) part.2

/-- A stretch and the slots behind it are refused as the stretches one after the other
are. The arguments do not occur on the right. -/
theorem renderSlots_eq_error_iff {input : String} (arguments : List String)
    (before lead : List Char) (used : Nat) {slots : List (List Char × List Char)}
    {stray : StrayDelimiter} :
    (unescapeFragment .template input (byteLength before) lead = .error stray ∨
      (∃ plain, unescapeFragment .template input (byteLength before) lead = .ok plain) ∧
        renderSlots input arguments (byteLength (before ++ lead)) used slots = .error stray) ↔
      check input (stretches before lead slots) = .error stray := by
  induction slots generalizing before lead used with
  | nil =>
    simp [check, stretches, renderSlots, Steps.bind_eq_error_iff, pure, Except.pure]
  | cons slot slots inductionHypothesis =>
    obtain ⟨digits, following⟩ := slot
    have later := inductionHypothesis (before ++ lead ++ placeholderText digits) following
      (take arguments used (choice digits)).2
    rw [renderSlots_cons_eq_error_iff, ← byteLength_append, ← byteLength_append, later]
    simp [check, stretches, Steps.bind_eq_error_iff, pure, Except.pure]

/-- A template is refused as its stretches one after the other are, whatever the arguments
are. -/
theorem render_eq_error_iff {input : String} {template : Template} (arguments : List String)
    {stray : StrayDelimiter} :
    template.render input arguments = .error stray ↔
      check input (stretches [] template.lead template.slots) = .error stray := by
  rw [← renderSlots_eq_error_iff arguments [] template.lead 0, Template.render]
  simp [Steps.bind_eq_error_iff, pure, Except.pure, byteLength]

/-- Stretches that pass the check hold no stray brace. -/
theorem clean_of_check {input : String} {parts : List (List Char × List Char)}
    {texts : List (List Char)} (passed : check input parts = .ok texts) :
    ∀ part ∈ parts, Escape.stray .template false part.2 = none := by
  intro part member
  obtain ⟨text, unescaped⟩ := Steps.exists_of_mapM_eq_ok passed part member
  rw [(unescapeFragment_eq_ok_iff .template _ _ _ _).1 unescaped]
  exact Escape.stray_encode .template false text

/-- When the stretches before one are clean, and that one is up to some brace, no stray
brace of the whole text stands before that brace. -/
theorem Laid.le_stray {text lead : List Char} {slots : List (List Char × List Char)}
    (laid : Laid text [] lead slots) {earlier later : List (List Char × List Char)}
    {before gap : List Char} (parts : stretches [] lead slots = earlier ++ (before, gap) :: later)
    (clean : ∀ part ∈ earlier, Escape.stray .template false part.2 = none)
    {front back : List Char} {brace : Char} (split : gap = front ++ brace :: back)
    (first : Escape.stray .template false front = none) {position : Nat}
    (stray : StrayAt text position) : byteLength (before ++ front) ≤ position := by
  obtain ⟨other, member, left, c, right, same, reserved, unmarked, rfl⟩ :=
    laid.stray_in_stretch rfl stray
  rw [parts, List.mem_append, List.mem_cons] at member
  rcases member with member | rfl | member
  · have escaped := (Escape.stray_start_eq_none_iff .template _).1 (clean other member)
    exact absurd (escaped left c right same reserved) unmarked
  · by_contra sooner
    rw [Nat.not_le, byteLength_append, byteLength_append, Nat.add_lt_add_iff_left] at sooner
    obtain ⟨middle, rfl, follows⟩ :=
      Text.append_split_of_le (same.symm.trans split) (Nat.le_of_lt sooner)
    cases middle with
    | nil => simp at sooner
    | cons d more =>
      obtain ⟨rfl, -⟩ := List.cons.inj follows
      have escaped := (Escape.stray_start_eq_none_iff .template _).1 first
      exact unmarked (escaped left c more rfl reserved)
  · have ordered := stretches_ordered [] lead slots
    rw [parts, List.pairwise_append, List.pairwise_cons] at ordered
    have further := ordered.2.1.1 other member
    rw [split] at further
    simp only [byteLength_append] at further ⊢
    omega

/-- A template that fails the check is reported for its first stray brace. -/
theorem firstStray_of_check {template : String} {stray : StrayDelimiter}
    (refused : check template (stretches [] (ofText template.toList).lead
      (ofText template.toList).slots) = .error stray) : FirstStray template stray := by
  have laid := laid_ofText template.toList
  obtain ⟨earlier, ⟨before, gap⟩, later, parts, ⟨texts, passed⟩, failed⟩ :=
    Steps.mapM_eq_error_iff.1 refused
  change unescapeFragment .template template (byteLength before) gap = .error stray at failed
  obtain ⟨after, stretch⟩ : ∃ after, Stretch template.toList before gap after :=
    laid.stretch_of_mem (before, gap) (by simp [parts])
  have exact := (unescapeFragment_exact stretch.split failed).1
  obtain ⟨front, brace, back, split, reserved, unmarked, clean, rfl⟩ :=
    unescapeFragment_eq_error_iff.1 failed
  rw [← Escape.stray_start_eq_none_iff] at clean
  have strayHere := stretch.strayAt split reserved unmarked
  rw [byteLength_append] at strayHere
  have behind : byteLength before ≤ byteLength before + byteLength front := Nat.le_add_right _ _
  have inside : byteLength before + byteLength front < byteLength (before ++ gap) := by
    have oneByte := Escape.delimiter_size .template reserved
    rw [split]
    simp only [byteLength_append, byteLength]
    omega
  refine ⟨exact, ⟨strayHere, ?_⟩, stretch.isGreatest_begins behind inside, ?_⟩
  · intro position another
    have later := laid.le_stray parts (clean_of_check passed) split clean another
    rwa [byteLength_append] at later
  · have least := stretch.isLeast_ends behind inside
    rwa [byteLength_append] at least

end Template

open Template (BraceAt StructuralAt EscapedAt FirstStray)

/-- A template in which every brace is structural or escaped can be rendered with any
arguments. Any other template is refused with any arguments, always with the same report,
which points at the first stray brace and at the text between the placeholders around it. -/
theorem render_verdict (template : String) :
    ((∀ position, BraceAt template.toList position →
        StructuralAt template.toList position ∨ EscapedAt template.toList position) →
      ∀ arguments, ∃ output, render template arguments = .ok output) ∧
    ((¬ ∀ position, BraceAt template.toList position →
        StructuralAt template.toList position ∨ EscapedAt template.toList position) →
      ∃ stray, FirstStray template stray ∧
        ∀ arguments, render template arguments = .error stray) := by
  have laid := Template.laid_ofText template.toList
  have refusal : ∀ arguments stray, render template arguments = .error stray ↔
      Template.check template (Template.stretches [] (Template.ofText template.toList).lead
        (Template.ofText template.toList).slots) = .error stray := by
    intro arguments stray
    rw [← Template.render_eq_error_iff arguments]
    exact Steps.map_eq_error_iff
  cases verdict : Template.check template (Template.stretches []
      (Template.ofText template.toList).lead (Template.ofText template.toList).slots) with
  | error stray =>
    have reported := Template.firstStray_of_check verdict
    refine ⟨?_, fun _ => ⟨stray, reported, fun arguments => (refusal arguments stray).2 verdict⟩⟩
    intro sound
    have strayHere := reported.first.1
    rcases sound _ strayHere.brace with structural | escaped
    · exact absurd structural strayHere.plain
    · exact absurd escaped strayHere.unescaped
  | ok texts =>
    refine ⟨?_, ?_⟩
    · intro _ arguments
      cases rendered : render template arguments with
      | ok output => exact ⟨output, rfl⟩
      | error stray =>
        have refused := (refusal arguments stray).1 rendered
        rw [verdict] at refused
        cases refused
    · intro unsound
      refine absurd (fun position brace => ?_) unsound
      by_contra neither
      rw [not_or] at neither
      obtain ⟨part, member, front, c, back, split, reserved, unmarked, -⟩ :=
        laid.stray_in_stretch rfl ⟨brace, neither.1, neither.2⟩
      have clean := Template.clean_of_check verdict part member
      rw [Escape.stray_start_eq_none_iff] at clean
      exact unmarked (clean front c back split reserved)

/-- A template with an escaped brace, a placeholder, a stray and an escaped brace, and
another placeholder. -/
def mixedTemplate : String := "é\\\x7b\x7b1\x7d\x7d\\\x7d\x7b\x7d"

/-- The report about it. -/
def mixedReport : StrayDelimiter where
  input := mixedTemplate
  fragment := "\x7d\\\x7d"
  fragmentRange := ⟨7, 10⟩
  offending := ⟨7, 8⟩
  delimiter := '\x7d'

/-- The brace between the placeholders is reported. In the second template the same
placeholder stands behind an escaped brace, and nothing is stray. -/
theorem render_verdict_mixed :
    ((¬ ∀ position, BraceAt mixedTemplate.toList position →
        StructuralAt mixedTemplate.toList position ∨ EscapedAt mixedTemplate.toList position) ∧
      FirstStray mixedTemplate mixedReport ∧
      ∀ arguments, render mixedTemplate arguments = .error mixedReport) ∧
    (∀ position, BraceAt "\\\x7b\x7b1\x7d".toList position →
      StructuralAt "\\\x7b\x7b1\x7d".toList position ∨
        EscapedAt "\\\x7b\x7b1\x7d".toList position) ∧
    ∀ arguments, ∃ output, render "\\\x7b\x7b1\x7d" arguments = .ok output := by
  have refused : render mixedTemplate [] = .error mixedReport := by decide +kernel
  have accepted : render "\\\x7b\x7b1\x7d" [] = .ok "\x7b?" := by decide +kernel
  have unsound : ¬ ∀ position, BraceAt mixedTemplate.toList position →
      StructuralAt mixedTemplate.toList position ∨ EscapedAt mixedTemplate.toList position := by
    intro sound
    obtain ⟨output, rendered⟩ := (render_verdict mixedTemplate).1 sound []
    rw [refused] at rendered
    cases rendered
  have sound : ∀ position, BraceAt "\\\x7b\x7b1\x7d".toList position →
      StructuralAt "\\\x7b\x7b1\x7d".toList position ∨
        EscapedAt "\\\x7b\x7b1\x7d".toList position := by
    by_contra unsound
    obtain ⟨stray, -, always⟩ := (render_verdict "\\\x7b\x7b1\x7d").2 unsound
    have failed := always []
    rw [accepted] at failed
    cases failed
  obtain ⟨stray, reported, always⟩ := (render_verdict mixedTemplate).2 unsound
  obtain rfl : stray = mixedReport := Except.error.inj ((always []).symm.trans refused)
  exact ⟨⟨unsound, reported, always⟩, sound, (render_verdict "\\\x7b\x7b1\x7d").1 sound⟩

end Phrasebook
