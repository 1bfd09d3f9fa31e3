import Phrasebook.Proofs.Template.Placeholders

/-!
# Templates that are put together

A template can be put together from text that is to be shown as it is, and from placeholders. The
text is escaped first. Then reading finds just the placeholders that were put in: a brace of the
text stands behind a marker, so it begins no placeholder, and whatever the text holds besides
can not complete one.

There is one condition, since a marker has no escape of its own. The text between a placeholder
and the one before it, or the start, must not end in a marker.
-/

namespace Phrasebook

open Escape (marker markedAfter encode)
open Text (byteLength isDigit decimal)

/-- A part of a template that is put together. -/
inductive Segment where
  /-- Text that is shown as it is. -/
  | text (content : String)
  /-- A placeholder for the next positional argument. -/
  | next
  /-- A placeholder for the argument of a number, counted from one. -/
  | nth (number : Nat)
deriving DecidableEq, Repr

namespace Segment

/-- What is written for a segment. -/
def written : Segment → String
  | .text content => escape .template content
  | .next => "\x7b\x7d"
  | .nth number => "\x7b" ++ toString number ++ "\x7d"

/-- The template that segments make up. -/
def assemble (segments : List Segment) : String := String.join (segments.map written)

/-- What segments show after `used` positional arguments. -/
def shown (arguments : List String) : Nat → List Segment → String
  | _, [] => ""
  | used, .text content :: rest => content ++ shown arguments used rest
  | used, .next :: rest =>
    arguments.getD used Template.missingArgument ++ shown arguments (used + 1) rest
  | used, .nth number :: rest =>
    arguments.getD (number - 1) Template.missingArgument ++ shown arguments used rest

/-- Whether the number of a segment, if it has one, can name an argument. -/
def Numbered : Segment → Prop
  | .nth number => 1 ≤ number ∧ number < 2 ^ 64
  | _ => True

instance : DecidablePred Numbered
  | .text _ => .isTrue trivial
  | .next => .isTrue trivial
  | .nth _ => inferInstanceAs (Decidable (_ ∧ _))

/-- Whether no run of text before a placeholder ends in a marker. The first argument is the text
since the last placeholder or the start. -/
def Unguarded : List Char → List Segment → Prop
  | _, [] => True
  | run, .text content :: rest => Unguarded (run ++ content.toList) rest
  | run, .next :: rest => run.getLast? ≠ some marker ∧ Unguarded [] rest
  | run, .nth _ :: rest => run.getLast? ≠ some marker ∧ Unguarded [] rest

instance decidableUnguarded : (run : List Char) → (segments : List Segment) →
    Decidable (Unguarded run segments)
  | _, [] => .isTrue trivial
  | run, .text content :: rest => decidableUnguarded (run ++ content.toList) rest
  | _, .next :: rest =>
    have := decidableUnguarded [] rest
    inferInstanceAs (Decidable (_ ∧ _))
  | _, .nth _ :: rest =>
    have := decidableUnguarded [] rest
    inferInstanceAs (Decidable (_ ∧ _))

end Segment

namespace Template

/-! ### Reading what was written -/

/-- Nothing is read to the template without characters. -/
theorem read_nil (escaped : Bool) : read escaped [] = ⟨[], []⟩ := by
  rw [read]

/-- Reading passes over a character that is no brace or stands behind a marker. -/
theorem read_cons_of_plain {escaped : Bool} {c : Char} (plain : c = '{' → escaped = true)
    (rest : List Char) : read escaped (c :: rest) = consChar c (read (c == marker) rest) := by
  have closed : ¬ (c == '{' && !escaped) = true := by
    simpa using plain
  rw [read]
  split
  · contradiction
  · rfl

/-- Reading passes over escaped text. Its braces stand behind markers. -/
theorem read_encode (escaped : Bool) (text rest : List Char) :
    read escaped (encode .template text ++ rest) =
      ⟨encode .template text ++ (read (markedAfter escaped text) rest).lead,
        (read (markedAfter escaped text) rest).slots⟩ := by
  induction text generalizing escaped with
  | nil => rfl
  | cons c text inductionHypothesis =>
    rw [encode, markedAfter]
    split
    · have plain : marker = '{' → escaped = true := fun same => absurd same (by decide)
      have guarded : c = '{' → true = true := fun _ => rfl
      rw [List.cons_append, List.cons_append, read_cons_of_plain plain, beq_self_eq_true,
        read_cons_of_plain guarded, inductionHypothesis]
      rfl
    · next free =>
      have plain : c = '{' → escaped = true := by
        rintro rfl
        exact absurd rfl free
      rw [List.cons_append, read_cons_of_plain plain, inductionHypothesis]
      rfl

/-- Reading finds a placeholder that does not stand behind a marker. -/
theorem read_placeholder {digits : List Char} (numeric : ∀ digit ∈ digits, isDigit digit = true)
    (rest : List Char) :
    read false (placeholderText digits ++ rest) =
      ⟨[], (digits, (read false rest).lead) :: (read false rest).slots⟩ := by
  have found : placeholder? (digits ++ '}' :: rest) = some (digits, rest) :=
    placeholder?_eq_some_iff.2 ⟨rfl, numeric⟩
  have written : placeholderText digits ++ rest = '{' :: (digits ++ '}' :: rest) := by
    simp [placeholderText]
  rw [written, read]
  split
  · split
    · next taken =>
      rw [found] at taken
      cases taken
      rfl
    · next absent =>
      rw [found] at absent
      cases absent
  · contradiction

/-! ### Rendering what was read -/

/-- Whether a template shows a text, wherever it stands in an input and after `used` positional
arguments. Its text up to the first placeholder is escaped text. -/
def Shows (input : String) (arguments : List String) (used : Nat) (template : Template)
    (text : List Char) : Prop :=
  ∃ plain others, template.lead = encode .template plain ∧
    (∀ position, renderSlots input arguments position used template.slots = .ok others) ∧
      text = plain ++ others

variable {input : String} {arguments : List String} {used : Nat}

/-- Nothing shows nothing. -/
theorem shows_nil : Shows input arguments used ⟨[], []⟩ [] :=
  ⟨[], [], rfl, fun _ => rfl, rfl⟩

/-- Escaped text before what is read is shown as it was. -/
theorem Shows.text {escaped : Bool} {rest shown : List Char} (content : List Char)
    (shows : Shows input arguments used (read (markedAfter escaped content) rest) shown) :
    Shows input arguments used (read escaped (encode .template content ++ rest))
      (content ++ shown) := by
  obtain ⟨plain, others, lead, rendered, rfl⟩ := shows
  rw [read_encode]
  refine ⟨content ++ plain, others, ?_, rendered, by simp⟩
  rw [lead, Escape.encode_append]

/-- A placeholder before what is read shows the argument that it takes. -/
theorem Shows.placeholder {digits rest shown : List Char} {argument : String} {now : Nat}
    (numeric : ∀ digit ∈ digits, isDigit digit = true)
    (taken : take arguments used (choice digits) = (argument, now))
    (shows : Shows input arguments now (read false rest) shown) :
    Shows input arguments used (read false (placeholderText digits ++ rest))
      (argument.toList ++ shown) := by
  obtain ⟨plain, others, lead, rendered, rfl⟩ := shows
  rw [read_placeholder numeric]
  refine ⟨[], argument.toList ++ (plain ++ others), rfl, fun position => ?_, rfl⟩
  have unescaped := (unescapeFragment_eq_ok_iff .template input
    (position + byteLength (placeholderText digits)) _ plain).2 lead
  refine renderSlots_cons_eq_ok_iff.2 ⟨plain, others, unescaped, ?_, ?_⟩
  · rw [taken]
    exact rendered _
  · rw [taken]

/-- A template is rendered to what it shows. -/
theorem Shows.render {template : Template} {shown : List Char}
    (shows : Shows input arguments 0 template shown) :
    template.render input arguments = .ok shown := by
  obtain ⟨plain, others, lead, rendered, rfl⟩ := shows
  refine render_eq_ok_iff.2 ⟨plain, others, ?_, rendered _, rfl⟩
  exact (unescapeFragment_eq_ok_iff .template _ _ _ _).2 lead

/-! ### Numbers that are written out -/

/-- A number is written with digits. -/
theorem isDigit_of_mem_toString {number : Nat} {c : Char} (member : c ∈ (toString number).toList) :
    isDigit c = true := by
  rw [Nat.toString_eq_repr, Nat.toList_repr] at member
  have digit : c.isDigit = true := Nat.isDigit_of_mem_toDigits (by decide) (by decide) member
  simpa [isDigit, Char.isDigit, Char.le_def] using digit

/-- A number that is written out is read back. -/
theorem decimal_toString (number : Nat) : decimal (toString number).toList = number := by
  rw [Nat.toString_eq_repr, Nat.toList_repr]
  exact Nat.ofDigitChars_toDigits (by decide) (by decide)

/-- The placeholder of a number that can name an argument chooses that argument. -/
theorem choice_toString {number : Nat} (positive : 1 ≤ number) (bounded : number < 2 ^ 64) :
    choice (toString number).toList = .nth (number - 1) := by
  have value : Template.number (toString number).toList = number := by
    rw [← decimal_eq_number, decimal_toString]
  have some : (toString number).toList ≠ [] := by simp
  have explicit : ¬ Positional (toString number).toList := by
    rintro (noDigits | large)
    · exact some noDigits
    · omega
  have nonzero : number ≠ 0 := by omega
  rw [choice_eq, if_neg explicit, value, if_neg nonzero]

end Template

namespace Segment

open Template (Shows)

/-- A placeholder without a number is written without digits. -/
theorem written_next : (written .next).toList = Template.placeholderText [] := rfl

/-- A placeholder with a number is written with its digits. -/
theorem written_nth (number : Nat) :
    (written (.nth number)).toList = Template.placeholderText (toString number).toList := by
  simp [written, Template.placeholderText]

theorem assemble_cons (segment : Segment) (segments : List Segment) :
    (assemble (segment :: segments)).toList =
      segment.written.toList ++ (assemble segments).toList := by
  simp [assemble]

/-- Segments behind a run of text are read to a template that shows them.

The induction is on the segments. What stands before the rest of them enters through the flag
alone, which says whether a marker ends the run of text before it. -/
theorem shows_read {segments : List Segment} (numbered : ∀ segment ∈ segments, segment.Numbered)
    {run : List Char} (unguarded : Unguarded run segments) (input : String)
    (arguments : List String) (used : Nat) :
    Shows input arguments used (Template.read (markedAfter false run) (assemble segments).toList)
      (shown arguments used segments).toList := by
  induction segments generalizing run used with
  | nil =>
    have nothing := Template.read_nil (markedAfter false run)
    exact nothing ▸ Template.shows_nil
  | cons segment rest inductionHypothesis =>
    obtain ⟨first, others⟩ := List.forall_mem_cons.1 numbered
    rw [assemble_cons]
    cases segment with
    | text content =>
      have later : Shows input arguments used _ _ := inductionHypothesis others unguarded used
      rw [Escape.markedAfter_append] at later
      simpa [written, shown, escape] using later.text content.toList
    | next =>
      obtain ⟨unmarked, separate⟩ := unguarded
      have taken : Template.take arguments used (Template.choice []) =
          (arguments.getD used Template.missingArgument, used + 1) := rfl
      have later := inductionHypothesis others separate (used + 1)
      have here := later.placeholder (List.forall_mem_nil _) taken
      rw [Escape.markedAfter_of_unmarked unmarked, written_next]
      simpa [shown] using here
    | nth number =>
      obtain ⟨unmarked, separate⟩ := unguarded
      have taken : Template.take arguments used (Template.choice (toString number).toList) =
          (arguments.getD (number - 1) Template.missingArgument, used) := by
        rw [Template.choice_toString first.1 first.2]
        rfl
      have later := inductionHypothesis others separate used
      have here := later.placeholder (fun _ => Template.isDigit_of_mem_toString) taken
      rw [Escape.markedAfter_of_unmarked unmarked, written_nth]
      simpa [shown] using here

end Segment

open Segment (assemble shown Unguarded)

/-- A template that is put together is rendered to its text and the arguments it asks for. Any
text is rendered as it is when it has been escaped. -/
theorem render_assemble :
    (∀ segments : List Segment, (∀ segment ∈ segments, segment.Numbered) →
      Unguarded [] segments → ∀ arguments,
        render (assemble segments) arguments = .ok (shown arguments 0 segments)) ∧
    ∀ text arguments, render (escape .template text) arguments = .ok text := by
  have put : ∀ segments : List Segment, (∀ segment ∈ segments, segment.Numbered) →
      Unguarded [] segments → ∀ arguments,
        render (assemble segments) arguments = .ok (shown arguments 0 segments) := by
    intro segments numbered unguarded arguments
    have shows := Segment.shows_read numbered unguarded (assemble segments) arguments 0
    exact Steps.map_eq_ok_iff.2 ⟨_, shows.render, String.ofList_toList⟩
  refine ⟨put, ?_⟩
  intro text arguments
  have whole := put [.text text] (by simp [Segment.Numbered]) trivial arguments
  simpa [assemble, shown, Segment.written] using whole

/-- Text that looks like placeholders, markers inside and at the end, and placeholders that
touch. -/
def lookalikes : List Segment :=
  [.text "é\\\x7b1", .text "\x7d", .next, .nth 2, .text "1\x7d\\", .text "\x7b\x7d", .next,
    .text "\\"]

/-- Only the placeholders that were put in are filled. -/
theorem render_assemble_lookalikes :
    (∀ segment ∈ lookalikes, segment.Numbered) ∧ Unguarded [] lookalikes ∧
      render (assemble lookalikes) ["a"] = .ok "é\\\x7b1\x7da?1\x7d\\\x7b\x7d?\\" := by
  have numbered : ∀ segment ∈ lookalikes, segment.Numbered := by decide
  have unguarded : Unguarded [] lookalikes := by decide
  exact ⟨numbered, unguarded, render_assemble.1 lookalikes numbered unguarded ["a"]⟩

end Phrasebook
