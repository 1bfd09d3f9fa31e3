import Mathlib.Order.Bounds.Basic
import Phrasebook.Proofs.Escape.Codec
import Phrasebook.Proofs.Template.Reading
import Phrasebook.Proofs.Text.Range

/-!
# Braces of a template and the text between its placeholders

A brace of a template is structural when it belongs to a placeholder, and escaped when a
marker stands right before it. A brace that is neither is stray.

A template is read to stretches of text with placeholders between them. These are all its
placeholders: any other lies before a stretch or behind it. A stretch is checked as if
nothing stood before it, and still the stray braces of the stretches are those of the
template, because what stands before a stretch is nothing or a closing brace, and neither
escapes anything.
-/

namespace Phrasebook.Template

open Escape (marker)
open Text (byteLength byteLength_append isDigit ByteRange)

/-- Whether digits between braces are a placeholder behind some text. -/
structure Placed (before digits : List Char) : Prop where
  /-- Between the braces there are only digits. -/
  numeric : ∀ digit ∈ digits, isDigit digit = true
  /-- The opening brace is not escaped. -/
  unmarked : before.getLast? ≠ some marker

/-- Whether a placeholder fills a range of a text. -/
def PlaceholderAt (text : List Char) (range : ByteRange) : Prop :=
  ∃ before digits after, text = before ++ placeholderText digits ++ after ∧
    Placed before digits ∧
      range = ByteRange.ofFragment (byteLength before) (placeholderText digits)

/-- Whether a brace stands at a position of a text. -/
def BraceAt (text : List Char) (position : Nat) : Prop :=
  ∃ before brace after, text = before ++ brace :: after ∧
    Delimiters.template.contains brace = true ∧ byteLength before = position

/-- Whether a position belongs to a placeholder. -/
def StructuralAt (text : List Char) (position : Nat) : Prop :=
  ∃ range, PlaceholderAt text range ∧ range.start ≤ position ∧ position < range.stop

/-- Whether a marker stands right before a position. -/
def EscapedAt (text : List Char) (position : Nat) : Prop :=
  ∃ before after, text = before ++ [marker] ++ after ∧ byteLength (before ++ [marker]) = position

/-- Whether a brace stands at a position that is neither structural nor escaped. -/
structure StrayAt (text : List Char) (position : Nat) : Prop where
  /-- There is a brace. -/
  brace : BraceAt text position
  /-- It belongs to no placeholder. -/
  plain : ¬ StructuralAt text position
  /-- No marker stands right before it. -/
  unescaped : ¬ EscapedAt text position

/-- Whether part of a text reaches from one placeholder, or the start, to the next one,
or the end. -/
structure Stretch (text before gap after : List Char) : Prop where
  /-- It stands between two parts of the text. -/
  split : text = before ++ gap ++ after
  /-- It holds no placeholder. -/
  free : Free false gap
  /-- Right before it is a placeholder or nothing. -/
  begins : before = [] ∨
    ∃ earlier digits, before = earlier ++ placeholderText digits ∧ Placed earlier digits
  /-- Right behind it is a placeholder or nothing. -/
  ends : after = [] ∨
    ∃ digits later, after = placeholderText digits ++ later ∧ Placed (before ++ gap) digits

/-- A text that ends with a placeholder ends with its closing brace. -/
theorem getLast?_placeholder (earlier digits : List Char) :
    (earlier ++ placeholderText digits).getLast? = some '}' := by
  simp [placeholderText, List.getLast?_cons]

/-- What stands before a stretch escapes nothing. -/
theorem unmarked_of_begins {before : List Char}
    (begins : before = [] ∨
      ∃ earlier digits, before = earlier ++ placeholderText digits ∧ Placed earlier digits) :
    before.getLast? ≠ some marker := by
  rcases begins with rfl | ⟨earlier, digits, rfl, -⟩
  · simp
  · rw [getLast?_placeholder]
    decide

/-- Joined to what stands before it, the beginning of a stretch ends in a marker only if
it does by itself. -/
theorem unmarked_append {before left : List Char} (first : before.getLast? ≠ some marker)
    (second : left.getLast? ≠ some marker) : (before ++ left).getLast? ≠ some marker := by
  rcases List.eq_nil_or_concat left with rfl | ⟨front, c, rfl⟩
  · simpa using first
  · simpa using second

/-- A placeholder that begins in some text ends in it, if what follows the text is no part
of a placeholder that has begun. -/
theorem placeholder?_of_append {left right digits rest : List Char}
    (ends : right = [] ∨ ∃ later, right = '{' :: later)
    (found : placeholder? (left ++ right) = some (digits, rest)) :
    ∃ more, left = digits ++ '}' :: more := by
  induction left generalizing digits with
  | nil =>
    rcases ends with rfl | ⟨later, rfl⟩
    · cases found
    · have opens : isDigit '{' = false := by decide
      simp [placeholder?, opens] at found
  | cons c tail inductionHypothesis =>
    rw [List.cons_append, placeholder?] at found
    split at found
    · next closes =>
      cases found
      exact ⟨tail, by simpa using closes⟩
    · split at found
      · obtain ⟨⟨inner, after⟩, later, same⟩ := Option.map_eq_some_iff.1 found
        cases same
        obtain ⟨more, rfl⟩ := inductionHypothesis later
        exact ⟨more, rfl⟩
      · cases found

/-- No placeholder begins in a stretch. -/
theorem Stretch.no_placeholder {text before gap after left digits rest : List Char}
    (stretch : Stretch text before gap after) (placed : Placed (before ++ left) digits)
    (split : gap ++ after = left ++ (placeholderText digits ++ rest)) :
    byteLength gap ≤ byteLength left := by
  by_contra shorter
  obtain ⟨inner, rfl, follows⟩ := Text.append_split_of_le split.symm (by omega)
  have nonempty : inner ≠ [] := by
    rintro rfl
    simp at shorter
  obtain ⟨c, tail, rfl⟩ := List.exists_cons_of_ne_nil nonempty
  simp only [placeholderText, List.cons_append, List.append_assoc, List.nil_append,
    List.cons.injEq] at follows
  obtain ⟨rfl, follows⟩ := follows
  have found : placeholder? (tail ++ after) = some (digits, rest) :=
    placeholder?_eq_some_iff.2 ⟨follows.symm, placed.numeric⟩
  have ends : after = [] ∨ ∃ later, after = '{' :: later := by
    rcases stretch.ends with none | ⟨others, later, rfl, -⟩
    · exact .inl none
    · exact .inr ⟨_, rfl⟩
  obtain ⟨more, rfl⟩ := placeholder?_of_append ends found
  have marked := stretch.free left digits more (by simp [placeholderText]) placed.numeric
  rw [Escape.markedAfter_eq_true_iff] at marked
  refine placed.unmarked ?_
  rw [List.getLast?_append, marked]
  rfl

/-- A placeholder that begins before a stretch ends before it. -/
theorem Stretch.placeholder_before {text before gap after left digits rest : List Char}
    (stretch : Stretch text before gap after) (placed : Placed left digits)
    (whole : text = left ++ (placeholderText digits ++ rest))
    (earlier : byteLength left < byteLength before) :
    byteLength (left ++ placeholderText digits) ≤ byteLength before := by
  have split : left ++ (placeholderText digits ++ rest) = before ++ (gap ++ after) := by
    rw [← whole, stretch.split, List.append_assoc]
  obtain ⟨inner, rfl, follows⟩ := Text.append_split_of_le split (Nat.le_of_lt earlier)
  -- The stretch begins behind a closing brace, and the first one behind `left` is the
  -- placeholder's own.
  have closes : inner.getLast? = some '}' := by
    rcases stretch.begins with none | ⟨front, others, same, -⟩
    · obtain ⟨rfl, rfl⟩ := List.append_eq_nil_iff.1 none
      simp at earlier
    · have last := congrArg List.getLast? same
      rw [getLast?_placeholder, List.getLast?_append] at last
      cases ending : inner.getLast? with
      | some c => simpa [ending] using last
      | none =>
        rw [List.getLast?_eq_none_iff] at ending
        simp [ending] at earlier
  by_contra longer
  rw [byteLength_append, byteLength_append] at longer
  obtain ⟨more, same, -⟩ := Text.append_split_of_le follows.symm (by omega)
  have nonempty : more ≠ [] := by
    rintro rfl
    rw [same, List.append_nil] at longer
    omega
  have inside : '{' :: digits = inner ++ more.dropLast := by
    have whole : placeholderText digits = ('{' :: digits) ++ ['}'] := rfl
    have front := congrArg List.dropLast same
    rwa [whole, List.dropLast_concat, List.dropLast_append_of_ne_nil nonempty] at front
  have member : '}' ∈ '{' :: digits := by
    rw [inside]
    exact List.mem_append_left _ (List.mem_of_getLast? closes)
  rcases List.mem_cons.1 member with impossible | member
  · cases impossible
  · exact absurd (placed.numeric '}' member) (by decide)

/-- A placeholder of the text ends before a stretch or begins behind it. -/
theorem Stretch.apart {text before gap after : List Char} {range : ByteRange}
    (stretch : Stretch text before gap after) (placeholder : PlaceholderAt text range) :
    range.stop ≤ byteLength before ∨ byteLength (before ++ gap) ≤ range.start := by
  obtain ⟨left, digits, rest, whole, placed, rfl⟩ := placeholder
  rw [List.append_assoc] at whole
  simp only [ByteRange.ofFragment, ← byteLength_append]
  by_cases earlier : byteLength left < byteLength before
  · exact .inl (stretch.placeholder_before placed whole earlier)
  · have split : before ++ (gap ++ after) = left ++ (placeholderText digits ++ rest) := by
      rw [← whole, stretch.split, List.append_assoc]
    obtain ⟨inner, rfl, follows⟩ := Text.append_split_of_le split (by omega)
    have behind := stretch.no_placeholder placed follows
    simp only [byteLength_append]
    exact .inr (by omega)

/-- A brace of a stretch that is not escaped there is stray in the whole text. -/
theorem Stretch.strayAt {text before gap after left right : List Char} {brace : Char}
    (stretch : Stretch text before gap after) (split : gap = left ++ brace :: right)
    (reserved : Delimiters.template.contains brace = true)
    (unmarked : left.getLast? ≠ some marker) : StrayAt text (byteLength (before ++ left)) := by
  have oneByte : brace.utf8Size = 1 := Escape.delimiter_size .template reserved
  have whole : text = (before ++ left) ++ brace :: (right ++ after) := by
    rw [stretch.split, split]
    simp
  refine ⟨⟨_, brace, _, whole, reserved, rfl⟩, ?_, ?_⟩
  · rintro ⟨range, placeholder, starts, stops⟩
    rcases stretch.apart placeholder with behind | ahead
    · rw [byteLength_append] at stops
      omega
    · rw [split] at ahead
      simp only [byteLength_append, byteLength] at starts ahead
      omega
  · rintro ⟨front, back, same, place⟩
    obtain ⟨ending, -⟩ := Text.append_inj_of_byteLength (same.symm.trans whole) place
    refine unmarked_append (unmarked_of_begins stretch.begins) unmarked ?_
    rw [← ending]
    simp

/-- The stretches of a template behind some text, each with all that stands before it. -/
def stretches (before lead : List Char) :
    List (List Char × List Char) → List (List Char × List Char)
  | [] => [(before, lead)]
  | (digits, following) :: slots =>
    (before, lead) :: stretches (before ++ lead ++ placeholderText digits) following slots

/-- Whether slots behind some text are placeholders with stretches between them. -/
structure Laid (text before lead : List Char) (slots : List (List Char × List Char)) : Prop where
  /-- They make up the rest of the whole text. -/
  split : text = before ++ lead ++ slotsText slots
  /-- Right before them is a placeholder or nothing. -/
  begins : before = [] ∨
    ∃ earlier digits, before = earlier ++ placeholderText digits ∧ Placed earlier digits
  /-- No placeholder stands behind a marker. -/
  bare : Bare false lead slots
  /-- There is no placeholder in the first stretch. -/
  free : Free false lead
  /-- There are digits in each placeholder. -/
  numeric : ∀ slot ∈ slots, ∀ digit ∈ slot.1, isDigit digit = true
  /-- There is no placeholder in any other stretch. -/
  others : ∀ slot ∈ slots, Free false slot.2

/-- A template is laid out as it is read. -/
theorem laid_ofText (text : List Char) :
    Laid text [] (ofText text).lead (ofText text).slots where
  split := by
    rw [List.nil_append, ← text_eq]
    exact (read_text false text).symm
  begins := .inl rfl
  bare := read_bare false text
  free := (read_free false text).1
  numeric := read_numeric false text
  others := (read_free false text).2

/-- The first placeholder is one behind all that stands before it. -/
theorem Laid.placed {text before lead digits following : List Char}
    {slots : List (List Char × List Char)}
    (laid : Laid text before lead ((digits, following) :: slots)) :
    Placed (before ++ lead) digits := by
  refine ⟨laid.numeric _ List.mem_cons_self, ?_⟩
  refine unmarked_append (unmarked_of_begins laid.begins) ?_
  rw [ne_eq, ← Escape.markedAfter_eq_true_iff, laid.bare.1]
  decide

/-- Behind the first placeholder the text goes on in the same way. -/
theorem Laid.next {text before lead digits following : List Char}
    {slots : List (List Char × List Char)}
    (laid : Laid text before lead ((digits, following) :: slots)) :
    Laid text (before ++ lead ++ placeholderText digits) following slots where
  split := by
    rw [laid.split, slotsText_cons]
    simp
  begins := .inr ⟨before ++ lead, digits, rfl, laid.placed⟩
  bare := laid.bare.2
  free := laid.others _ List.mem_cons_self
  numeric slot member := laid.numeric slot (List.mem_cons_of_mem _ member)
  others slot member := laid.others slot (List.mem_cons_of_mem _ member)

/-- What stands before the first placeholder is a stretch. -/
theorem Laid.stretch {text before lead : List Char} {slots : List (List Char × List Char)}
    (laid : Laid text before lead slots) : Stretch text before lead (slotsText slots) where
  split := laid.split
  free := laid.free
  begins := laid.begins
  ends := by
    cases slots with
    | nil => exact .inl rfl
    | cons slot slots =>
      obtain ⟨digits, following⟩ := slot
      exact .inr ⟨digits, following ++ slotsText slots, slotsText_cons .., laid.placed⟩

/-- All stretches of a laid out text are stretches. -/
theorem Laid.stretch_of_mem {text before lead : List Char} {slots : List (List Char × List Char)}
    (laid : Laid text before lead slots) :
    ∀ stretch ∈ stretches before lead slots, ∃ after, Stretch text stretch.1 stretch.2 after := by
  induction slots generalizing before lead with
  | nil =>
    intro stretch member
    obtain rfl := List.mem_singleton.1 member
    exact ⟨_, laid.stretch⟩
  | cons slot slots inductionHypothesis =>
    intro stretch member
    rcases List.mem_cons.1 member with rfl | member
    · exact ⟨_, laid.stretch⟩
    · exact inductionHypothesis laid.next stretch member

/-- Every brace behind the start is in a stretch or belongs to a placeholder. -/
theorem Laid.cover {text before lead : List Char} {slots : List (List Char × List Char)}
    (laid : Laid text before lead slots) (left : List Char) {brace : Char} {right : List Char}
    (whole : text = before ++ left ++ brace :: right) :
    StructuralAt text (byteLength (before ++ left)) ∨
      ∃ stretch ∈ stretches before lead slots, ∃ front back,
        before ++ left = stretch.1 ++ front ∧ stretch.2 = front ++ brace :: back := by
  induction slots generalizing before lead left with
  | nil =>
    have same : lead = left ++ brace :: right := by
      have split := laid.split.symm.trans whole
      simpa using split
    exact .inr ⟨(before, lead), List.mem_singleton_self _, left, right, rfl, same⟩
  | cons slot slots inductionHypothesis =>
    obtain ⟨digits, following⟩ := slot
    have split : lead ++ (placeholderText digits ++ (following ++ slotsText slots)) =
        left ++ brace :: right := by
      have same := laid.split.symm.trans whole
      simpa using same
    by_cases inLead : byteLength left < byteLength lead
    · obtain ⟨inner, rfl, follows⟩ := Text.append_split_of_le split.symm (Nat.le_of_lt inLead)
      cases inner with
      | nil => simp at inLead
      | cons c back =>
        obtain ⟨rfl, -⟩ := List.cons.inj follows
        exact .inr ⟨(before, left ++ brace :: back), List.mem_cons_self, left, back, rfl, rfl⟩
    · rw [← List.append_assoc] at split
      by_cases inside : byteLength left < byteLength (lead ++ placeholderText digits)
      · refine .inl ⟨_, ⟨before ++ lead, digits, following ++ slotsText slots, ?_, laid.placed,
          rfl⟩, ?_, ?_⟩
        · rw [laid.split, slotsText_cons]
          simp
        · simp only [ByteRange.ofFragment, byteLength_append]
          omega
        · simp only [ByteRange.ofFragment, byteLength_append] at inside ⊢
          omega
      · obtain ⟨more, rfl, -⟩ := Text.append_split_of_le split (by omega)
        have later := laid.next
        have place : before ++ (lead ++ placeholderText digits ++ more) =
            before ++ lead ++ placeholderText digits ++ more := by simp
        rw [place] at whole ⊢
        rcases inductionHypothesis later more whole with structural | ⟨stretch, member, found⟩
        · exact .inl structural
        · exact .inr ⟨stretch, List.mem_cons_of_mem _ member, found⟩

/-- All stretches stand behind the text that they are laid out behind. -/
theorem le_of_mem_stretches {before lead : List Char} {slots : List (List Char × List Char)} :
    ∀ stretch ∈ stretches before lead slots, byteLength before ≤ byteLength stretch.1 := by
  induction slots generalizing before lead with
  | nil =>
    intro stretch member
    obtain rfl := List.mem_singleton.1 member
    exact Nat.le_refl _
  | cons slot slots inductionHypothesis =>
    intro stretch member
    rcases List.mem_cons.1 member with rfl | member
    · exact Nat.le_refl _
    · have later := inductionHypothesis stretch member
      simp only [byteLength_append] at later
      omega

/-- The stretches of a template follow each other. -/
theorem stretches_ordered (before lead : List Char) (slots : List (List Char × List Char)) :
    (stretches before lead slots).Pairwise fun earlier later =>
      byteLength (earlier.1 ++ earlier.2) ≤ byteLength later.1 := by
  induction slots generalizing before lead with
  | nil => exact List.pairwise_singleton _ _
  | cons slot slots inductionHypothesis =>
    refine List.pairwise_cons.2 ⟨?_, inductionHypothesis _ _⟩
    intro later member
    have behind := le_of_mem_stretches later member
    rw [byteLength_append] at behind
    exact Nat.le_trans (Nat.le_add_right _ _) behind

/-- Around a position in a stretch, the stretch begins behind the last placeholder. -/
theorem Stretch.isGreatest_begins {text before gap after : List Char} {position : Nat}
    (stretch : Stretch text before gap after) (behind : byteLength before ≤ position)
    (inside : position < byteLength (before ++ gap)) :
    IsGreatest {edge | edge = 0 ∨ ∃ range, PlaceholderAt text range ∧
      range.stop = edge ∧ edge ≤ position} (byteLength before) := by
  constructor
  · rcases stretch.begins with rfl | ⟨earlier, digits, rfl, placed⟩
    · exact .inl rfl
    · have placeholder : PlaceholderAt text
          (ByteRange.ofFragment (byteLength earlier) (placeholderText digits)) :=
        ⟨earlier, digits, gap ++ after, by rw [stretch.split, List.append_assoc], placed, rfl⟩
      exact .inr ⟨_, placeholder, (byteLength_append _ _).symm, behind⟩
  · rintro edge (rfl | ⟨range, placeholder, rfl, passed⟩)
    · exact Nat.zero_le _
    · rcases stretch.apart placeholder with earlier | later
      · exact earlier
      · obtain ⟨left, digits, rest, -, -, rfl⟩ := placeholder
        simp only [ByteRange.ofFragment] at later passed
        omega

/-- Around a position in a stretch, the stretch ends before the next placeholder. -/
theorem Stretch.isLeast_ends {text before gap after : List Char} {position : Nat}
    (stretch : Stretch text before gap after) (behind : byteLength before ≤ position)
    (inside : position < byteLength (before ++ gap)) :
    IsLeast {edge | edge = byteLength text ∨ ∃ range, PlaceholderAt text range ∧
      range.start = edge ∧ position < edge} (byteLength (before ++ gap)) := by
  constructor
  · rcases stretch.ends with rfl | ⟨digits, later, rfl, placed⟩
    · exact .inl (by rw [stretch.split, List.append_nil])
    · have placeholder : PlaceholderAt text
          (ByteRange.ofFragment (byteLength (before ++ gap)) (placeholderText digits)) :=
        ⟨before ++ gap, digits, later, by simp [stretch.split], placed, rfl⟩
      exact .inr ⟨_, placeholder, rfl, inside⟩
  · rintro edge (rfl | ⟨range, placeholder, rfl, passed⟩)
    · rw [stretch.split, byteLength_append _ after]
      exact Nat.le_add_right _ _
    · rcases stretch.apart placeholder with earlier | later
      · obtain ⟨left, digits, rest, -, -, rfl⟩ := placeholder
        simp only [ByteRange.ofFragment] at earlier passed
        omega
      · exact later

/-- A stray brace lies in a stretch, and it is not escaped there. -/
theorem Laid.stray_in_stretch {text before lead : List Char}
    {slots : List (List Char × List Char)} (laid : Laid text before lead slots)
    (start : before = []) {position : Nat} (stray : StrayAt text position) :
    ∃ stretch ∈ stretches before lead slots, ∃ front brace back,
      stretch.2 = front ++ brace :: back ∧ Delimiters.template.contains brace = true ∧
        front.getLast? ≠ some marker ∧ position = byteLength (stretch.1 ++ front) := by
  subst start
  obtain ⟨⟨left, brace, right, whole, reserved, rfl⟩, plain, unescaped⟩ := stray
  rcases laid.cover left whole with structural | ⟨stretch, member, front, back, same, split⟩
  · exact absurd structural plain
  · refine ⟨stretch, member, front, brace, back, split, reserved, ?_, congrArg byteLength same⟩
    intro marked
    obtain ⟨ahead, rfl⟩ := List.getLast?_eq_some_iff.1 marked
    rw [List.nil_append] at same
    exact unescaped ⟨stretch.1 ++ ahead, brace :: right, by simp [whole, same], by simp [same]⟩

end Phrasebook.Template
