import Mathlib.Data.Nat.Digits.Defs
import Phrasebook.Proofs.Template.Rendering
import Phrasebook.Proofs.Template.Stretch

/-!
# Which arguments placeholders take

The placeholders of a text never overlap, and reading divides the text at all of them. What a
placeholder takes depends on its own digits and on the placeholders before it: a number from one
up to the bound takes the argument of that number, and a placeholder without such a number takes
the next positional argument. Zero takes none.

Substitution puts the argument in the place of each placeholder and keeps all other text. The
division is made before any argument is known, so arguments are not searched for placeholders.
-/

namespace Phrasebook

open Text (byteLength byteLength_append isDigit digitValue decimal ByteRange)

namespace Template

/-! ### Numbers -/

/-- The number that decimal digits stand for by their places, the last digit in the first
place. -/
def number (digits : List Char) : Nat := Nat.ofDigits 10 (digits.reverse.map digitValue)

/-- Digits read from the left have the value that their places give them. -/
theorem decimal_eq_number (digits : List Char) : decimal digits = number digits := by
  rw [number, List.map_reverse, Nat.ofDigits_eq_foldr, List.foldr_reverse, List.foldl_map, decimal]
  simp [Nat.add_comm]

/-- Whether a placeholder takes the next positional argument: it has no digits, or they stand
for a number that is too large. -/
def Positional (digits : List Char) : Prop := digits = [] ∨ 2 ^ 64 ≤ number digits

instance : DecidablePred Positional := fun _ => inferInstanceAs (Decidable (_ ∨ _))

/-- What is put in the place of a placeholder, by its digits and those of the placeholders
before it. -/
def replacement (arguments : List String) (earlier : List (List Char)) (digits : List Char) :
    String :=
  if Positional digits then arguments.getD (earlier.countP (Positional ·)) missingArgument
  else if number digits = 0 then missingArgument
  else arguments.getD (number digits - 1) missingArgument

/-- The bound is the number of values that 64 bits have. -/
theorem numberBound_eq : numberBound = 2 ^ 64 := rfl

/-- A placeholder chooses the next argument or the one that its number names. -/
theorem choice_eq (digits : List Char) :
    choice digits =
      if Positional digits then .next
      else if number digits = 0 then .nothing
      else .nth (number digits - 1) := by
  rw [choice, decimal_eq_number, numberBound_eq]
  by_cases noDigits : digits = []
  · simp [noDigits, Positional]
  · simp only [Positional, noDigits, false_or, List.isEmpty_iff, if_false]

/-- A placeholder takes its replacement, and only positional placeholders are counted. -/
theorem take_choice (arguments : List String) (earlier : List (List Char)) (digits : List Char) :
    take arguments (earlier.countP (Positional ·)) (choice digits) =
      (replacement arguments earlier digits, (earlier ++ [digits]).countP (Positional ·)) := by
  rw [choice_eq, replacement, List.countP_append]
  by_cases positional : Positional digits
  · simp [take, positional]
  · by_cases zero : number digits = 0
    · simp [take, positional, zero]
    · simp [take, positional, zero]

/-- Text in which each placeholder is replaced, given the digits of the placeholders before it. -/
def replaced (arguments : List String) (earlier : List (List Char))
    (slots : List (List Char × List Char)) : List Char :=
  (slots.mapIdx fun index slot =>
    (replacement arguments (earlier ++ (slots.take index).map Prod.fst) slot.1).toList ++
      slot.2).flatten

/-- Slots are filled by replacing each placeholder. -/
theorem fill_eq_replaced (arguments : List String) (earlier : List (List Char))
    (slots : List (List Char × List Char)) :
    fill arguments (earlier.countP (Positional ·)) slots = replaced arguments earlier slots := by
  induction slots generalizing earlier with
  | nil => rfl
  | cons slot slots inductionHypothesis =>
    obtain ⟨digits, following⟩ := slot
    have later := inductionHypothesis (earlier ++ [digits])
    rw [fill_cons, take_choice, later]
    simp [replaced, List.mapIdx_cons]

/-! ### Places -/

/-- Behind the start of a placeholder, the next opening brace stands behind its end. -/
theorem brace_behind {digits rest more tail : List Char}
    (numeric : ∀ digit ∈ digits, isDigit digit = true)
    (split : placeholderText digits ++ rest = more ++ '{' :: tail) (nonempty : more ≠ []) :
    byteLength (placeholderText digits) ≤ byteLength more := by
  by_contra shorter
  obtain ⟨middle, whole, follows⟩ := Text.append_split_of_le split.symm (by omega)
  cases middle with
  | nil =>
    rw [whole, List.append_nil] at shorter
    omega
  | cons c middle =>
    obtain ⟨rfl, -⟩ := List.cons.inj follows
    obtain ⟨d, more, rfl⟩ := List.exists_cons_of_ne_nil nonempty
    have inside : '{' ∈ digits ++ ['}'] := by
      rw [(List.cons.inj whole).2]
      simp
    rcases List.mem_append.1 inside with isDigit | closes
    · exact absurd (numeric _ isDigit) (by decide)
    · exact absurd closes (by decide)

/-- A placeholder takes some bytes. -/
theorem PlaceholderAt.start_lt_stop {text : List Char} {range : ByteRange}
    (placeholder : PlaceholderAt text range) : range.start < range.stop := by
  obtain ⟨before, digits, rest, -, -, rfl⟩ := placeholder
  have positive : 0 < '{'.utf8Size := Char.utf8Size_pos _
  simp only [ByteRange.ofFragment, placeholderText, byteLength]
  omega

/-- A placeholder ends where the text does, if not before. -/
theorem PlaceholderAt.stop_le {text : List Char} {range : ByteRange}
    (placeholder : PlaceholderAt text range) : range.stop ≤ byteLength text := by
  obtain ⟨before, digits, rest, rfl, -, rfl⟩ := placeholder
  simp only [ByteRange.ofFragment, byteLength_append]
  omega

/-- Two placeholders that begin at the same place have the same digits. -/
theorem digits_unique {digits other rest more : List Char}
    (numeric : ∀ digit ∈ digits, isDigit digit = true)
    (otherNumeric : ∀ digit ∈ other, isDigit digit = true)
    (same : placeholderText digits ++ rest = placeholderText other ++ more) : digits = other := by
  have behind : digits ++ '}' :: rest = other ++ '}' :: more := by
    simpa [placeholderText] using same
  have found : placeholder? (digits ++ '}' :: rest) = some (digits, rest) :=
    placeholder?_eq_some_iff.2 ⟨rfl, numeric⟩
  have otherFound : placeholder? (digits ++ '}' :: rest) = some (other, more) :=
    placeholder?_eq_some_iff.2 ⟨behind, otherNumeric⟩
  rw [found] at otherFound
  cases otherFound
  rfl

/-- A placeholder that begins behind another one begins behind its end. -/
theorem PlaceholderAt.apart {text : List Char} {first second : ByteRange}
    (isFirst : PlaceholderAt text first) (isSecond : PlaceholderAt text second)
    (ordered : first.start ≤ second.start) : first = second ∨ first.stop ≤ second.start := by
  obtain ⟨before, digits, rest, whole, placed, rfl⟩ := isFirst
  obtain ⟨further, other, more, alsoWhole, otherPlaced, rfl⟩ := isSecond
  rw [List.append_assoc] at whole alsoWhole
  obtain ⟨middle, rfl, follows⟩ := Text.append_split_of_le (whole.symm.trans alsoWhole) ordered
  by_cases none : middle = []
  · subst none
    rw [List.nil_append] at follows
    have same := digits_unique placed.numeric otherPlaced.numeric follows
    exact .inl (by rw [same, List.append_nil])
  · have behind := brace_behind placed.numeric follows none
    simp only [ByteRange.ofFragment, byteLength_append]
    exact .inr (by omega)

/-- Whether a text is divided at its placeholders: the slots hold all of them and nothing
else is taken for one. -/
structure Divides (text lead : List Char) (slots : List (List Char × List Char)) : Prop where
  /-- Nothing is left out or added. -/
  split : text = lead ++ slotsText slots
  /-- The placeholders of the text are those of the slots, each at its place. -/
  placeholder_iff : ∀ range, PlaceholderAt text range ↔
    ∃ earlier digits following later, slots = earlier ++ (digits, following) :: later ∧
      range = ByteRange.ofFragment (byteLength (lead ++ slotsText earlier))
        (placeholderText digits)

/-- Every slot of a laid out text begins with a placeholder. -/
theorem Laid.placeholderAt {text before lead digits following : List Char}
    {slots earlier later : List (List Char × List Char)} (laid : Laid text before lead slots)
    (split : slots = earlier ++ (digits, following) :: later) :
    PlaceholderAt text (ByteRange.ofFragment (byteLength (before ++ lead ++ slotsText earlier))
      (placeholderText digits)) := by
  induction earlier generalizing before lead slots with
  | nil =>
    subst split
    refine ⟨_, digits, following ++ slotsText later, ?_, by simpa using laid.placed, rfl⟩
    rw [laid.split]
    simp
  | cons slot earlier inductionHypothesis =>
    obtain ⟨first, behind⟩ := slot
    subst split
    have found := inductionHypothesis laid.next rfl
    rw [slotsText_cons]
    simpa using found

/-- A placeholder that does not begin before a stretch begins behind it. -/
theorem Stretch.behind {text before gap after : List Char} {range : ByteRange}
    (stretch : Stretch text before gap after) (placeholder : PlaceholderAt text range)
    (reached : byteLength before ≤ range.start) : byteLength (before ++ gap) ≤ range.start := by
  rcases stretch.apart placeholder with passed | ahead
  · have some := placeholder.start_lt_stop
    omega
  · exact ahead

/-- Every placeholder behind the start of a laid out text begins a slot.

The induction is on the slots. No placeholder begins in the stretch before the first slot,
so the placeholder is the one of that slot or begins behind it. -/
theorem Laid.slot_of_placeholderAt {text before lead : List Char}
    {slots : List (List Char × List Char)} (laid : Laid text before lead slots)
    {range : ByteRange} (placeholder : PlaceholderAt text range)
    (reached : byteLength before ≤ range.start) :
    ∃ earlier digits following later, slots = earlier ++ (digits, following) :: later ∧
      range = ByteRange.ofFragment (byteLength (before ++ lead ++ slotsText earlier))
        (placeholderText digits) := by
  induction slots generalizing before lead with
  | nil =>
    have ahead := laid.stretch.behind placeholder reached
    have whole : text = before ++ lead := by simpa using laid.split
    have some := placeholder.start_lt_stop
    have inside := placeholder.stop_le
    rw [whole] at inside
    omega
  | cons slot slots inductionHypothesis =>
    obtain ⟨digits, following⟩ := slot
    have first : (digits, following) :: slots = [] ++ (digits, following) :: slots := rfl
    have here := laid.placeholderAt first
    rw [slotsText_nil, List.append_nil] at here
    rcases here.apart placeholder (laid.stretch.behind placeholder reached) with rfl | passed
    · exact ⟨[], digits, following, slots, rfl, by simp⟩
    · have reachedNext : byteLength (before ++ lead ++ placeholderText digits) ≤ range.start := by
        rw [byteLength_append]
        exact passed
      obtain ⟨earlier, others, behind, later, rfl, place⟩ :=
        inductionHypothesis laid.next reachedNext
      refine ⟨(digits, following) :: earlier, others, behind, later, rfl, ?_⟩
      rw [place, slotsText_cons]
      simp

/-- Reading divides a text at its placeholders. -/
theorem divides_ofText (text : List Char) :
    Divides text (ofText text).lead (ofText text).slots where
  split := by
    rw [← text_eq]
    exact (read_text false text).symm
  placeholder_iff range := by
    have laid := laid_ofText text
    constructor
    · intro placeholder
      exact laid.slot_of_placeholderAt placeholder (Nat.zero_le _)
    · rintro ⟨earlier, digits, following, later, split, rfl⟩
      exact laid.placeholderAt split

end Template

open Template (PlaceholderAt Divides replaced)

/-- The placeholders of a text do not overlap. The text is divided at them, whatever the arguments
are, and substitution replaces each of them and keeps the rest. -/
theorem substitute_replaces (template : String) :
    (∀ first second, PlaceholderAt template.toList first → PlaceholderAt template.toList second →
      first = second ∨ first.stop ≤ second.start ∨ second.stop ≤ first.start) ∧
    ∃ lead slots, Divides template.toList lead slots ∧
      ∀ arguments, substitute template arguments =
        String.ofList (lead ++ replaced arguments [] slots) := by
  refine ⟨?_, _, _, Template.divides_ofText template.toList, ?_⟩
  · intro first second isFirst isSecond
    rcases Nat.le_total first.start second.start with ordered | ordered
    · exact (isFirst.apart isSecond ordered).imp_right .inl
    · exact (isSecond.apart isFirst ordered).imp Eq.symm .inr
  · intro arguments
    have filled := Template.fill_eq_replaced arguments [] (Template.ofText template.toList).slots
    rw [← filled]
    rfl

/-- A template with a placeholder behind a marker, positional ones, and numbers on both sides of
each bound. -/
def numberedTemplate : String :=
  "\\\x7b\x7d\x7b\x7d\x7b2\x7d\x7b00\x7d\x7b18446744073709551616\x7d" ++
    "\x7b018446744073709551615\x7d\x7b\x7d"

/-- The first two placeholders touch. Of the others, the one with a number that is too large takes
the second argument and the last one the third. -/
theorem substitute_replaces_numbered :
    PlaceholderAt numberedTemplate.toList ⟨3, 5⟩ ∧ PlaceholderAt numberedTemplate.toList ⟨5, 8⟩ ∧
      ((⟨3, 5⟩ : ByteRange) = ⟨5, 8⟩ ∨ 5 ≤ 5 ∨ 8 ≤ 3) ∧
      ∃ lead slots, Divides numberedTemplate.toList lead slots ∧
        String.ofList (lead ++ replaced ["a", "b", "c"] [] slots) = "\\\x7b\x7dab?b?c" := by
  obtain ⟨apart, lead, slots, divides, filled⟩ := substitute_replaces numberedTemplate
  have first : PlaceholderAt numberedTemplate.toList ⟨3, 5⟩ :=
    ⟨['\\', '{', '}'], [], numberedTemplate.toList.drop 5, by decide +kernel,
      ⟨List.forall_mem_nil _, by decide⟩, by decide⟩
  have second : PlaceholderAt numberedTemplate.toList ⟨5, 8⟩ :=
    ⟨['\\', '{', '}', '{', '}'], ['2'], numberedTemplate.toList.drop 8, by decide +kernel,
      ⟨List.forall_mem_singleton.2 (by decide), by decide⟩, by decide⟩
  have shown : substitute numberedTemplate ["a", "b", "c"] = "\\\x7b\x7dab?b?c" := by
    decide +kernel
  exact ⟨first, second, apart _ _ first second, lead, slots, divides,
    (filled ["a", "b", "c"]).symm.trans shown⟩

end Phrasebook
