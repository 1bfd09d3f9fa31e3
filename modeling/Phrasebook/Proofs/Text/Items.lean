import Mathlib.Data.List.DropRight
import Phrasebook.Text.Blank
import Phrasebook.Text.Split

/-!
# Items and the blanks around them

A text is split into items just where a joined list has its separators. Trimming an item finds
the one part of it that neither begins nor ends with a blank character and has nothing but blank
characters before and after it.
-/

namespace Phrasebook.Text

/-- Splitting is that of the library. -/
theorem splitAt_eq_splitOn (separator : Char) (chars : List Char) :
    splitAt separator chars = chars.splitOn separator := by
  rw [List.splitOn_eq_splitOnP]
  induction chars with
  | nil => rfl
  | cons c rest inductionHypothesis =>
    rw [splitAt, List.splitOnP_cons_eq_if_modifyHead, inductionHypothesis]
    cases isSeparator : c == separator with
    | true => rfl
    | false =>
      cases parts : List.splitOnP (· == separator) rest with
      | nil => exact absurd parts (List.splitOnP_ne_nil _ _)
      | cons part others => rfl

/-- A separator parts what is on its two sides. -/
theorem splitAt_append (separator : Char) (left right : List Char) :
    splitAt separator (left ++ separator :: right) =
      splitAt separator left ++ splitAt separator right := by
  simp only [splitAt_eq_splitOn, List.splitOn_append_cons_self]

/-- A text without the separator is the only part of itself. -/
theorem splitAt_of_not_mem {separator : Char} {chars : List Char} (absent : separator ∉ chars) :
    splitAt separator chars = [chars] := by
  rw [splitAt_eq_splitOn, List.splitOn_eq_singleton absent]

/-- No part holds the separator. -/
theorem not_mem_of_mem_splitAt (separator : Char) (chars : List Char) :
    ∀ part ∈ splitAt separator chars, separator ∉ part := by
  induction chars with
  | nil => simp [splitAt]
  | cons c rest inductionHypothesis =>
    rw [splitAt]
    split
    · exact List.forall_mem_cons.2 ⟨List.not_mem_nil, inductionHypothesis⟩
    · rename_i other
      cases parts : splitAt separator rest with
      | nil => exact absurd parts (splitAt_ne_nil separator rest)
      | cons part others =>
        rw [parts] at inductionHypothesis
        obtain ⟨first, later⟩ := List.forall_mem_cons.1 inductionHypothesis
        refine List.forall_mem_cons.2 ⟨?_, later⟩
        rw [List.mem_cons, not_or]
        exact ⟨fun same => other (beq_iff_eq.2 same.symm), first⟩

/-- Trimming the end drops characters from the right. -/
theorem trimEnd_eq_rdropWhile (chars : List Char) : trimEnd chars = chars.rdropWhile isSpace := by
  induction chars with
  | nil => rfl
  | cons c rest inductionHypothesis =>
    rw [List.rdropWhile] at inductionHypothesis
    rw [trimEnd, List.rdropWhile, List.reverse_cons, List.dropWhile_append]
    cases kept : rest.reverse.dropWhile isSpace with
    | nil =>
      rw [inductionHypothesis, kept]
      cases space : isSpace c <;> simp [space]
    | cons last others =>
      rw [inductionHypothesis, kept]
      cases shown : (last :: others).reverse with
      | nil => simp at shown
      | cons first more =>
        rw [List.reverse_cons] at shown
        simp [shown]

/-- Whether a text neither begins nor ends with a blank character. -/
structure Bare (chars : List Char) : Prop where
  /-- It does not begin with one. -/
  first : ∀ c ∈ chars.head?, isSpace c = false
  /-- It does not end with one. -/
  last : ∀ c ∈ chars.getLast?, isSpace c = false

/-- Nothing is dropped from a text that begins with something else. -/
theorem dropWhile_eq_self (chars : List Char) (first : ∀ c ∈ chars.head?, isSpace c = false) :
    chars.dropWhile isSpace = chars := by
  cases chars with
  | nil => rfl
  | cons c rest => rw [List.dropWhile_cons_of_neg (by simp [first c rfl])]

/-- What follows the blanks at the start begins with something else. -/
theorem head?_dropWhile (chars : List Char) :
    ∀ c ∈ (chars.dropWhile isSpace).head?, isSpace c = false := by
  intro c isFirst
  have first := List.head?_dropWhile_not isSpace chars
  rw [isFirst] at first
  exact first

/-- Trimming finds the bare part that has nothing but blanks around it. -/
theorem trim_eq_iff (chars core : List Char) :
    trim chars = core ↔ Bare core ∧ ∃ before after, isBlank before = true ∧
      isBlank after = true ∧ chars = before ++ core ++ after := by
  rw [trim, trimStart, trimEnd_eq_rdropWhile]
  constructor
  · rintro rfl
    have rest := List.rdropWhile_append_rtakeWhile (p := isSpace) (l := chars.dropWhile isSpace)
    refine ⟨⟨?_, ?_⟩, chars.takeWhile isSpace, (chars.dropWhile isSpace).rtakeWhile isSpace,
      List.all_takeWhile, ?_, ?_⟩
    · intro c isFirst
      refine head?_dropWhile chars c ?_
      rw [← rest, List.head?_append, Option.mem_def.1 isFirst]
      rfl
    · intro c isLast
      rw [List.rdropWhile, List.getLast?_reverse] at isLast
      exact head?_dropWhile _ c isLast
    · exact List.all_eq_true.2 fun c member => List.mem_rtakeWhile_imp member
    · rw [List.append_assoc, rest, List.takeWhile_append_dropWhile]
  · rintro ⟨bare, before, after, blankBefore, blankAfter, rfl⟩
    have keptEnd : (core ++ after).rdropWhile isSpace = core := by
      have blankReversed : ∀ c ∈ after.reverse, isSpace c = true := by
        intro c member
        exact List.all_eq_true.1 blankAfter c (List.mem_reverse.1 member)
      rw [List.rdropWhile, List.reverse_append, List.dropWhile_append_of_pos blankReversed,
        dropWhile_eq_self, List.reverse_reverse]
      rw [List.head?_reverse]
      exact bare.last
    rw [List.append_assoc, List.dropWhile_append_of_pos (List.all_eq_true.1 blankBefore)]
    cases core with
    | nil =>
      have dropped : after.dropWhile isSpace = [] :=
        List.dropWhile_eq_nil_iff.2 (List.all_eq_true.1 blankAfter)
      rw [List.nil_append, dropped]
      rfl
    | cons c rest =>
      rw [dropWhile_eq_self]
      · exact keptEnd
      · rw [List.cons_append]
        exact bare.first

/-- Nothing is left of a text just when it is blank. -/
theorem trim_eq_nil_iff (chars : List Char) : trim chars = [] ↔ isBlank chars = true := by
  rw [trim_eq_iff]
  constructor
  · rintro ⟨-, before, after, blankBefore, blankAfter, rfl⟩
    rw [isBlank, List.append_nil, List.all_append]
    exact Bool.and_eq_true_iff.2 ⟨blankBefore, blankAfter⟩
  · intro isBlank
    exact ⟨⟨by simp, by simp⟩, chars, [], isBlank, rfl, by simp⟩

/-- Trimming drops nothing but blanks. -/
theorem mem_trim_iff {c : Char} (shown : isSpace c = false) (chars : List Char) :
    c ∈ trim chars ↔ c ∈ chars := by
  obtain ⟨-, before, after, blankBefore, blankAfter, split⟩ := (trim_eq_iff chars _).1 rfl
  have absent : ∀ text, isBlank text = true → c ∉ text := by
    intro text allBlank member
    have space := List.all_eq_true.1 allBlank c member
    exact Bool.false_ne_true (shown.symm.trans space)
  have around : c ∈ chars ↔ c ∈ before ++ trim chars ++ after := by rw [← split]
  simp [around, absent before blankBefore, absent after blankAfter]

end Phrasebook.Text

namespace Phrasebook

/-- Trimming a text gives the bare part of it. -/
theorem trimmed_eq_iff (text core : String) :
    trimmed text = core ↔ Text.Bare core.toList ∧ ∃ before after, blank before = true ∧
      blank after = true ∧ text = before ++ core ++ after := by
  have same : trimmed text = core ↔ Text.trim text.toList = core.toList := by
    rw [trimmed, ← String.toList_inj, String.toList_ofList]
  rw [same, Text.trim_eq_iff]
  refine and_congr_right fun _ => ?_
  constructor
  · rintro ⟨before, after, blankBefore, blankAfter, split⟩
    refine ⟨String.ofList before, String.ofList after, ?_, ?_, ?_⟩
    · simpa [blank] using blankBefore
    · simpa [blank] using blankAfter
    · rw [← String.toList_inj]
      simpa using split
  · rintro ⟨before, after, blankBefore, blankAfter, rfl⟩
    exact ⟨before.toList, after.toList, blankBefore, blankAfter, by simp⟩

/-- Nothing is left of a text just when it is blank. -/
theorem trimmed_eq_empty_iff (text : String) : trimmed text = "" ↔ blank text = true := by
  rw [blank, ← Text.trim_eq_nil_iff, trimmed, ← String.toList_inj, String.toList_ofList,
    String.toList_empty]

end Phrasebook
