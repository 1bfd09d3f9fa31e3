import Mathlib
import Phrasebook.Proofs.Text.Items
import Phrasebook.Settings.Filter

/-!
# Log filters, directive by directive

A filter is read at its commas, and each directive is looked at by itself. The rule that a filter
must not be blank adds nothing to this: a blank filter is a single directive, and a blank
directive can not be used wherever it stands. So filters can be joined with commas and cut at
them, and neither the order of the directives nor their number matters.

A directive is described here without splitting or trimming, as the ways to write one.
-/

namespace Phrasebook

namespace LogFilter

open Text (splitAt trim isBlank isSpace Bare)

/-- Whether a text is the name of a level with any blanks around it. -/
def NamesLevel (text : List Char) : Prop :=
  ∃ before name after, isBlank before = true ∧ isLevel name = true ∧ isBlank after = true ∧
    text = before ++ name ++ after

/-- The directives that can be used. -/
inductive Directive : List Char → Prop where
  /-- A level for all targets. -/
  | level {text : List Char} (names : NamesLevel text) : Directive text
  /-- A level for one target. The target can be any text, equals signs included. -/
  | leveled (target : List Char) {text : List Char} (names : NamesLevel text) :
      Directive (target ++ '=' :: text)
  /-- A target without a level, which shows by an underscore or a colon that it is one. -/
  | target {text : List Char} (noEquals : '=' ∉ text) (shown : '_' ∈ text ∨ ':' ∈ text) :
      Directive text

/-- A letter is not blank. -/
theorem isSpace_of_isAlpha {c : Char} (letter : c.isAlpha = true) : isSpace c = false := by
  have code : (65 ≤ c.toNat ∧ c.toNat ≤ 90) ∨ (97 ≤ c.toNat ∧ c.toNat ≤ 122) := by
    simpa [Char.isAlpha, Char.isUpper, Char.isLower, UInt32.le_iff_toNat_le, ← Char.toNat_val]
      using letter
  simp [isSpace]
  omega

/-- The name of a level holds letters only. -/
theorem isAlpha_of_isLevel {name : List Char} (level : isLevel name = true) :
    ∀ c ∈ name, c.isAlpha = true := by
  have lowerCase : ∀ word ∈ levels, word.toList.all Char.isLower = true := by decide
  have letters := lowerCase _ (List.contains_iff_mem.1 level)
  rw [String.toList_ofList, List.all_map, List.all_eq_true] at letters
  intro c member
  rw [← Char.isLower_toLower_eq_isAlpha]
  exact letters c member

/-- The name of a level has no blanks to be trimmed. -/
theorem bare_of_isLevel {name : List Char} (level : isLevel name = true) : Bare name where
  first c isFirst := isSpace_of_isAlpha (isAlpha_of_isLevel level c (List.mem_of_head? isFirst))
  last c isLast := isSpace_of_isAlpha (isAlpha_of_isLevel level c (List.mem_of_getLast? isLast))

/-- Trimming uncovers the name of a level. -/
theorem isLevel_trim_iff (text : List Char) : isLevel (trim text) = true ↔ NamesLevel text := by
  constructor
  · intro level
    obtain ⟨-, before, after, blankBefore, blankAfter, split⟩ := (Text.trim_eq_iff text _).1 rfl
    exact ⟨before, trim text, after, blankBefore, level, blankAfter, split⟩
  · rintro ⟨before, name, after, blankBefore, level, blankAfter, split⟩
    have core : trim text = name := (Text.trim_eq_iff text name).2
      ⟨bare_of_isLevel level, before, after, blankBefore, blankAfter, split⟩
    rwa [core]

/-- No equals sign stands in the name of a level or around it. -/
theorem NamesLevel.noEquals {text : List Char} (names : NamesLevel text) : '=' ∉ text := by
  obtain ⟨before, name, after, blankBefore, level, blankAfter, rfl⟩ := names
  simp only [List.mem_append, not_or]
  refine ⟨⟨?_, ?_⟩, ?_⟩
  · exact fun member => absurd (List.all_eq_true.1 blankBefore _ member) (by decide)
  · exact fun member => absurd (isAlpha_of_isLevel level _ member) (by decide)
  · exact fun member => absurd (List.all_eq_true.1 blankAfter _ member) (by decide)

/-- All of a text without an equals sign counts as its level. -/
theorem levelPart_of_noEquals {text : List Char} (noEquals : '=' ∉ text) :
    levelPart text = trim text := by
  rw [levelPart, Text.splitAt_of_not_mem noEquals]
  rfl

/-- What counts as the level stands behind the last equals sign. -/
theorem levelPart_append (target : List Char) {text : List Char} (noEquals : '=' ∉ text) :
    levelPart (target ++ '=' :: text) = trim text := by
  rw [levelPart, Text.splitAt_append, Text.splitAt_of_not_mem noEquals, List.getLast?_append]
  rfl

/-- A text with an equals sign has a last one. -/
theorem exists_target {text : List Char} (equals : '=' ∈ text) :
    ∃ target rest, text = target ++ '=' :: rest ∧ '=' ∉ rest := by
  obtain ⟨rest, target, reversed, noEquals⟩ :=
    List.eq_append_cons_of_mem (List.mem_reverse.2 equals)
  refine ⟨target.reverse, rest.reverse, ?_, ?_⟩
  · rw [← List.reverse_reverse text, reversed]
    simp
  · rwa [List.mem_reverse]

/-- Behind an equals sign the name of a level is accepted, whatever the target is. -/
theorem acceptsDirective_append (target : List Char) {text : List Char} (noEquals : '=' ∉ text) :
    acceptsDirective (target ++ '=' :: text) = true ↔ NamesLevel text := by
  have equals : (target ++ '=' :: text).contains '=' = true := List.contains_iff_mem.2 (by simp)
  rw [acceptsDirective, levelPart_append target noEquals, equals, Bool.not_true, Bool.false_and,
    Bool.or_false, isLevel_trim_iff]

/-- Without an equals sign the name of a level is accepted, and what shows that it is a target. -/
theorem acceptsDirective_of_noEquals {text : List Char} (noEquals : '=' ∉ text) :
    acceptsDirective text = true ↔ NamesLevel text ∨ '_' ∈ text ∨ ':' ∈ text := by
  have underscore : '_' ∈ trim text ↔ '_' ∈ text := Text.mem_trim_iff (by decide) text
  have colon : ':' ∈ trim text ↔ ':' ∈ text := Text.mem_trim_iff (by decide) text
  simp only [acceptsDirective, levelPart_of_noEquals noEquals, Bool.or_eq_true, Bool.and_eq_true,
    Bool.not_eq_true', List.contains_iff_mem, ← Bool.not_eq_true, isLevel_trim_iff, underscore,
    colon, noEquals, not_false_eq_true, true_and]

/-- The directives that can be used are those that are written in one of the ways. -/
theorem acceptsDirective_iff (text : List Char) :
    acceptsDirective text = true ↔ Directive text := by
  constructor
  · intro accepted
    by_cases equals : '=' ∈ text
    · obtain ⟨target, rest, rfl, noEquals⟩ := exists_target equals
      exact .leveled target ((acceptsDirective_append target noEquals).1 accepted)
    · rcases (acceptsDirective_of_noEquals equals).1 accepted with names | shown
      · exact .level names
      · exact .target equals shown
  · intro directive
    cases directive with
    | level names => exact (acceptsDirective_of_noEquals names.noEquals).2 (.inl names)
    | leveled target names => exact (acceptsDirective_append target names.noEquals).2 names
    | target noEquals shown => exact (acceptsDirective_of_noEquals noEquals).2 (.inr shown)

/-- A blank text is no directive. -/
theorem acceptsDirective_of_isBlank {text : List Char} (allBlank : isBlank text = true) :
    acceptsDirective text = false := by
  have noEquals : '=' ∉ text := fun member =>
    absurd (List.all_eq_true.1 allBlank _ member) (by decide)
  have nothing : levelPart text = [] := by
    rw [levelPart_of_noEquals noEquals, Text.trim_eq_nil_iff, allBlank]
  have noLevel : isLevel [] = false := by decide
  simp [acceptsDirective, nothing, noLevel]

/-- A filter is accepted when all of its directives are. That it must not be blank follows. -/
theorem accepts_eq_all (filter : List Char) :
    accepts filter = (splitAt ',' filter).all acceptsDirective := by
  rw [accepts]
  cases allBlank : isBlank filter with
  | false => rfl
  | true =>
    have noComma : ',' ∉ filter := fun member =>
      absurd (List.all_eq_true.1 allBlank _ member) (by decide)
    rw [Text.splitAt_of_not_mem noComma, List.all_cons, acceptsDirective_of_isBlank allBlank]
    rfl

end LogFilter

open LogFilter (Directive acceptsDirective)

/-- Filters are joined with a comma. -/
theorem isLogFilter_append (left right : String) :
    isLogFilter (left ++ "," ++ right) = (isLogFilter left && isLogFilter right) := by
  have joined : (left ++ "," ++ right).toList = left.toList ++ ',' :: right.toList := by simp
  simp only [isLogFilter, LogFilter.accepts_eq_all, joined, Text.splitAt_append, List.all_append]

/-- A filter without a comma is a single directive. -/
theorem isLogFilter_of_single {text : String} (single : ',' ∉ text.toList) :
    isLogFilter text = acceptsDirective text.toList := by
  rw [isLogFilter, LogFilter.accepts_eq_all, Text.splitAt_of_not_mem single, List.all_cons,
    List.all_nil, Bool.and_true]

/-- The directives of a filter are filters of their own. -/
theorem isLogFilter_iff_forall (text : String) :
    isLogFilter text = true ↔ ∀ directive ∈ splitText ',' text, isLogFilter directive = true := by
  have alone : ∀ part ∈ Text.splitAt ',' text.toList,
      isLogFilter (String.ofList part) = acceptsDirective part := by
    intro part member
    have single : ',' ∉ (String.ofList part).toList := by
      rw [String.toList_ofList]
      exact Text.not_mem_of_mem_splitAt ',' text.toList part member
    rw [isLogFilter_of_single single, String.toList_ofList]
  rw [isLogFilter, LogFilter.accepts_eq_all, List.all_eq_true, splitText, List.forall_mem_map]
  exact forall₂_congr fun part member => by rw [alone part member]

/-- A blank text is no filter. -/
theorem isLogFilter_of_blank {text : String} (isBlank : blank text = true) :
    isLogFilter text = false := by
  have allBlank : Text.isBlank text.toList = true := isBlank
  rw [isLogFilter, LogFilter.accepts, allBlank]
  rfl

/-- A filter is accepted directive by directive. Two filters joined with a comma are accepted
together just when each of them is, and a filter just when each of its directives would be
accepted alone, that is, when it is written in one of the ways. So a blank directive refuses the
whole filter, and filters with the same directives, in any order and number, are accepted or
refused alike. -/
theorem isLogFilter_by_directives :
    (∀ left right, isLogFilter (left ++ "," ++ right) = true ↔
      isLogFilter left = true ∧ isLogFilter right = true) ∧
    (∀ text, isLogFilter text = true ↔
      ∀ directive ∈ splitText ',' text, isLogFilter directive = true) ∧
    (∀ text : String, ',' ∉ text.toList → (isLogFilter text = true ↔ Directive text.toList)) ∧
    (∀ text, ∀ directive ∈ splitText ',' text, blank directive = true →
      isLogFilter text = false) ∧
    ∀ text other, (∀ directive, directive ∈ splitText ',' text ↔ directive ∈ splitText ',' other) →
      isLogFilter text = isLogFilter other := by
  refine ⟨?_, isLogFilter_iff_forall, ?_, ?_, ?_⟩
  · intro left right
    rw [isLogFilter_append, Bool.and_eq_true]
  · intro text single
    rw [isLogFilter_of_single single, LogFilter.acceptsDirective_iff]
  · intro text directive member isBlank
    rw [Bool.eq_false_iff]
    intro accepted
    have alone := (isLogFilter_iff_forall text).1 accepted directive member
    exact Bool.false_ne_true ((isLogFilter_of_blank isBlank).symm.trans alone)
  · intro text other same
    rw [Bool.eq_iff_iff, isLogFilter_iff_forall, isLogFilter_iff_forall]
    exact forall_congr' fun directive => imp_congr_left (same directive)

/-- A directive whose target holds an equals sign and whose level is padded, a bare target and a
level in mixed case; the same directives in another order, one of them twice; and a filter with a
blank directive. -/
theorem isLogFilter_by_directives_mixed :
    let text := "app=x=\u2003Warn ,log_file,oFF"
    let other := "oFF,app=x=\u2003Warn ,oFF,log_file"
    isLogFilter (text ++ "," ++ other) = true ∧
    (',' ∉ "app=x=\u2003Warn ".toList ∧ Directive "app=x=\u2003Warn ".toList) ∧
    ((∀ directive, directive ∈ splitText ',' text ↔ directive ∈ splitText ',' other) ∧
      isLogFilter text = isLogFilter other) ∧
    ("\u3000" ∈ splitText ',' "info,\u3000" ∧ blank "\u3000" = true ∧
      isLogFilter "info,\u3000" = false) := by
  intro text other
  have parts : splitText ',' text = ["app=x=\u2003Warn ", "log_file", "oFF"] ∧
      splitText ',' other = ["oFF", "app=x=\u2003Warn ", "oFF", "log_file"] := by decide +kernel
  have same : ∀ directive, directive ∈ splitText ',' text ↔ directive ∈ splitText ',' other := by
    intro directive
    rw [parts.1, parts.2]
    simp only [List.mem_cons, List.not_mem_nil, or_false]
    tauto
  have accepted : isLogFilter text = true := by decide +kernel
  have first : isLogFilter "app=x=\u2003Warn " = true := by decide +kernel
  have single : ',' ∉ "app=x=\u2003Warn ".toList := by decide +kernel
  have listed : "\u3000" ∈ splitText ',' "info,\u3000" := by decide +kernel
  have wide : blank "\u3000" = true := by decide +kernel
  obtain ⟨joined, -, alone, refused, alike⟩ := isLogFilter_by_directives
  have both : isLogFilter text = isLogFilter other := alike text other same
  exact ⟨(joined text other).2 ⟨accepted, both ▸ accepted⟩, ⟨single, (alone _ single).1 first⟩,
    ⟨same, both⟩, listed, wide, refused _ _ listed wide⟩

end Phrasebook
