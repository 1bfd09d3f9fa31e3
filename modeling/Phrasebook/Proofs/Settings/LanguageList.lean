import Phrasebook.Proofs.Settings.Overriding
import Phrasebook.Proofs.Settings.Problems
import Phrasebook.Proofs.Text.Items

/-!
# The list of languages in a variable

A variable holds languages with commas between them. What it is read as is a normal form: a
language that comes out is not empty, holds no comma, and has no blank characters at its ends. A
text lists just these languages in this order when its items, cut at the commas, are the languages
with any blanks around them, and otherwise blank. So a list of such languages is read back from
its own text, and none of them is ever reported as blank.
-/

namespace Phrasebook.Environment

open Text (Bare)

/-- Whether a text can be listed as a language. -/
structure Listable (language : String) : Prop where
  /-- It is not empty. -/
  nonempty : language ≠ ""
  /-- It holds no comma. -/
  noComma : ',' ∉ language.toList
  /-- It has no blank characters at its ends. -/
  bare : Bare language.toList

/-- Whether the items of a text are languages in their order, with blanks around them and with
blank items in between. -/
inductive Lists : List String → List String → Prop where
  /-- No item lists no language. -/
  | nil : Lists [] []
  /-- A blank item does not count. -/
  | blank {item : String} {items languages : List String} (isBlank : blank item = true)
      (rest : Lists items languages) : Lists (item :: items) languages
  /-- Blanks around a language do not count. -/
  | language {before language after : String} {items languages : List String}
      (blankBefore : Phrasebook.blank before = true) (listable : Listable language)
      (blankAfter : Phrasebook.blank after = true) (rest : Lists items languages) :
      Lists ((before ++ language ++ after) :: items) (language :: languages)

/-- Blank texts hold no comma. -/
theorem comma_not_mem_of_blank {text : String} (isBlank : blank text = true) :
    ',' ∉ text.toList := by
  intro member
  have space := List.all_eq_true.1 isBlank ',' member
  exact absurd space (by decide)

/-- No item holds a comma. -/
theorem Lists.noComma {items languages : List String} (lists : Lists items languages) :
    ∀ item ∈ items, ',' ∉ item.toList := by
  induction lists with
  | nil => simp
  | blank isBlank _ inductionHypothesis =>
    exact List.forall_mem_cons.2 ⟨comma_not_mem_of_blank isBlank, inductionHypothesis⟩
  | language blankBefore listable blankAfter _ inductionHypothesis =>
    refine List.forall_mem_cons.2 ⟨?_, inductionHypothesis⟩
    simp only [String.toList_append, List.mem_append, not_or]
    exact ⟨⟨comma_not_mem_of_blank blankBefore, listable.noComma⟩,
      comma_not_mem_of_blank blankAfter⟩

/-- What an item without commas is trimmed to can be listed, unless nothing is left. -/
theorem listable_trimmed {item : String} (noComma : ',' ∉ item.toList)
    (notBlank : blank item = false) : Listable (trimmed item) := by
  obtain ⟨bare, before, after, -, -, split⟩ := (trimmed_eq_iff item _).1 rfl
  refine ⟨?_, ?_, bare⟩
  · rw [Ne, trimmed_eq_empty_iff, notBlank]
    exact Bool.false_ne_true
  · intro member
    apply noComma
    rw [split]
    simp [member]

/-- Items without commas list what is left of them after trimming. -/
theorem lists_iff {items : List String} (noComma : ∀ item ∈ items, ',' ∉ item.toList)
    (languages : List String) :
    Lists items languages ↔
      (items.map trimmed).filter (fun language => !language.isEmpty) = languages := by
  constructor
  · intro lists
    induction lists with
    | nil => rfl
    | blank isBlank _ inductionHypothesis =>
      have nothing := (trimmed_eq_empty_iff _).2 isBlank
      rw [List.map_cons, nothing]
      exact inductionHypothesis (List.forall_mem_cons.1 noComma).2
    | language blankBefore listable blankAfter _ inductionHypothesis =>
      have core := (trimmed_eq_iff _ _).2 ⟨listable.bare, _, _, blankBefore, blankAfter, rfl⟩
      rw [List.map_cons, core, List.filter_cons_of_pos (by simp [listable.nonempty]),
        inductionHypothesis (List.forall_mem_cons.1 noComma).2]
  · rintro rfl
    induction items with
    | nil => exact .nil
    | cons item rest inductionHypothesis =>
      obtain ⟨here, others⟩ := List.forall_mem_cons.1 noComma
      rw [List.map_cons]
      cases isBlank : blank item with
      | true =>
        rw [(trimmed_eq_empty_iff item).2 isBlank]
        exact .blank isBlank (inductionHypothesis others)
      | false =>
        have listable := listable_trimmed here isBlank
        obtain ⟨-, before, after, blankBefore, blankAfter, split⟩ := (trimmed_eq_iff item _).1 rfl
        rw [List.filter_cons_of_pos (by simp [listable.nonempty])]
        have lists := Lists.language blankBefore listable blankAfter (inductionHypothesis others)
        rwa [← split] at lists

/-- The items of a text hold no comma, and joined with commas they are the text. -/
theorem splitText_exact (text : String) :
    (∀ item ∈ splitText ',' text, ',' ∉ item.toList) ∧
      ",".intercalate (splitText ',' text) = text := by
  constructor
  · intro item member
    obtain ⟨part, isPart, rfl⟩ := List.mem_map.1 member
    rw [String.toList_ofList]
    exact Text.not_mem_of_mem_splitAt ',' text.toList part isPart
  · rw [splitText, Text.splitAt_eq_splitOn, ← String.toList_inj, String.toList_intercalate,
      List.map_map]
    simp [Function.comp_def, List.intercalate_splitOn]

/-- Items without commas are found again when they are joined. -/
theorem splitText_intercalate {items : List String} (nonempty : items ≠ [])
    (noComma : ∀ item ∈ items, ',' ∉ item.toList) :
    splitText ',' (",".intercalate items) = items := by
  have parts : (",".intercalate items).toList.splitOn ',' = items.map String.toList := by
    rw [String.toList_intercalate]
    exact List.splitOn_intercalate ',' (by simpa using noComma) (by simpa using nonempty)
  rw [splitText, Text.splitAt_eq_splitOn, parts, List.map_map]
  simp [Function.comp_def]

/-- A text is read as the languages that its items list. -/
theorem languages_eq_iff (text : String) (listed : List String) :
    languages text = listed ↔ ∃ items, text = ",".intercalate items ∧ Lists items listed := by
  constructor
  · intro read
    obtain ⟨noComma, joined⟩ := splitText_exact text
    exact ⟨splitText ',' text, joined.symm, (lists_iff noComma listed).2 read⟩
  · rintro ⟨items, rfl, lists⟩
    by_cases empty : items = []
    · subst empty
      cases lists
      decide +kernel
    · rw [languages, splitText_intercalate empty lists.noComma]
      exact (lists_iff lists.noComma listed).1 lists

/-- What can be listed is not blank. -/
theorem Listable.not_blank {language : String} (listable : Listable language) :
    blank language = false := by
  have same : trimmed language = language :=
    (trimmed_eq_iff language language).2 ⟨listable.bare, "", "", rfl, rfl, by simp⟩
  cases isBlank : blank language with
  | false => rfl
  | true =>
    apply absurd (same.symm.trans ((trimmed_eq_empty_iff language).2 isBlank))
    exact listable.nonempty

/-- Languages are listed by themselves. -/
theorem lists_self {listed : List String} (listable : ∀ language ∈ listed, Listable language) :
    Lists listed listed := by
  induction listed with
  | nil => exact .nil
  | cons language rest inductionHypothesis =>
    obtain ⟨here, others⟩ := List.forall_mem_cons.1 listable
    have lists : Lists (("" ++ language ++ "") :: rest) (language :: rest) :=
      .language rfl here rfl (inductionHypothesis others)
    rwa [String.empty_append, String.append_empty] at lists

/-- Nothing else is listed than what can be listed. -/
theorem Lists.listable {items listed : List String} (lists : Lists items listed) :
    ∀ language ∈ listed, Listable language := by
  induction lists with
  | nil => simp
  | blank _ _ inductionHypothesis => exact inductionHypothesis
  | language _ listable _ _ inductionHypothesis =>
    exact List.forall_mem_cons.2 ⟨listable, inductionHypothesis⟩

theorem listable_of_mem_languages (text : String) :
    ∀ language ∈ languages text, Listable language := by
  obtain ⟨items, -, lists⟩ := (languages_eq_iff text _).1 rfl
  exact lists.listable

/-- Languages that can be listed are read back. -/
theorem languages_intercalate {listed : List String}
    (listable : ∀ language ∈ listed, Listable language) :
    languages (",".intercalate listed) = listed :=
  (languages_eq_iff _ _).2 ⟨listed, rfl, lists_self listable⟩

/-- No language that a variable gives is reported as blank. -/
theorem blankLanguage_not_mem_problems {environment : Environment} {text : String}
    (set : environment languagesVariable = some text) (settings : Settings) :
    .blankLanguage ∉ (settings.adapt environment).1.problems := by
  have given := (settings.overridden_adapt environment).supported.taken _ ⟨text, set, rfl⟩
  intro reported
  have breaks := ((Settings.reported_problems _).mem_iff _).1 reported
  cases breaks with
  | language faulty =>
    cases faulty with
    | blank here isBlank =>
      rw [given] at here
      have listable := listable_of_mem_languages text _ (List.mem_of_getElem? here)
      exact Bool.false_ne_true (listable.not_blank.symm.trans isBlank)

/-- A text is read as the languages that its items list, in their order. All of them can be
listed, and what can be listed is read back, also from the text of what has been read. So no
language that a variable gives is reported as blank. -/
theorem languages_normal_form :
    (∀ text listed, languages text = listed ↔
      ∃ items, text = ",".intercalate items ∧ Lists items listed) ∧
    (∀ text, (∀ language ∈ languages text, Listable language) ∧
      languages (",".intercalate (languages text)) = languages text) ∧
    (∀ listed, (∀ language ∈ listed, Listable language) →
      languages (",".intercalate listed) = listed) ∧
    ∀ (environment : Environment) (text : String), environment languagesVariable = some text →
      ∀ settings : Settings,
        (settings.adapt environment).1.languages.supported = languages text ∧
        .blankLanguage ∉ (settings.adapt environment).1.problems := by
  refine ⟨languages_eq_iff, ?_, fun _ => languages_intercalate, ?_⟩
  · intro text
    have listable := listable_of_mem_languages text
    exact ⟨listable, languages_intercalate listable⟩
  · intro environment text set settings
    have overridden := settings.overridden_adapt environment
    exact ⟨overridden.supported.taken _ ⟨text, set, rfl⟩,
      blankLanguage_not_mem_problems set settings⟩

/-- A language is repeated, and there are wide blanks, blank items and a comma at the end. -/
theorem languages_normal_form_padded :
    let text := "\u2003de ,, en,\u3000,de,"
    let environment : Environment := fun name =>
      if name = languagesVariable then some text else none
    let start : Settings := { languages := { supported := ["", " "] } }
    languages text = ["de", "en", "de"] ∧
      languages (",".intercalate ["de", "en", "de"]) = ["de", "en", "de"] ∧
      environment languagesVariable = some text ∧
      (start.adapt environment).1.languages.supported = ["de", "en", "de"] ∧
      .blankLanguage ∈ start.problems ∧
      .blankLanguage ∉ (start.adapt environment).1.problems := by
  intro text environment start
  have german : Listable "de" :=
    ⟨by decide, by decide +kernel, by simp [Text.isSpace], by simp [Text.isSpace]⟩
  have english : Listable "en" :=
    ⟨by decide, by decide +kernel, by simp [Text.isSpace], by simp [Text.isSpace]⟩
  have wide : blank "\u2003" = true ∧ blank "\u3000" = true ∧ blank " " = true ∧
      blank "" = true := by
    decide +kernel
  obtain ⟨emSpace, ideographic, space, nothing⟩ := wide
  have set : environment languagesVariable = some text := by decide +kernel
  obtain ⟨reads, -, readsBack, overrides⟩ := languages_normal_form
  have read : languages text = ["de", "en", "de"] := by
    refine (reads _ _).2 ⟨["\u2003" ++ "de" ++ " ", "", " " ++ "en" ++ "", "\u3000",
      "" ++ "de" ++ "", ""], by decide +kernel, ?_⟩
    exact .language emSpace german space <| .blank nothing <| .language space english nothing <|
      .blank ideographic <| .language nothing german nothing <| .blank nothing .nil
  obtain ⟨given, silent⟩ := overrides environment text set start
  refine ⟨read, readsBack _ ?_, set, given.trans read, by decide +kernel, silent⟩
  simp [german, english]

end Phrasebook.Environment
