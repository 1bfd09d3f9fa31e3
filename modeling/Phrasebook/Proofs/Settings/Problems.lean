import Mathlib.Data.Finset.Card
import Mathlib.Data.List.Induction
import Phrasebook.Proofs.Settings.Checked

/-!
# What the check reports

The check accepts settings when none of its rules is broken. Otherwise it reports every broken
rule, in the order of the rules, and none of them hides another one. The rules about single
languages may be broken at many places of the list. They are reported place by place: a blank
language as blank and nothing else, and any other language as a duplicate of an earlier one.

The list of languages is gone through once with the languages that have been passed. So the
arguments are by induction on the list from its end: one more language adds what is wrong with
it, and nothing changes at the places before it.
-/

namespace Phrasebook

/-- Whether a problem is that of a language that stands in the list twice. -/
def SettingsProblem.isDuplicate : SettingsProblem → Bool
  | .duplicateLanguage _ => true
  | _ => false

namespace LanguageSettings

/-- What is wrong with the language at a place of a list. -/
inductive Faulty (languages : List String) (place : Nat) : SettingsProblem → Prop where
  /-- It is blank. -/
  | blank {language : String} (here : languages[place]? = some language)
      (isBlank : blank language = true) : Faulty languages place .blankLanguage
  /-- It is not blank, and the same language stands at an earlier place. -/
  | duplicate {language : String} {earlier : Nat} (here : languages[place]? = some language)
      (notBlank : Phrasebook.blank language = false) (before : earlier < place)
      (there : languages[earlier]? = some language) :
      Faulty languages place (.duplicateLanguage language)

/-- Whether problems with their places are all that is wrong with the languages of a list. -/
structure FaultListing (languages : List String) (faults : List (Nat × SettingsProblem)) :
    Prop where
  /-- What is wrong at a place is listed, and nothing else is. -/
  complete : ∀ place problem, (place, problem) ∈ faults ↔ Faulty languages place problem
  /-- The places are in their order, and none is listed twice. -/
  ascending : (faults.map Prod.fst).Pairwise (· < ·)

/-- There is one way to list what is wrong with the languages. -/
theorem FaultListing.unique {languages : List String} {first second : List (Nat × SettingsProblem)}
    (listing : FaultListing languages first) (other : FaultListing languages second) :
    first = second := by
  have firstAscending := List.pairwise_map.1 listing.ascending
  have secondAscending := List.pairwise_map.1 other.ascending
  have nodup : ∀ {faults : List (Nat × SettingsProblem)},
      faults.Pairwise (fun left right => left.1 < right.1) → faults.Nodup := by
    intro faults ascending
    exact ascending.imp fun before same => Nat.ne_of_lt before (congrArg Prod.fst same)
  have sameMembers : ∀ fault, fault ∈ first ↔ fault ∈ second := by
    rintro ⟨place, problem⟩
    exact (listing.complete place problem).trans (other.complete place problem).symm
  refine List.Perm.eq_of_pairwise ?_ firstAscending secondAscending
    ((List.perm_ext_iff_of_nodup (nodup firstAscending) (nodup secondAscending)).2 sameMembers)
  intro left right _ _ before after
  exact absurd before (Nat.lt_asymm after)

/-- The languages can be gone through in two parts. -/
theorem tagProblems_append (earlier first second : List String) :
    tagProblems earlier (first ++ second) =
      tagProblems earlier first ++ tagProblems (first.reverse ++ earlier) second := by
  induction first generalizing earlier with
  | nil => rfl
  | cons language rest inductionHypothesis =>
    simp only [List.cons_append, tagProblems, inductionHypothesis, List.reverse_cons,
      List.append_assoc, List.nil_append]

/-- What is wrong with a language that follows some others. -/
def problemsAfter (passed : List String) (language : String) : List SettingsProblem :=
  if blank language then [.blankLanguage]
  else if language ∈ passed then [.duplicateLanguage language] else []

theorem mem_problemsAfter_iff (passed : List String) (language : String)
    (problem : SettingsProblem) :
    problem ∈ problemsAfter passed language ↔
      blank language = true ∧ problem = .blankLanguage ∨
        blank language = false ∧ language ∈ passed ∧ problem = .duplicateLanguage language := by
  rw [problemsAfter]
  split_ifs with isBlank member <;> simp_all

/-- One more language adds what is wrong with it. -/
theorem tagProblems_concat (passed : List String) (language : String) :
    tagProblems [] (passed ++ [language]) =
      tagProblems [] passed ++ problemsAfter passed language := by
  rw [tagProblems_append]
  simp [tagProblems, problemsAfter]

/-- What is wrong is wrong at a place of the list. -/
theorem Faulty.place_lt {languages : List String} {place : Nat} {problem : SettingsProblem}
    (faulty : Faulty languages place problem) : place < languages.length := by
  cases faulty with
  | blank here _ => exact (List.getElem?_eq_some_iff.1 here).1
  | duplicate here _ _ _ => exact (List.getElem?_eq_some_iff.1 here).1

/-- One more language changes nothing at the earlier places, and it may be wrong itself. -/
theorem faulty_concat_iff (passed : List String) (language : String) (place : Nat)
    (problem : SettingsProblem) :
    Faulty (passed ++ [language]) place problem ↔
      Faulty passed place problem ∨
        place = passed.length ∧ problem ∈ problemsAfter passed language := by
  -- A place of the longer list is one of the shorter list, or the last one.
  have entry : ∀ (place : Nat) (other : String), (passed ++ [language])[place]? = some other ↔
      passed[place]? = some other ∨ place = passed.length ∧ language = other := by
    intro place other
    rcases Nat.lt_trichotomy place passed.length with inside | rfl | outside
    · simp [List.getElem?_append_left inside, Nat.ne_of_lt inside]
    · simp
    · rw [List.getElem?_eq_none (by simp; omega), List.getElem?_eq_none (by omega)]
      simp [Nat.ne_of_gt outside]
  rw [mem_problemsAfter_iff]
  constructor
  · intro faulty
    have bound : place < (passed ++ [language]).length := faulty.place_lt
    rw [List.length_append, List.length_singleton] at bound
    cases faulty with
    | blank here isBlank =>
      rcases (entry _ _).1 here with earlier | ⟨last, rfl⟩
      · exact .inl (.blank earlier isBlank)
      · exact .inr ⟨last, .inl ⟨isBlank, rfl⟩⟩
    | duplicate here notBlank before there =>
      rcases (entry _ _).1 there with first | ⟨last, -⟩
      · rcases (entry _ _).1 here with second | ⟨last, rfl⟩
        · exact .inl (.duplicate second notBlank before first)
        · exact .inr ⟨last, .inr ⟨notBlank, List.mem_iff_getElem?.2 ⟨_, first⟩, rfl⟩⟩
      · omega
  · rintro (faulty | ⟨rfl, ⟨isBlank, rfl⟩ | ⟨notBlank, member, rfl⟩⟩)
    · cases faulty with
      | blank here isBlank => exact .blank ((entry _ _).2 (.inl here)) isBlank
      | duplicate here notBlank before there =>
        exact .duplicate ((entry _ _).2 (.inl here)) notBlank before ((entry _ _).2 (.inl there))
    · exact .blank ((entry _ _).2 (.inr ⟨rfl, rfl⟩)) isBlank
    · obtain ⟨earlier, there⟩ := List.mem_iff_getElem?.1 member
      have before : earlier < passed.length := (List.getElem?_eq_some_iff.1 there).1
      exact .duplicate ((entry _ _).2 (.inr ⟨rfl, rfl⟩)) notBlank before
        ((entry _ _).2 (.inl there))

/-- The listing of one more language. -/
theorem FaultListing.concat {passed : List String} {faults : List (Nat × SettingsProblem)}
    (listing : FaultListing passed faults) (language : String) :
    FaultListing (passed ++ [language])
      (faults ++ (problemsAfter passed language).map (passed.length, ·)) where
  complete place problem := by
    rw [List.mem_append, listing.complete, faulty_concat_iff]
    simp [and_comm, eq_comm]
  ascending := by
    rw [List.map_append, List.pairwise_append]
    refine ⟨listing.ascending, ?_, ?_⟩
    · rw [problemsAfter]
      split_ifs <;> simp
    · intro place isPlace last isLast
      obtain ⟨⟨_, problem⟩, listed, rfl⟩ := List.mem_map.1 isPlace
      obtain ⟨_, added, rfl⟩ := List.mem_map.1 isLast
      obtain ⟨_, -, rfl⟩ := List.mem_map.1 added
      exact ((listing.complete _ _).1 listed).place_lt

/-- Going through the languages finds what is wrong with them, place by place. -/
theorem exists_faultListing (languages : List String) :
    ∃ faults, FaultListing languages faults ∧
      tagProblems [] languages = faults.map Prod.snd := by
  induction languages using List.reverseRecOn with
  | nil =>
    refine ⟨[], ⟨?_, List.Pairwise.nil⟩, rfl⟩
    intro place problem
    exact ⟨nofun, fun faulty => absurd faulty.place_lt (Nat.not_lt_zero place)⟩
  | append_singleton passed language inductionHypothesis =>
    obtain ⟨faults, listing, same⟩ := inductionHypothesis
    refine ⟨_, listing.concat language, ?_⟩
    rw [tagProblems_concat, same, List.map_append, List.map_map]
    simp [Function.comp_def]

/-- The languages of a list that are not blank. -/
def named (languages : List String) : List String :=
  languages.filter fun language => !blank language

/-- Of the languages that are not blank, all but the first of each are reported as duplicates. -/
theorem countP_isDuplicate_tagProblems (languages : List String) :
    (tagProblems [] languages).countP SettingsProblem.isDuplicate +
      (named languages).dedup.length = (named languages).length := by
  rw [← List.card_toFinset]
  induction languages using List.reverseRecOn with
  | nil => rfl
  | append_singleton passed language inductionHypothesis =>
    rw [tagProblems_concat, List.countP_append, problemsAfter]
    by_cases isBlank : blank language = true
    · simpa [named, isBlank, SettingsProblem.isDuplicate] using inductionHypothesis
    · have grown : named (passed ++ [language]) = named passed ++ [language] := by
        simp [named, isBlank]
      have listed : language ∈ named passed ↔ language ∈ passed := by
        simp [named, isBlank]
      rw [grown, List.toFinset_append, List.length_append, if_neg isBlank]
      by_cases member : language ∈ passed
      · have old : language ∈ (named passed).toFinset := List.mem_toFinset.2 (listed.2 member)
        simp [member, old, SettingsProblem.isDuplicate]
        omega
      · have new : language ∉ (named passed).toFinset := fun old =>
          member (listed.1 (List.mem_toFinset.1 old))
        simp [member, new]
        omega

end LanguageSettings

/-- Whether problems are those of a single rule: the one problem when it is broken, else none. -/
structure OneIf (broken : Prop) (problem : SettingsProblem) (problems : List SettingsProblem) :
    Prop where
  /-- A broken rule is reported. -/
  reported : broken → problems = [problem]
  /-- A rule that is kept is not mentioned. -/
  silent : ¬ broken → problems = []

namespace OneIf

variable {broken : Prop} {problem : SettingsProblem} {problems : List SettingsProblem}

/-- A test that decides the rule reports it. -/
theorem of_test {test : Bool} (decides : test = true ↔ broken) (problem : SettingsProblem) :
    OneIf broken problem (if test then [problem] else []) where
  reported isBroken := if_pos (decides.2 isBroken)
  silent isKept := if_neg fun isBroken => isKept (decides.1 isBroken)

theorem unique {others : List SettingsProblem} (one : OneIf broken problem problems)
    (other : OneIf broken problem others) : problems = others := by
  by_cases isBroken : broken
  · rw [one.reported isBroken, other.reported isBroken]
  · rw [one.silent isBroken, other.silent isBroken]

theorem mem_iff (one : OneIf broken problem problems) (other : SettingsProblem) :
    other ∈ problems ↔ broken ∧ other = problem := by
  by_cases isBroken : broken
  · simp [one.reported isBroken, isBroken]
  · simp [one.silent isBroken, isBroken]

/-- A rule that is not about duplicates reports none. -/
theorem countP_eq_zero (one : OneIf broken problem problems)
    (other : problem.isDuplicate = false) : problems.countP SettingsProblem.isDuplicate = 0 := by
  rw [List.countP_eq_zero]
  intro reported member
  obtain ⟨-, rfl⟩ := (one.mem_iff reported).1 member
  simp [other]

end OneIf

namespace LanguageSettings

/-- The default language is reported when there are languages without it. -/
theorem oneIf_defaultProblems (languages : LanguageSettings) :
    OneIf (languages.supported ≠ [] ∧ languages.defaultLanguage ∉ languages.supported)
      (.unsupportedDefault languages.defaultLanguage) languages.defaultProblems where
  reported broken := by
    simp [defaultProblems, broken]
  silent kept := by
    have covered : languages.supported.isEmpty = true ∨
        languages.supported.contains languages.defaultLanguage = true := by
      simpa [or_iff_not_imp_left] using kept
    rw [defaultProblems, if_pos (Bool.or_eq_true_iff.2 covered)]

/-- The place of the templates is reported when it is a directory without a name. -/
theorem oneIf_storeProblems (languages : LanguageSettings) :
    OneIf (languages.store = .files "") .emptyDirectory languages.storeProblems := by
  rw [storeProblems]
  cases languages.store with
  | files directory => exact .of_test (by simp) .emptyDirectory
  | inline catalog => exact ⟨nofun, fun _ => rfl⟩

end LanguageSettings

/-- The log filter is reported when it can not be used. -/
theorem LogSettings.oneIf_problems (log : LogSettings) :
    OneIf (isLogFilter log.filter = false) (.unknownLevel log.filter) log.problems := by
  rw [problems]
  cases usable : isLogFilter log.filter with
  | false => exact ⟨fun _ => rfl, fun kept => absurd rfl kept⟩
  | true => exact ⟨nofun, fun _ => rfl⟩

namespace Settings

open LanguageSettings (Faulty FaultListing named)

/-- Whether settings can be used. -/
structure Sound (settings : Settings) : Prop where
  /-- There is a language. -/
  nonempty : settings.languages.supported ≠ []
  /-- No language is blank. -/
  notBlank : ∀ language ∈ settings.languages.supported, blank language = false
  /-- No language stands in the list twice. -/
  distinct : settings.languages.supported.Nodup
  /-- The default language is one of them. -/
  listed : settings.languages.defaultLanguage ∈ settings.languages.supported
  /-- If there are files, their directory has a name. -/
  directory : settings.languages.store ≠ .files ""
  /-- The log filter can be used. -/
  filter : isLogFilter settings.log.filter = true

/-- Which rules are broken, each with the problem that it stands for. -/
inductive Breaks (settings : Settings) : SettingsProblem → Prop where
  /-- There is no language. -/
  | noLanguages (empty : settings.languages.supported = []) : Breaks settings .noLanguages
  /-- Something is wrong with a language of the list. -/
  | language {place : Nat} {problem : SettingsProblem}
      (faulty : Faulty settings.languages.supported place problem) : Breaks settings problem
  /-- There are languages, but the default language is not one of them. -/
  | unsupportedDefault (nonempty : settings.languages.supported ≠ [])
      (outside : settings.languages.defaultLanguage ∉ settings.languages.supported) :
      Breaks settings (.unsupportedDefault settings.languages.defaultLanguage)
  /-- The directory of the files has no name. -/
  | emptyDirectory (stored : settings.languages.store = .files "") : Breaks settings .emptyDirectory
  /-- The log filter can not be used. -/
  | unknownLevel (unusable : isLogFilter settings.log.filter = false) :
      Breaks settings (.unknownLevel settings.log.filter)

/-- Whether problems are a report on settings: rule by rule, and for the rules about single
languages place by place. -/
inductive Reported (settings : Settings) : List SettingsProblem → Prop where
  /-- The parts of the report in their order. -/
  | inOrder {first : List SettingsProblem} {faults : List (Nat × SettingsProblem)}
      {third fourth fifth : List SettingsProblem}
      (noLanguages : OneIf (settings.languages.supported = []) .noLanguages first)
      (languages : FaultListing settings.languages.supported faults)
      (unsupportedDefault : OneIf
        (settings.languages.supported ≠ [] ∧
          settings.languages.defaultLanguage ∉ settings.languages.supported)
        (.unsupportedDefault settings.languages.defaultLanguage) third)
      (emptyDirectory : OneIf (settings.languages.store = .files "") .emptyDirectory fourth)
      (unknownLevel : OneIf (isLogFilter settings.log.filter = false)
        (.unknownLevel settings.log.filter) fifth) :
      Reported settings (first ++ faults.map Prod.snd ++ third ++ fourth ++ fifth)

/-- There is one report on settings. -/
theorem Reported.unique {settings : Settings} {problems others : List SettingsProblem}
    (report : Reported settings problems) (other : Reported settings others) :
    problems = others := by
  obtain ⟨noLanguages, languages, unsupportedDefault, emptyDirectory, unknownLevel⟩ := report
  obtain ⟨noLanguages', languages', unsupportedDefault', emptyDirectory', unknownLevel'⟩ := other
  rw [noLanguages.unique noLanguages', languages.unique languages',
    unsupportedDefault.unique unsupportedDefault', emptyDirectory.unique emptyDirectory',
    unknownLevel.unique unknownLevel']

/-- The report mentions all that is broken and nothing else. -/
theorem Reported.mem_iff {settings : Settings} {problems : List SettingsProblem}
    (report : Reported settings problems) (problem : SettingsProblem) :
    problem ∈ problems ↔ Breaks settings problem := by
  obtain ⟨noLanguages, languages, unsupportedDefault, emptyDirectory, unknownLevel⟩ := report
  simp only [List.mem_append, noLanguages.mem_iff, unsupportedDefault.mem_iff,
    emptyDirectory.mem_iff, unknownLevel.mem_iff]
  constructor
  · rintro ((((⟨empty, rfl⟩ | listed) | ⟨⟨nonempty, outside⟩, rfl⟩) | ⟨stored, rfl⟩) |
      ⟨unusable, rfl⟩)
    · exact .noLanguages empty
    · obtain ⟨⟨place, listedProblem⟩, fault, rfl⟩ := List.mem_map.1 listed
      exact .language ((languages.complete place listedProblem).1 fault)
    · exact .unsupportedDefault nonempty outside
    · exact .emptyDirectory stored
    · exact .unknownLevel unusable
  · intro breaks
    cases breaks with
    | noLanguages empty => simp [empty]
    | language faulty =>
      have fault := (languages.complete _ _).2 faulty
      exact .inl (.inl (.inl (.inr (List.mem_map.2 ⟨_, fault, rfl⟩))))
    | unsupportedDefault nonempty outside => simp [nonempty, outside]
    | emptyDirectory stored => simp [stored]
    | unknownLevel unusable => simp [unusable]

/-- Languages are reported when there are none. -/
theorem oneIf_noLanguages (languages : List String) :
    OneIf (languages = []) .noLanguages (if languages.isEmpty then [.noLanguages] else []) :=
  .of_test List.isEmpty_iff .noLanguages

/-- Going through the rules makes the report. -/
theorem reported_problems (settings : Settings) : Reported settings settings.problems := by
  obtain ⟨faults, listing, same⟩ :=
    LanguageSettings.exists_faultListing settings.languages.supported
  rw [problems, LanguageSettings.problems, same]
  exact .inOrder (oneIf_noLanguages _) listing settings.languages.oneIf_defaultProblems
    settings.languages.oneIf_storeProblems settings.log.oneIf_problems

/-- Of the languages that are not blank, all but the first of each are reported as duplicates. -/
theorem countP_isDuplicate_problems (settings : Settings) :
    settings.problems.countP SettingsProblem.isDuplicate +
      (named settings.languages.supported).dedup.length =
        (named settings.languages.supported).length := by
  rw [← LanguageSettings.countP_isDuplicate_tagProblems settings.languages.supported, problems,
    LanguageSettings.problems]
  simp only [List.countP_append, (oneIf_noLanguages _).countP_eq_zero rfl,
    settings.languages.oneIf_defaultProblems.countP_eq_zero rfl,
    settings.languages.oneIf_storeProblems.countP_eq_zero rfl,
    settings.log.oneIf_problems.countP_eq_zero rfl, Nat.zero_add, Nat.add_zero]

/-- Settings are sound when no rule is broken. -/
theorem sound_iff (settings : Settings) :
    Sound settings ↔ ∀ problem, ¬ Breaks settings problem := by
  constructor
  · intro sound problem breaks
    cases breaks with
    | noLanguages empty => exact sound.nonempty empty
    | language faulty =>
      cases faulty with
      | blank here isBlank =>
        have notBlank := sound.notBlank _ (List.mem_of_getElem? here)
        exact Bool.false_ne_true (notBlank.symm.trans isBlank)
      | duplicate here _ before there =>
        have bound := (List.getElem?_eq_some_iff.1 here).1
        exact List.nodup_iff_getElem?_ne_getElem?.1 sound.distinct _ _ before bound
          (there.trans here.symm)
    | unsupportedDefault _ outside => exact outside sound.listed
    | emptyDirectory stored => exact sound.directory stored
    | unknownLevel unusable => exact Bool.false_ne_true (unusable.symm.trans sound.filter)
  · intro clear
    have nonempty : settings.languages.supported ≠ [] := fun empty => clear _ (.noLanguages empty)
    have notBlank : ∀ language ∈ settings.languages.supported, blank language = false := by
      intro language member
      obtain ⟨place, here⟩ := List.mem_iff_getElem?.1 member
      cases isBlank : blank language with
      | false => rfl
      | true => exact absurd (.language (.blank here isBlank)) (clear _)
    refine ⟨nonempty, notBlank, ?_, ?_, ?_, ?_⟩
    · rw [List.nodup_iff_getElem?_ne_getElem?]
      intro earlier place before bound same
      have here := List.getElem?_eq_getElem bound
      have notBlank := notBlank _ (List.getElem_mem bound)
      exact clear _ (.language (.duplicate here notBlank before (same.trans here)))
    · by_contra outside
      exact clear _ (.unsupportedDefault nonempty outside)
    · intro stored
      exact clear _ (.emptyDirectory stored)
    · cases usable : isLogFilter settings.log.filter with
      | true => rfl
      | false => exact absurd (.unknownLevel usable) (clear _)

/-- Nothing is reported on sound settings, and something on all others. -/
theorem problems_eq_nil_iff (settings : Settings) : settings.problems = [] ↔ Sound settings := by
  rw [sound_iff, List.eq_nil_iff_forall_not_mem]
  exact forall_congr' fun problem => not_congr ((reported_problems settings).mem_iff problem)

/-- Settings that have passed the check are sound. -/
theorem sound_of_check {settings : Settings} (checked : settings.check = .ok ()) :
    Sound settings :=
  (problems_eq_nil_iff settings).1 (check_eq_ok_iff.1 checked)

/-- The default language of checked settings is supported, and so there is a language. -/
theorem default_mem_of_check {settings : Settings} (checked : settings.check = .ok ()) :
    settings.languages.defaultLanguage ∈ settings.languages.supported :=
  (sound_of_check checked).listed

/-- No language of checked settings stands in the list twice. -/
theorem nodup_of_check {settings : Settings} (checked : settings.check = .ok ()) :
    settings.languages.supported.Nodup :=
  (sound_of_check checked).distinct

/-- The check accepts sound settings only. Otherwise it makes the one report on the settings,
which mentions all that is broken and nothing else, and of the languages that are not blank all
but the first of each as duplicates. -/
theorem check_report (settings : Settings) :
    (settings.check = .ok () ↔ Sound settings) ∧
    (∀ failure, settings.check = .error failure ↔
      ¬ Sound settings ∧ failure = .invalid settings.problems) ∧
    (∀ problems, Reported settings problems ↔ problems = settings.problems) ∧
    (∀ problem, problem ∈ settings.problems ↔ Breaks settings problem) ∧
    settings.problems.countP SettingsProblem.isDuplicate +
      (named settings.languages.supported).dedup.length =
        (named settings.languages.supported).length := by
  have report := reported_problems settings
  have clear := problems_eq_nil_iff settings
  refine ⟨check_eq_ok_iff.trans clear, ?_, ?_, report.mem_iff,
    countP_isDuplicate_problems settings⟩
  · intro failure
    rw [← clear, check]
    cases settings.problems <;> simp [eq_comm]
  · intro problems
    constructor
    · exact fun other => other.unique report
    · rintro rfl
      exact report

example :
    let settings : Settings :=
      { languages :=
          { supported := ["en", " ", "de", "en", "", "en"], defaultLanguage := "fr",
            store := .files "" },
        log := { filter := "loud" } }
    settings.problems =
      [.blankLanguage, .duplicateLanguage "en", .blankLanguage, .duplicateLanguage "en",
        .unsupportedDefault "fr", .emptyDirectory, .unknownLevel "loud"] := by
  decide +kernel

end Settings

end Phrasebook
