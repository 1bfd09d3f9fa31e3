import Mathlib
import Phrasebook.Proofs.Catalog.Languages
import Phrasebook.Proofs.Resource.Loading
import Phrasebook.Proofs.Settings.Problems

/-!
# Setting up the languages

Settings that have passed the check can only fail to be set up for want of templates. With
templates in the settings themselves, every supported language must be written there, be it
without entries. With a file for each language, every file must be one that can be used; a source
that has been loaded from files has all languages. The first language in the order of the
settings that lacks what it needs is the one that is reported.
-/

namespace Phrasebook

open Steps (FirstLacking DecidedBy)

namespace Resolver

variable {supported : List String} {defaultLanguage : String} {source : Source}

theorem isEmpty_of_listed (listed : defaultLanguage ∈ supported) : supported.isEmpty = false :=
  List.isEmpty_eq_false_iff.2 (List.ne_nil_of_mem listed)

/-- A resolver can be built over a source that has all languages. -/
theorem build_of_all (listed : defaultLanguage ∈ supported)
    (all : ∀ language ∈ supported, source.hasLanguage language = true) :
    build supported defaultLanguage source =
      .ok ⟨supported, defaultLanguage, source, listed⟩ := by
  have none : supported.find? (fun language => !source.hasLanguage language) = none := by
    simpa using all
  simp [build, isEmpty_of_listed listed, listed, none]

/-- The first language that the source does not have is reported. -/
theorem build_of_firstLacking (listed : defaultLanguage ∈ supported) {language : String}
    (first : FirstLacking (source.hasLanguage · = true) supported language) :
    build supported defaultLanguage source = .error (.missingLanguageData language) := by
  obtain ⟨earlier, later, split, before, lacks⟩ := first
  have found : supported.find? (fun language => !source.hasLanguage language) = some language := by
    rw [List.find?_eq_some_iff_append]
    exact ⟨by simpa using lacks, earlier, later, split, by simpa using before⟩
  simp [build, isEmpty_of_listed listed, listed, found]

end Resolver

namespace LanguageSettings

variable {access : FileAccess} {settings : LanguageSettings} {source : Source}

/-- With its source at hand, a localizer is set up as its resolver is built. -/
theorem localizer_of_source (given : settings.source access = .ok source) :
    settings.localizer access = Localizer.base <$>
      (Resolver.build settings.supported settings.defaultLanguage source).mapError .setup := by
  rw [localizer, given]
  rfl

/-- A localizer is set up over a source that has all languages. -/
theorem localizer_of_all (listed : settings.defaultLanguage ∈ settings.supported)
    (given : settings.source access = .ok source)
    (all : ∀ language ∈ settings.supported, source.hasLanguage language = true) :
    settings.localizer access =
      .ok (.base ⟨settings.supported, settings.defaultLanguage, source, listed⟩) := by
  rw [localizer_of_source given, Resolver.build_of_all listed all]
  rfl

/-- Templates in the settings are written anew, which changes no answer about them. -/
theorem source_inline {catalog : Catalog} (stored : settings.store = .inline catalog) :
    settings.source access = .ok catalog.toSource := by
  rw [LanguageSettings.source, stored]
  exact congrArg Except.ok catalog.toSource_ofLists

/-- Templates in the settings are enough when all languages are among them. -/
theorem localizer_inline {catalog : Catalog}
    (listed : settings.defaultLanguage ∈ settings.supported)
    (stored : settings.store = .inline catalog) :
    DecidedBy (settings.localizer access) settings.supported (· ∈ catalog.languages.names)
      fun language failure => failure = .setup (.missingLanguageData language) := by
  have given : settings.source access = .ok catalog.toSource := source_inline stored
  have present : (· ∈ catalog.languages.names) = (catalog.toSource.hasLanguage · = true) :=
    funext fun language => propext (catalog.languages.contains_iff_mem_names language).symm
  rw [present]
  refine Steps.decidedBy_of_cases ?_ ?_ ?_
  · intro all
    exact ⟨_, localizer_of_all listed given all⟩
  · intro language _
    exact ⟨_, rfl⟩
  · rintro language first failure rfl
    rw [localizer_of_source given, Resolver.build_of_firstLacking listed first]
    rfl

/-- A source that has been loaded from files has all languages. -/
theorem source_of_holds {directory : String} {tables : String → Toml.Table}
    (stored : settings.store = .files directory)
    (hold : ∀ language ∈ settings.supported,
      Resource.Holds access (Resource.path directory language) (tables language)) :
    settings.source access = .ok (Resource.catalogOf tables settings.supported).toSource := by
  simp only [LanguageSettings.source, stored, Resource.load_of_holds hold]

/-- The catalog of tables has all languages that it was made for. -/
theorem hasLanguage_catalogOf (tables : String → Toml.Table) (languages : List String) :
    ∀ language ∈ languages,
      (Resource.catalogOf tables languages).toSource.hasLanguage language = true :=
  fun language => (Resource.hasLanguage_catalogOf_iff tables languages language).2

/-- A localizer is set up over files that can be used. -/
theorem localizer_of_holds {directory : String} {tables : String → Toml.Table}
    (listed : settings.defaultLanguage ∈ settings.supported)
    (stored : settings.store = .files directory)
    (hold : ∀ language ∈ settings.supported,
      Resource.Holds access (Resource.path directory language) (tables language)) :
    settings.localizer access = .ok (.base ⟨settings.supported, settings.defaultLanguage,
      (Resource.catalogOf tables settings.supported).toSource, listed⟩) :=
  localizer_of_all listed (source_of_holds stored hold) (hasLanguage_catalogOf tables _)

/-- Files for the languages are enough when all of them can be used. -/
theorem localizer_files {directory : String}
    (listed : settings.defaultLanguage ∈ settings.supported)
    (stored : settings.store = .files directory) :
    DecidedBy (settings.localizer access) settings.supported (Resource.Usable access directory)
      fun language failure => ∃ fault,
        Resource.Fault access (Resource.path directory language) fault ∧
          failure = .resource fault := by
  refine Steps.decidedBy_of_cases ?_ ?_ ?_
  · intro usable
    choose! tables hold using usable
    exact ⟨_, localizer_of_holds listed stored hold⟩
  · intro language unusable
    rcases Resource.holds_or_fault access (Resource.path directory language) with
      usable | ⟨fault, isFault⟩
    · exact absurd usable unusable
    · exact ⟨_, fault, isFault, rfl⟩
  · rintro language first failure ⟨fault, isFault, rfl⟩
    have refused : settings.source access = .error (.resource fault) := by
      simp only [LanguageSettings.source, stored, Resource.load_of_fault first isFault]
    rw [localizer, refused]
    rfl

/-- With a default language that is supported, setting up can only fail over templates in the
settings that lack a language. -/
theorem inline_of_setup_failure {reason : SetupFailure}
    (listed : settings.defaultLanguage ∈ settings.supported)
    (failed : settings.localizer access = .error (.setup reason)) :
    (∃ catalog, settings.store = .inline catalog) ∧
      ∃ language, reason = .missingLanguageData language := by
  cases stored : settings.store with
  | inline catalog =>
    obtain ⟨language, -, same⟩ := ((localizer_inline listed stored).2 _).1 failed
    cases same
    exact ⟨⟨catalog, rfl⟩, language, rfl⟩
  | files directory =>
    obtain ⟨_, -, _, -, same⟩ := ((localizer_files listed stored).2 _).1 failed
    cases same

end LanguageSettings

namespace Settings

/-- Settings that come out of loading or of replacing the log filter have passed the check, and
settings that have passed it are set up unless templates of a supported language are missing.
The first language that lacks them is reported. -/
theorem setup_of_check (access : FileAccess) :
    (∀ environment path settings, loadFile access environment path = .ok settings →
      settings.check = .ok ()) ∧
    (∀ environment settings, load access environment = .ok settings → settings.check = .ok ()) ∧
    (∀ settings filter, (refilter filter settings).2 = .ok () →
      (refilter filter settings).1.check = .ok ()) ∧
    ∀ settings : Settings, settings.check = .ok () →
      settings.languages.localizer access ≠ .error (.setup .noSupportedLanguages) ∧
      (∀ language, settings.languages.localizer access ≠
        .error (.setup (.defaultLanguageNotSupported language))) ∧
      (∀ catalog, settings.languages.store = .inline catalog →
        DecidedBy (settings.languages.localizer access) settings.languages.supported
          (· ∈ catalog.languages.names)
          fun language failure => failure = .setup (.missingLanguageData language)) ∧
      ∀ directory, settings.languages.store = .files directory →
        (∀ language, settings.languages.localizer access ≠
          .error (.setup (.missingLanguageData language))) ∧
        DecidedBy (settings.languages.localizer access) settings.languages.supported
          (Resource.Usable access directory)
          fun language failure => ∃ fault,
            Resource.Fault access (Resource.path directory language) fault ∧
              failure = .resource fault := by
  refine ⟨fun _ _ _ => check_of_loadFile, fun _ _ => check_of_load, fun _ _ => id, ?_⟩
  intro settings checked
  have listed := default_mem_of_check checked
  refine ⟨fun failed => ?_, fun language failed => ?_, fun catalog stored => ?_,
    fun directory stored => ⟨fun language failed => ?_, ?_⟩⟩
  · obtain ⟨-, _, same⟩ := LanguageSettings.inline_of_setup_failure listed failed
    cases same
  · obtain ⟨-, _, same⟩ := LanguageSettings.inline_of_setup_failure listed failed
    cases same
  · exact LanguageSettings.localizer_inline listed stored
  · obtain ⟨⟨catalog, inline⟩, -⟩ := LanguageSettings.inline_of_setup_failure listed failed
    rw [stored] at inline
    cases inline
  · exact LanguageSettings.localizer_files listed stored

/-- Two languages, of which only the first one has templates that can be used. -/
theorem setup_of_check_partial :
    let access := FileAccess.ofReadings [
      ("settings.yaml", .ok
        "localization:\n  supported_languages: [en, de]\n  default_language: en\n"),
      ("locales/en.toml", .ok "[menu]\nopen = \"Open\"\n"),
      ("locales/de.toml", .ok "[menu]\nopen = true\n")]
    let languages : LanguageSettings := { supported := ["en", "de"], defaultLanguage := "en" }
    let catalog := Catalog.ofLists [("en", [])]
    (∃ settings, loadFile access (fun _ => none) "settings.yaml" = .ok settings ∧
      settings.check = .ok ()) ∧
    (∃ settings, load access (fun _ => none) = .ok settings ∧ settings.check = .ok ()) ∧
    (refilter "debug" { languages }).1.check = .ok () ∧
    { languages with store := .inline catalog }.localizer access =
      .error (.setup (.missingLanguageData "de")) ∧
    languages.localizer access =
      .error (.resource (.invalidValue "locales/de.toml" "menu.open")) := by
  intro access languages catalog
  have checked : Settings.check { languages } = .ok () := by decide +kernel
  have checkedInline : Settings.check { languages := { languages with store := .inline catalog } } =
      .ok () := by decide +kernel
  have usable : Resource.Usable access "locales" "en" :=
    ⟨[("menu", .table [("open", .text "Open")])],
      ⟨⟨"[menu]\nopen = \"Open\"\n", by decide +kernel, by cbv⟩, by decide +kernel⟩⟩
  have parsed : Toml.parse "[menu]\nopen = true\n" =
      some [("menu", .table [("open", .scalar .boolean)])] := by cbv
  have fault : Resource.Fault access (Resource.path "locales" "de")
      (.invalidValue (Resource.path "locales" "de") "menu.open") :=
    .invalidValue (by decide +kernel) parsed ⟨[], [], rfl, by simp, by decide +kernel⟩
  obtain ⟨fromFile, found, refiltered, sound⟩ := setup_of_check access
  refine ⟨?_, ?_, refiltered { languages } "debug" (by decide +kernel), ?_, ?_⟩
  · cases loaded : loadFile access (fun _ => none) "settings.yaml" with
    | ok settings => exact ⟨settings, rfl, fromFile _ _ _ loaded⟩
    | error failure =>
      have isOk : (loadFile access (fun _ => none) "settings.yaml").isOk = true := by cbv
      rw [loaded] at isOk
      cases isOk
  · cases loaded : load access (fun _ => none) with
    | ok settings => exact ⟨settings, rfl, found _ _ loaded⟩
    | error failure =>
      have isOk : (load access (fun _ => none)).isOk = true := by decide +kernel
      rw [loaded] at isOk
      cases isOk
  · obtain ⟨-, -, inline, -⟩ := sound _ checkedInline
    refine ((inline catalog rfl).2 _).2 ⟨"de", ⟨["en"], [], rfl, ?_, ?_⟩, rfl⟩
    · decide +kernel
    · decide +kernel
  · obtain ⟨-, -, -, files⟩ := sound _ checked
    refine ((files "locales" rfl).2.2 _).2 ⟨"de", ⟨["en"], [], rfl, by simpa using usable, ?_⟩, ?_⟩
    · rintro ⟨table, holds⟩
      exact fault.not_holds ⟨table, holds⟩
    · exact ⟨_, fault, by decide +kernel⟩

end Settings

end Phrasebook
