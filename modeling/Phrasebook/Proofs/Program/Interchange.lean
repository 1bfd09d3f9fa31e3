import Mathlib
import Phrasebook.Proofs.Catalog.Languages
import Phrasebook.Proofs.Program.Setup

/-!
# Templates from files and in the settings

Templates may be moved from files into the settings. When the files of all languages can be used,
settings with the entries of these files in their place are set up as well, and every command
shows the same or fails in the same way. It does not matter in which order languages and entries
stand there.
-/

namespace Phrasebook

open Toml (Table)

/-- Whether a catalog has just the given languages, each with the entries of its table in any
order. -/
def Catalog.Mirrors (tables : String → Table) (languages : List String) (catalog : Catalog) :
    Prop :=
  ∀ language, (catalog.languages.get? language).map Dictionary.get? =
    if language ∈ languages then
      some (Dictionary.ofList (Resource.entries (tables language))).get?
    else none

namespace Catalog

variable {tables : String → Table} {languages : List String}

/-- Entries that are written language by language are a mirror of their tables. -/
theorem mirrors_ofLists (different : languages.Nodup) :
    Mirrors tables languages
      (ofLists (languages.map fun language => (language, Resource.entries (tables language)))) := by
  intro language
  rw [get?_ofLists _ different]
  split_ifs <;> rfl

/-- A mirror of tables answers as the catalog that is loaded from them. -/
theorem Mirrors.toSource_eq {catalog : Catalog} (mirrors : Mirrors tables languages catalog) :
    catalog.toSource = (Resource.catalogOf tables languages).toSource := by
  refine toSource_congr fun language => ?_
  rw [mirrors language, Resource.get?_catalogOf]
  split_ifs <;> rfl

end Catalog

namespace Settings

/-- Templates in files can be moved into the settings. -/
theorem run_inline_eq_run_files {access : FileAccess} {settings : Settings} {directory : String}
    {loaded : Catalog} (checked : settings.check = .ok ())
    (stored : settings.languages.store = .files directory)
    (allLoad : Resource.load access directory settings.languages.supported = .ok loaded) :
    ∃ tables : String → Table,
      (∀ language ∈ settings.languages.supported,
        Resource.Holds access (Resource.path directory language) (tables language)) ∧
      Catalog.Mirrors tables settings.languages.supported
        (.ofLists (settings.languages.supported.map fun language =>
          (language, Resource.entries (tables language)))) ∧
      ∀ catalog, Catalog.Mirrors tables settings.languages.supported catalog →
        let inline := { settings.languages with store := .inline catalog }
        { settings with languages := inline }.check = .ok () ∧
        ∀ otherAccess, ∃ fromFiles fromInline,
          settings.languages.localizer access = .ok fromFiles ∧
          inline.localizer otherAccess = .ok fromInline ∧
          ∀ command, fromInline.run command = fromFiles.run command := by
  have listed := default_mem_of_check checked
  obtain ⟨tables, hold, -⟩ := Resource.load_eq_ok allLoad
  refine ⟨tables, hold, Catalog.mirrors_ofLists (nodup_of_check checked), ?_⟩
  intro catalog mirrors inline
  refine ⟨check_inline checked catalog, fun otherAccess => ?_⟩
  have inlineListed : inline.defaultLanguage ∈ inline.supported := listed
  have given : inline.source otherAccess =
      .ok (Resource.catalogOf tables settings.languages.supported).toSource := by
    rw [LanguageSettings.source_inline rfl, mirrors.toSource_eq]
  -- Both localizers are the same resolver over the same source.
  exact ⟨_, _, LanguageSettings.localizer_of_holds listed stored hold,
    LanguageSettings.localizer_of_all inlineListed given
      (LanguageSettings.hasLanguage_catalogOf tables _), fun _ => rfl⟩

/-- Two languages, one with a text in a table and one with an empty file. -/
theorem run_inline_eq_run_files_nested :
    let access := FileAccess.ofReadings [
      (Resource.path "locales" "en", .ok "[menu]\nopen = \"Open\"\n"),
      (Resource.path "locales" "de", .ok "")]
    let files : LanguageSettings := { supported := ["en", "de"], defaultLanguage := "en" }
    let catalog := Catalog.ofLists [("en", [("menu.open", "Open")]), ("de", [])]
    ∃ fromFiles fromInline, files.localizer access = .ok fromFiles ∧
      { files with store := .inline catalog }.localizer access = .ok fromInline ∧
      ∀ command, fromInline.run command = fromFiles.run command := by
  intro access files catalog
  have checked : Settings.check { languages := files } = .ok () := by decide +kernel
  have nested : Resource.Holds access (Resource.path "locales" "en")
      [("menu", .table [("open", .text "Open")])] :=
    ⟨⟨"[menu]\nopen = \"Open\"\n", by decide +kernel, by cbv⟩, by decide +kernel⟩
  have bare : Resource.Holds access (Resource.path "locales" "de") [] :=
    ⟨⟨"", by decide +kernel, by cbv⟩, by decide +kernel⟩
  have usable : ∀ language ∈ files.supported, Resource.Usable access "locales" language := by
    simp only [files, List.forall_mem_cons]
    exact ⟨⟨_, nested⟩, ⟨_, bare⟩, List.forall_mem_nil _⟩
  obtain ⟨loaded, allLoad⟩ := Resource.exists_load_of_usable usable
  obtain ⟨tables, hold, mirrors, same⟩ := run_inline_eq_run_files checked rfl allLoad
  simp only [files, List.map_cons, List.map_nil, (hold "en" (by decide)).unique nested,
    (hold "de" (by decide)).unique bare] at mirrors
  exact (same catalog mirrors).2 access

end Settings

end Phrasebook
