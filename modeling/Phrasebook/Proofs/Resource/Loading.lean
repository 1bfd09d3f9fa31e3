import Phrasebook.Proofs.Catalog.Entries
import Phrasebook.Proofs.Resource.Leaves

/-!
# Loading the files of several languages

The files of several languages are loaded when each of them can be used. The catalog then has
just these languages, each with the entries of its own file. Otherwise the first language in the
list whose file can not be used is reported, and it does not matter what comes behind it.
-/

namespace Phrasebook.Resource

open Steps (FirstLacking)
open Toml (Table)

variable {access : FileAccess} {directory : String} {languages : List String}

/-- Whether the file of a language can be used. -/
def Usable (access : FileAccess) (directory language : String) : Prop :=
  ∃ table, Holds access (path directory language) table

/-- The catalog in which each language has the entries of its table. -/
def catalogOf (tables : String → Table) (languages : List String) : Catalog :=
  languages.foldl (fun catalog language =>
    catalog.setLanguage language (.ofList (entries (tables language)))) .empty

/-- Files that can be used give the catalog of their tables. -/
theorem load_of_holds {tables : String → Table}
    (hold : ∀ language ∈ languages, Holds access (path directory language) (tables language)) :
    load access directory languages = .ok (catalogOf tables languages) := by
  refine Steps.foldlM_eq_ok (fun catalog language listed => ?_) Catalog.empty
  rw [loadFile_of_holds (hold language listed)]
  rfl

/-- Files are loaded when all of them can be used. -/
theorem exists_load_of_usable (usable : ∀ language ∈ languages, Usable access directory language) :
    ∃ catalog, load access directory languages = .ok catalog := by
  choose! tables hold using usable
  exact ⟨_, load_of_holds hold⟩

/-- The first language whose file can not be used is reported. -/
theorem load_of_fault {language : String} {failure : ResourceFailure}
    (first : FirstLacking (Usable access directory) languages language)
    (fault : Fault access (path directory language) failure) :
    load access directory languages = .error failure := by
  obtain ⟨earlier, later, rfl, usable, -⟩ := first
  choose! tables hold using usable
  have before : load access directory earlier = .ok (catalogOf tables earlier) :=
    load_of_holds hold
  rw [load] at before ⊢
  rw [List.foldlM_append, before, Steps.bind_eq_error_iff]
  refine .inr ⟨_, rfl, ?_⟩
  rw [List.foldlM_cons, loadFile_of_fault fault]
  rfl

/-- A catalog that has been loaded is that of the tables in the files, all of which can be
used. -/
theorem load_eq_ok {catalog : Catalog} (loaded : load access directory languages = .ok catalog) :
    ∃ tables : String → Table,
      (∀ language ∈ languages, Holds access (path directory language) (tables language)) ∧
        catalog = catalogOf tables languages := by
  rcases Steps.all_or_firstLacking (Usable access directory) languages with
    usable | ⟨language, first⟩
  · choose! tables hold using usable
    refine ⟨tables, hold, ?_⟩
    rw [load_of_holds hold] at loaded
    cases loaded
    rfl
  · rcases holds_or_fault access (path directory language) with usable | ⟨failure, fault⟩
    · exact absurd usable first.mem.2
    · rw [load_of_fault first fault] at loaded
      cases loaded

/-- The catalog of tables has the languages it was made for, each with the entries of its
table. -/
theorem get?_catalogOf (tables : String → Table) (languages : List String) (language : String) :
    (catalogOf tables languages).languages.get? language =
      if language ∈ languages then some (.ofList (entries (tables language))) else none := by
  -- Later languages are written over what is there, so the loop may start from any catalog.
  have loop : ∀ start : Catalog, (languages.foldl (fun catalog language =>
      catalog.setLanguage language (.ofList (entries (tables language)))) start).languages.get?
        language = if language ∈ languages then some (.ofList (entries (tables language)))
          else start.languages.get? language := by
    induction languages with
    | nil => simp
    | cons first rest inductionHypothesis =>
      intro start
      rw [List.foldl_cons, inductionHypothesis, Catalog.setLanguage, Dictionary.get?_insert]
      by_cases same : language = first
      · simp [same]
      · simp [same]
  exact loop .empty

/-- The catalog of tables has just the languages that it was made for. -/
theorem hasLanguage_catalogOf_iff (tables : String → Table) (languages : List String)
    (language : String) :
    (catalogOf tables languages).hasLanguage language = true ↔ language ∈ languages := by
  rw [Catalog.hasLanguage, Dictionary.contains, get?_catalogOf]
  by_cases listed : language ∈ languages
  · simp [listed]
  · simp [listed]

end Phrasebook.Resource
