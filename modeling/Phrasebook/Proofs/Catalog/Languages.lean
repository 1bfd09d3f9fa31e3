import Phrasebook.Catalog
import Phrasebook.Proofs.Catalog.Entries

/-!
# Writing languages one after the other

A catalog that is made of lists has the languages of these lists, each with its entries. All that
a localizer sees of a catalog are the answers to its two questions, so a catalog may be written
anew, language by language and entry by entry.
-/

namespace Phrasebook

/-- A dictionary may be written anew from its entries. -/
theorem Dictionary.get?_ofList_entries {α : Type} (dictionary : Dictionary α) (name : String) :
    (ofList dictionary.entries).get? name = dictionary.get? name := by
  cases found : dictionary.get? name with
  | none => exact get?_insertAll_of_not_mem empty ((dictionary.get?_eq_none_iff name).1 found)
  | some value => exact get?_ofList_of_mem dictionary.distinct (mem_of_find? found)

/-- A dictionary gives its entries back. -/
theorem Dictionary.get?_eq_some_of_mem {α : Type} (dictionary : Dictionary α) {name : String}
    {value : α} (member : (name, value) ∈ dictionary.entries) :
    dictionary.get? name = some value := by
  rw [← get?_ofList_entries]
  exact get?_ofList_of_mem dictionary.distinct member

namespace Catalog

variable {languages : List String}

/-- Catalogs that have the same languages and the same templates answer alike. -/
theorem toSource_congr {first second : Catalog}
    (alike : ∀ language, (first.languages.get? language).map Dictionary.get? =
      (second.languages.get? language).map Dictionary.get?) : first.toSource = second.toSource := by
  have present : first.hasLanguage = second.hasLanguage := by
    funext language
    have both := congrArg Option.isSome (alike language)
    rwa [Option.isSome_map, Option.isSome_map] at both
  have templates : first.lookup = second.lookup := by
    funext language key
    have both := congrArg (Option.bind · (· key)) (alike language)
    rwa [Option.bind_map, Option.bind_map] at both
  rw [toSource, toSource, present, templates]

/-- Entries that are written language by language give each language its own. -/
theorem get?_ofLists (entries : String → List (String × String)) (different : languages.Nodup)
    (language : String) :
    (ofLists (languages.map fun language => (language, entries language))).languages.get? language =
      if language ∈ languages then some (.ofList (entries language)) else none := by
  -- The languages still to come are new to the catalog, so each of them starts without entries.
  have loop : ∀ start : Catalog, (∀ other ∈ languages, start.languages.get? other = none) →
      ((languages.map fun language => (language, entries language)).foldl
          (fun catalog entry => catalog.withLanguage entry.1 entry.2) start).languages.get?
        language = if language ∈ languages then some (.ofList (entries language))
          else start.languages.get? language := by
    induction languages with
    | nil => simp
    | cons first rest inductionHypothesis =>
      intro start new
      obtain ⟨firstNew, restDifferent⟩ := List.nodup_cons.1 different
      have step : ∀ other, (start.withLanguage first (entries first)).languages.get? other =
          if other = first then some (.ofList (entries first))
            else start.languages.get? other := by
        intro other
        rw [withLanguage, entriesOf, new first List.mem_cons_self, Dictionary.get?_insert]
        rfl
      rw [List.map_cons, List.foldl_cons, inductionHypothesis restDifferent, step]
      · by_cases same : language = first
        · simp [same, firstNew]
        · simp [same]
      · intro other member
        rw [step, if_neg fun same : other = first => firstNew (same ▸ member)]
        exact new other (List.mem_cons_of_mem first member)
  exact loop empty fun _ _ => rfl

/-- The lists of a catalog are those of its languages, one after the other. -/
theorem toLists_eq (catalog : Catalog) :
    catalog.toLists = catalog.languages.names.map fun language =>
      (language, (catalog.entriesOf language).entries) := by
  rw [toLists, Dictionary.names, List.map_map]
  refine List.map_congr_left fun entry member => ?_
  have found := catalog.languages.get?_eq_some_of_mem member
  simp [entriesOf, found]

/-- A catalog may be written anew from its lists. -/
theorem toSource_ofLists (catalog : Catalog) :
    (ofLists catalog.toLists).toSource = catalog.toSource := by
  rw [toLists_eq]
  have different : catalog.languages.names.Nodup := catalog.languages.distinct
  refine toSource_congr fun language => ?_
  rw [get?_ofLists (fun language => (catalog.entriesOf language).entries) different]
  cases found : catalog.languages.get? language with
  | none => rw [if_neg ((catalog.languages.get?_eq_none_iff language).1 found)]
  | some entries =>
    have present : language ∈ catalog.languages.names :=
      (catalog.languages.contains_iff_mem_names language).1 (Option.isSome_of_eq_some found)
    rw [if_pos present, entriesOf, found]
    exact congrArg some (funext entries.get?_ofList_entries)

end Catalog

end Phrasebook
