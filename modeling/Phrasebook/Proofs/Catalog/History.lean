import Mathlib.Data.Finset.Card
import Phrasebook.Proofs.Catalog.Languages

/-!
# What a history of writes leaves

A catalog is written template by template or language by language. Whatever the history of these
writes, a key has the template that was written last, or the one that it had before the history
when nothing was written for it. A language is present when it was so before or is named by a
write, be it without templates, and its size is the number of its keys that have a template. What
a catalog answers about a language depends on the writes that name this language, and on no other.

Each write adds its entries to those of one language. So a history adds to a language all entries
that are written for it, in their order, and the rest follows from what a dictionary makes of
entries that are inserted one after the other.
-/

namespace Phrasebook.Catalog

/-- A write to a catalog. -/
inductive Write where
  /-- One template, by itself or in a chain of writes. -/
  | single (language key template : String)
  /-- The templates of a language by key, in their order. There may be none. -/
  | batch (language : String) (entries : List (String × String))

namespace Write

/-- The language that a write names. -/
def language : Write → String
  | .single language _ _ => language
  | .batch language _ => language

/-- The templates that a write brings by key, in their order. -/
def entries : Write → List (String × String)
  | .single _ key template => [(key, template)]
  | .batch _ entries => entries

end Write

/-- The catalog after a write. -/
def write (catalog : Catalog) : Write → Catalog
  | .single language key template => catalog.insert language key template
  | .batch language entries => catalog.withLanguage language entries

/-- The catalog after a history of writes. -/
def replay (catalog : Catalog) (history : List Write) : Catalog := history.foldl write catalog

/-- The templates that a history writes, each with its language and its key, in their order. -/
def written (history : List Write) : List (String × String × String) :=
  history.flatMap fun write => write.entries.map fun entry => (write.language, entry)

/-- Whether a history writes a template for a key of a language and none after it. -/
def LastWritten (history : List Write) (language key template : String) : Prop :=
  ∃ earlier later, written history = earlier ++ (language, key, template) :: later ∧
    ∀ other, (language, key, other) ∉ later

/-- Whether a history writes no template for a key of a language. -/
def Unwritten (history : List Write) (language key : String) : Prop :=
  ∀ template, (language, key, template) ∉ written history

/-- Whether two catalogs answer alike about a language. -/
structure Alike (language : String) (first second : Catalog) : Prop where
  /-- The keys have the same templates. -/
  lookup : first.lookup language = second.lookup language
  /-- The language is present in both or in none. -/
  hasLanguage : first.hasLanguage language = second.hasLanguage language
  /-- There are as many keys. -/
  sizeOf : first.sizeOf language = second.sizeOf language

theorem alike_of_get? {language : String} {first second : Catalog}
    (same : first.languages.get? language = second.languages.get? language) :
    Alike language first second where
  lookup := by
    funext key
    rw [Catalog.lookup, Catalog.lookup, same]
  hasLanguage := by
    rw [Catalog.hasLanguage, Catalog.hasLanguage, Dictionary.contains, Dictionary.contains, same]
  sizeOf := by
    rw [Catalog.sizeOf, Catalog.sizeOf, entriesOf, entriesOf, same]

/-- A write adds its entries to those of its language and leaves all other languages alone. -/
theorem get?_write (catalog : Catalog) (write : Write) (language : String) :
    (catalog.write write).languages.get? language =
      if language = write.language then
        some ((catalog.entriesOf language).insertAll write.entries)
      else catalog.languages.get? language := by
  have step : catalog.write write = catalog.withLanguage write.language write.entries := by
    cases write with
    | single language key template => exact insert_eq_withLanguage catalog language key template
    | batch language entries => rfl
  rw [step, withLanguage, Dictionary.get?_insert]
  by_cases same : language = write.language
  · rw [if_pos same, if_pos same, same]
  · rw [if_neg same, if_neg same]

/-- The entries of a language after a write. -/
theorem entriesOf_write (catalog : Catalog) (write : Write) (language : String) :
    (catalog.write write).entriesOf language =
      if language = write.language then (catalog.entriesOf language).insertAll write.entries
      else catalog.entriesOf language := by
  rw [entriesOf, get?_write]
  by_cases same : language = write.language
  · rw [if_pos same, if_pos same, Option.getD_some]
  · rw [if_neg same, if_neg same, entriesOf]

/-- Without the writes that name other languages, a history makes the same of a language. -/
theorem get?_replay_filter (language : String) (history : List Write) {first second : Catalog}
    (same : first.languages.get? language = second.languages.get? language) :
    (first.replay history).languages.get? language =
      (second.replay (history.filter fun write => write.language = language)).languages.get?
        language := by
  induction history generalizing first second with
  | nil => exact same
  | cons write rest inductionHypothesis =>
    by_cases named : write.language = language
    · rw [List.filter_cons_of_pos (by simpa using named)]
      apply inductionHypothesis
      rw [get?_write, get?_write, entriesOf, entriesOf, same]
    · rw [List.filter_cons_of_neg (by simpa using named)]
      apply inductionHypothesis
      rw [get?_write, if_neg (Ne.symm named), same]

/-- The entries among those of a history that belong to a language. -/
def ownEntries (language : String) (writes : List (String × String × String)) :
    List (String × String) :=
  writes.filterMap fun entry => if entry.1 = language then some entry.2 else none

theorem mem_ownEntries_iff (language key template : String)
    (writes : List (String × String × String)) :
    (key, template) ∈ ownEntries language writes ↔ (language, key, template) ∈ writes := by
  simp [ownEntries]

/-- A write brings all of its entries to its language, and none to another one. -/
theorem ownEntries_written_cons (language : String) (write : Write) (rest : List Write) :
    ownEntries language (written (write :: rest)) =
      (if language = write.language then write.entries else []) ++
        ownEntries language (written rest) := by
  rw [written, List.flatMap_cons, ownEntries, List.filterMap_append, List.filterMap_map]
  by_cases same : language = write.language
  · simp [same, ownEntries, written]
  · simp [same, Ne.symm same, ownEntries, written]

/-- A history adds to a language the entries that it writes for it. -/
theorem entriesOf_replay (catalog : Catalog) (history : List Write) (language : String) :
    (catalog.replay history).entriesOf language =
      (catalog.entriesOf language).insertAll (ownEntries language (written history)) := by
  induction history generalizing catalog with
  | nil => rfl
  | cons write rest inductionHypothesis =>
    have step : ((catalog.write write).replay rest).entriesOf language = _ := inductionHypothesis _
    rw [entriesOf_write] at step
    rw [ownEntries_written_cons]
    by_cases same : language = write.language
    · rw [if_pos same] at step ⊢
      rw [Dictionary.insertAll_append]
      exact step
    · rw [if_neg same] at step ⊢
      exact step

theorem hasLanguage_write_iff (catalog : Catalog) (write : Write) (language : String) :
    (catalog.write write).hasLanguage language = true ↔
      catalog.hasLanguage language = true ∨ write.language = language := by
  rw [hasLanguage, Dictionary.contains, get?_write]
  by_cases same : language = write.language
  · simp [same]
  · rw [if_neg same, or_iff_left (Ne.symm same), hasLanguage, Dictionary.contains]

/-- A language is present when it was before, or when a write names it. -/
theorem hasLanguage_replay_iff (catalog : Catalog) (history : List Write) (language : String) :
    (catalog.replay history).hasLanguage language = true ↔
      catalog.hasLanguage language = true ∨ ∃ write ∈ history, write.language = language := by
  induction history generalizing catalog with
  | nil => simp [replay]
  | cons write rest inductionHypothesis =>
    have step : ((catalog.write write).replay rest).hasLanguage language = true ↔ _ :=
      inductionHypothesis _
    rw [hasLanguage_write_iff, or_assoc] at step
    rw [List.exists_mem_cons_iff]
    exact step

/-- A key has the template of the last entry of its language. -/
theorem lookup_eq (catalog : Catalog) (language key : String) :
    catalog.lookup language key = (catalog.entriesOf language).get? key := by
  rw [lookup, entriesOf]
  cases catalog.languages.get? language <;> rfl

theorem lookup_replay_of_lastWritten (catalog : Catalog) {history : List Write}
    {language key template : String} (last : LastWritten history language key template) :
    (catalog.replay history).lookup language key = some template := by
  obtain ⟨earlier, later, split, none⟩ := last
  have own : ownEntries language (written history) =
      ownEntries language earlier ++ (key, template) :: ownEntries language later := by
    rw [split]
    simp [ownEntries]
  have absent : key ∉ (ownEntries language later).map Prod.fst := by
    intro member
    obtain ⟨⟨_, other⟩, found, rfl⟩ := List.mem_map.1 member
    exact none other ((mem_ownEntries_iff _ _ _ _).1 found)
  rw [lookup_eq, entriesOf_replay, own]
  exact Dictionary.get?_insertAll_of_last _ _ template absent

theorem lookup_replay_of_unwritten (catalog : Catalog) {history : List Write}
    {language key : String} (unwritten : Unwritten history language key) :
    (catalog.replay history).lookup language key = catalog.lookup language key := by
  have absent : key ∉ (ownEntries language (written history)).map Prod.fst := by
    intro member
    obtain ⟨⟨_, template⟩, found, rfl⟩ := List.mem_map.1 member
    exact unwritten template ((mem_ownEntries_iff _ _ _ _).1 found)
  rw [lookup_eq, lookup_eq, entriesOf_replay, Dictionary.get?_insertAll_of_not_mem _ absent]

/-- What is written at all is written for the last time somewhere. -/
theorem unwritten_or_lastWritten (history : List Write) (language key : String) :
    Unwritten history language key ∨ ∃ template, LastWritten history language key template := by
  cases found : (written history).reverse.find?
      (fun entry => entry.1 = language ∧ entry.2.1 = key) with
  | none =>
    rw [List.find?_eq_none] at found
    refine .inl fun template member => ?_
    exact found _ (List.mem_reverse.2 member) (by simp)
  | some entry =>
    obtain ⟨isKey, later, earlier, split, others⟩ := List.find?_eq_some_iff_append.1 found
    obtain ⟨entryLanguage, entryKey, template⟩ := entry
    obtain ⟨rfl, rfl⟩ := of_decide_eq_true isKey
    refine .inr ⟨template, earlier.reverse, later.reverse, ?_, ?_⟩
    · simpa using congrArg List.reverse split
    · intro other member
      simpa using others _ (List.mem_reverse.1 member)

/-- A key has the template that was written last, or else the one that it had. -/
theorem lookup_replay_eq_some_iff (catalog : Catalog) (history : List Write)
    (language key template : String) :
    (catalog.replay history).lookup language key = some template ↔
      LastWritten history language key template ∨
        Unwritten history language key ∧ catalog.lookup language key = some template := by
  constructor
  · intro found
    rcases unwritten_or_lastWritten history language key with unwritten | ⟨other, last⟩
    · rw [lookup_replay_of_unwritten catalog unwritten] at found
      exact .inr ⟨unwritten, found⟩
    · rw [lookup_replay_of_lastWritten catalog last] at found
      cases found
      exact .inl last
  · rintro (last | ⟨unwritten, before⟩)
    · exact lookup_replay_of_lastWritten catalog last
    · rw [lookup_replay_of_unwritten catalog unwritten, before]

/-- The languages of a catalog are listed once each. -/
theorem sortedLanguages_exact (catalog : Catalog) :
    catalog.sortedLanguages.Nodup ∧
      ∀ language, language ∈ catalog.sortedLanguages ↔ catalog.hasLanguage language = true := by
  have sorted : catalog.sortedLanguages.Perm catalog.languages.names := List.mergeSort_perm _ _
  constructor
  · exact sorted.nodup_iff.2 catalog.languages.distinct
  · intro language
    rw [sorted.mem_iff, hasLanguage, Dictionary.contains_iff_mem_names]

/-- The size of a language is the number of its keys that have a template. -/
theorem sizeOf_eq_card (catalog : Catalog) (language : String) :
    ∃ keys : Finset String,
      (∀ key, key ∈ keys ↔ (catalog.lookup language key).isSome = true) ∧
        catalog.sizeOf language = keys.card := by
  refine ⟨(catalog.entriesOf language).names.toFinset, ?_, ?_⟩
  · intro key
    rw [List.mem_toFinset, lookup_eq, ← Dictionary.contains_iff_mem_names, Dictionary.contains]
  · rw [Dictionary.names, List.toFinset_card_of_nodup (catalog.entriesOf language).distinct,
      List.length_map, sizeOf, Dictionary.size]

/-- After a history of writes a key has the template that was written last, or else the one that
it had before. The languages are those from before and those that a write names, and the size of
each is the number of its keys with a template. Writes that name other languages can be left out
without a change for a language. -/
theorem replay_exact (initial : Catalog) (history : List Write) :
    (∀ language key template, (initial.replay history).lookup language key = some template ↔
      LastWritten history language key template ∨
        Unwritten history language key ∧ initial.lookup language key = some template) ∧
    (∀ language, (initial.replay history).hasLanguage language = true ↔
      initial.hasLanguage language = true ∨ ∃ write ∈ history, write.language = language) ∧
    ((initial.replay history).sortedLanguages.Nodup ∧
      ∀ language, language ∈ (initial.replay history).sortedLanguages ↔
        (initial.replay history).hasLanguage language = true) ∧
    (∀ language, ∃ keys : Finset String,
      (∀ key, key ∈ keys ↔ ((initial.replay history).lookup language key).isSome = true) ∧
        (initial.replay history).sizeOf language = keys.card) ∧
    ∀ language, Alike language (initial.replay history)
      (initial.replay (history.filter fun write => write.language = language)) := by
  refine ⟨lookup_replay_eq_some_iff initial history, hasLanguage_replay_iff initial history,
    sortedLanguages_exact _, sizeOf_eq_card _, ?_⟩
  intro language
  exact alike_of_get? (get?_replay_filter language history rfl)

/-- A batch that repeats a key, a language without templates, and a template that replaces one
from before. -/
example :
    let catalog := (ofLists [("en", [("open", "Open"), ("save", "Save")])]).replay [
      .batch "de" [("open", "Offen"), ("open", "Öffnen")], .batch "fr" [],
      .single "en" "save" "Store"]
    catalog.lookup "de" "open" = some "Öffnen" ∧ catalog.lookup "en" "save" = some "Store" ∧
      catalog.lookup "en" "open" = some "Open" ∧ catalog.sizeOf "de" = 1 ∧
      catalog.hasLanguage "fr" = true ∧ catalog.sizeOf "fr" = 0 := by
  decide +kernel

end Phrasebook.Catalog
