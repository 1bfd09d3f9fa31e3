import Mathlib
import Phrasebook.Proofs.Resource.Loading
import Phrasebook.Proofs.Resource.Paths

/-!
# What flattening keeps

A language that has been loaded has one key for each of the different ways in which the paths of
its leaves look with dots between the names. Under each of them stands the text of the last leaf
with that look, where tables are gone through in ascending order of names. So nothing is lost
just when no two paths look the same, and in particular when names hold no dots.

Of documents with leaves below a table with the empty name at the top level nothing is said.
-/

namespace Phrasebook.Resource

open Toml (Table Leaf)

variable {access : FileAccess} {directory language text : String} {languages : List String}
  {catalog : Catalog} {table : Table}

/-- A language that has been loaded has the entries of its table, all of whose leaves are
texts. -/
theorem get?_of_load (loaded : load access directory languages = .ok catalog)
    (listed : language ∈ languages) (read : access.read (path directory language) = .ok text)
    (parsed : Toml.parse text = some table) :
    (∀ leaf ∈ Table.leaves [] table, leaf.isText = true) ∧
      catalog.languages.get? language = some (.ofList (entries table)) := by
  obtain ⟨tables, hold, rfl⟩ := load_eq_ok loaded
  obtain ⟨⟨other, alsoRead, alsoParsed⟩, texts⟩ := hold language listed
  cases read.symm.trans alsoRead
  cases parsed.symm.trans alsoParsed
  exact ⟨texts, by rw [get?_catalogOf, if_pos listed]⟩

/-- The last of the leaves that look like it is found. -/
theorem get?_dotted (anchored : table.Anchored) {earlier later : List Leaf} {leaf : Leaf}
    (split : Table.leaves [] table = earlier ++ leaf :: later)
    (last : leaf.dotted ∉ later.map Leaf.dotted) :
    (Dictionary.ofList (entries table)).get? leaf.dotted = some leaf.text := by
  rw [entries_eq_map_dotted anchored, split, List.map_append, List.map_cons]
  refine Dictionary.get?_insertAll_of_last .empty _ leaf.text ?_
  simpa [Function.comp_def] using last

/-- A table has as many keys as its leaves have paths that look different. -/
theorem size_entries (anchored : table.Anchored) :
    (Dictionary.ofList (entries table)).size =
      ((Table.leaves [] table).map Leaf.dotted).dedup.length := by
  rw [Dictionary.size_ofList, entries_eq_map_dotted anchored, List.map_map]
  rfl

/-- Nothing but what looks the same is lost by flattening. -/
theorem lookup_dotted (loaded : load access directory languages = .ok catalog)
    (listed : language ∈ languages) (read : access.read (path directory language) = .ok text)
    (parsed : Toml.parse text = some table) (anchored : table.Anchored) :
    let leaves := Table.leaves [] table
    (∀ leaf ∈ leaves, leaf.isText = true) ∧
    catalog.sizeOf language = (leaves.map Leaf.dotted).dedup.length ∧
    (∀ earlier leaf later, leaves = earlier ++ leaf :: later →
      leaf.dotted ∉ later.map Leaf.dotted →
        catalog.lookup language leaf.dotted = some leaf.text) ∧
    (catalog.sizeOf language = leaves.length ↔ (leaves.map Leaf.dotted).Nodup) ∧
    ((leaves.map Leaf.dotted).Nodup →
      ∀ leaf ∈ leaves, catalog.lookup language leaf.dotted = some leaf.text) ∧
    ((∀ leaf ∈ leaves, ∀ name ∈ leaf.path, '.' ∉ name.toList) →
      (leaves.map Leaf.dotted).Nodup) := by
  intro leaves
  obtain ⟨texts, stored⟩ := get?_of_load loaded listed read parsed
  have size : catalog.sizeOf language = (leaves.map Leaf.dotted).dedup.length := by
    rw [Catalog.sizeOf, Catalog.entriesOf, stored]
    exact size_entries anchored
  have found : ∀ earlier leaf later, leaves = earlier ++ leaf :: later →
      leaf.dotted ∉ later.map Leaf.dotted →
        catalog.lookup language leaf.dotted = some leaf.text := by
    intro earlier leaf later split last
    rw [Catalog.lookup, stored]
    exact get?_dotted anchored split last
  refine ⟨texts, size, found, ?_, fun different leaf member => ?_,
    Table.nodup_dotted (Toml.parse_ascending parsed)⟩
  · rw [size, ← List.dedup_eq_self, ← List.length_map Leaf.dotted]
    exact ⟨(List.dedup_sublist _).eq_of_length, congrArg List.length⟩
  · obtain ⟨earlier, later, split⟩ := List.append_of_mem member
    refine found earlier leaf later split ?_
    rw [split, List.map_append, List.map_cons, List.nodup_append, List.nodup_cons] at different
    exact different.2.1.1

/-- A language whose file is the only one there is gets the entries of its table. -/
theorem load_only (directory language : String) (parsed : Toml.parse text = some table)
    (texts : ∀ leaf ∈ Table.leaves [] table, leaf.isText = true) :
    load (.ofReadings [(path directory language, .ok text)]) directory [language] =
      .ok (catalogOf (fun _ => table) [language]) :=
  load_of_holds fun other member => by
    cases List.mem_singleton.1 member
    exact ⟨⟨text, by simp [FileAccess.ofReadings], parsed⟩, texts⟩

/-- A file with a table in a table keeps its three texts. -/
theorem lookup_dotted_nested :
    let text :=
      "[menu]\nopen = \"Open\"\n[menu.file]\nsave = \"Save\"\n[title]\nmain = \"Main\"\n"
    ∃ catalog, load (.ofReadings [(path "locales" "en", .ok text)]) "locales" ["en"] = .ok catalog ∧
      catalog.sizeOf "en" = 3 ∧ catalog.lookup "en" "menu.file.save" = some "Save" := by
  have parsed : Toml.parse
      "[menu]\nopen = \"Open\"\n[menu.file]\nsave = \"Save\"\n[title]\nmain = \"Main\"\n" =
        some [("menu", .table [("file", .table [("save", .text "Save")]), ("open", .text "Open")]),
          ("title", .table [("main", .text "Main")])] := by cbv
  have loaded := load_only "locales" "en" parsed (by decide +kernel)
  obtain ⟨-, -, -, size, found, different⟩ :=
    lookup_dotted loaded List.mem_cons_self (by simp [FileAccess.ofReadings]) parsed
      (by unfold Table.Anchored; decide +kernel)
  have nodup := different (by decide +kernel)
  refine ⟨_, loaded, size.2 nodup, ?_⟩
  exact found nodup ⟨["menu", "file", "save"], .text "Save"⟩ List.mem_cons_self

/-- A name that holds a dot can look like the path to another text, which is lost then. -/
theorem lookup_dotted_lost :
    let text := "\"a.b\" = \"x\"\n[a]\nb = \"y\"\n"
    let table : Table := [("a", .table [("b", .text "y")]), ("a.b", .text "x")]
    ∃ catalog, Toml.parse text = some table ∧
      load (.ofReadings [(path "locales" "en", .ok text)]) "locales" ["en"] = .ok catalog ∧
      catalog.sizeOf "en" ≠ (Table.leaves [] table).length ∧
      ¬ ∀ leaf ∈ Table.leaves [] table, catalog.lookup "en" leaf.dotted = some leaf.text := by
  intro text table
  have parsed : Toml.parse "\"a.b\" = \"x\"\n[a]\nb = \"y\"\n" =
      some [("a", .table [("b", .text "y")]), ("a.b", .text "x")] := by cbv
  exact ⟨_, parsed, load_only "locales" "en" parsed (by decide +kernel), by decide +kernel,
    by decide +kernel⟩

end Phrasebook.Resource
