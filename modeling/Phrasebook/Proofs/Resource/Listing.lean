import Mathlib
import Phrasebook.Proofs.Resource.Loading
import Phrasebook.Proofs.Resource.Paths

/-!
# What loading keeps

The leaves of a table that is read from a document are listed depth first, each table in
ascending order of names. So they are listed in the order of their paths, where a path is
compared name by name, and this order leaves no choice: a table has one such list.

Loading the files of several languages is going through these lists. It fails for the first
language in whose file something is wrong. Otherwise each language has the texts of its own list
under the names on the way to them, joined with dots without the empty ones at the beginning,
and of texts with the same key the last one.
-/

namespace Phrasebook

namespace Toml

/-- Whether names lead from a value through tables to another value, which is no table. -/
inductive LeadsTo : Value → List String → Value → Prop where
  /-- A value that is no table is where it stands. -/
  | here {value : Value} (noTable : ∀ members, value ≠ .table members) : LeadsTo value [] value
  /-- Below a table, the first name is that of a member. -/
  | through {members : List (String × Value)} {name : String} {member value : Value}
      {names : List String} (listed : (name, member) ∈ members)
      (leads : LeadsTo member names value) : LeadsTo (.table members) (name :: names) value

/-- Whether leaves are those of a table in the order of their paths. -/
structure Listing (table : Table) (leaves : List Leaf) : Prop where
  /-- A leaf is listed when its path leads to it, and nothing else is. -/
  complete : ∀ leaf, leaf ∈ leaves ↔ LeadsTo (.table table) leaf.path leaf.content
  /-- Paths are compared name by name. -/
  ascending : (leaves.map Leaf.path).Pairwise (· < ·)

/-- There is one way to list the leaves of a table. -/
theorem Listing.unique {table : Table} {first second : List Leaf} (listing : Listing table first)
    (other : Listing table second) : first = second := by
  have firstAscending := List.pairwise_map.1 listing.ascending
  have secondAscending := List.pairwise_map.1 other.ascending
  have nodup : ∀ {leaves : List Leaf},
      leaves.Pairwise (fun left right => left.path < right.path) → leaves.Nodup :=
    fun ascending => ascending.imp fun before => mt (congrArg Leaf.path) (Std.ne_of_lt before)
  refine List.Perm.eq_of_pairwise ?_ firstAscending secondAscending
    ((List.perm_ext_iff_of_nodup (nodup firstAscending) (nodup secondAscending)).2 fun leaf =>
      (listing.complete leaf).trans (other.complete leaf).symm)
  intro left right _ _ before after
  exact absurd (List.lt_trans before after) (List.lt_irrefl _)

/-- A value that is no table is its only leaf. -/
theorem mem_singleton_iff_leadsTo {path : List String} {value : Value} {leaf : Leaf}
    (noTable : ∀ members, value ≠ .table members) :
    leaf ∈ [Leaf.mk path value] ↔
      ∃ names, leaf.path = path ++ names ∧ LeadsTo value names leaf.content := by
  obtain ⟨leafPath, content⟩ := leaf
  rw [List.mem_singleton]
  constructor
  · rintro ⟨⟩
    exact ⟨[], (List.append_nil path).symm, .here noTable⟩
  · rintro ⟨names, rfl, leads⟩
    cases leads with
    | here _ => rw [List.append_nil]
    | through listed leads => exact absurd rfl (noTable _)

mutual

/-- The leaves of a value are the values that names lead to from it. -/
theorem Value.mem_leaves_iff (path : List String) (leaf : Leaf) : (value : Value) →
    (leaf ∈ value.leaves path ↔
      ∃ names, leaf.path = path ++ names ∧ LeadsTo value names leaf.content)
  | .text _ => mem_singleton_iff_leadsTo nofun
  | .scalar _ => mem_singleton_iff_leadsTo nofun
  | .list _ => mem_singleton_iff_leadsTo nofun
  | .table members => by
    rw [Value.leaves, Table.mem_leaves_iff path leaf members]
    obtain ⟨leafPath, content⟩ := leaf
    constructor
    · rintro ⟨name, member, names, listed, split, leads⟩
      exact ⟨name :: names, split, .through listed leads⟩
    · rintro ⟨names, split, leads⟩
      cases leads with
      | here noTable => exact absurd rfl (noTable members)
      | through listed leads => exact ⟨_, _, _, listed, split, leads⟩

/-- The leaves of a table are those of its members. -/
theorem Table.mem_leaves_iff (above : List String) (leaf : Leaf) :
    (members : List (String × Value)) →
    (leaf ∈ Table.leaves above members ↔
      ∃ name member names, (name, member) ∈ members ∧ leaf.path = above ++ name :: names ∧
        LeadsTo member names leaf.content)
  | [] => by simp [Table.leaves]
  | (first, value) :: rest => by
    rw [Table.leaves, List.mem_append, Value.mem_leaves_iff _ leaf value,
      Table.mem_leaves_iff above leaf rest]
    constructor
    · rintro (⟨names, split, leads⟩ | ⟨name, member, names, listed, split, leads⟩)
      · exact ⟨first, value, names, List.mem_cons_self, by simpa using split, leads⟩
      · exact ⟨name, member, names, List.mem_cons_of_mem _ listed, split, leads⟩
    · rintro ⟨name, member, names, listed, split, leads⟩
      rcases List.mem_cons.1 listed with here | later
      · cases here
        exact .inl ⟨names, by simpa using split, leads⟩
      · exact .inr ⟨name, member, names, later, split, leads⟩

end

/-- The leaves of the table that is read from a document are listed in the order of their
paths. -/
theorem parse_listing {text : String} {table : Table} (parsed : parse text = some table) :
    Listing table (Table.leaves [] table) where
  complete leaf := by
    have member := Value.mem_leaves_iff [] leaf (.table table)
    rw [Value.leaves] at member
    simpa only [List.nil_append, exists_eq_left'] using member
  ascending := (parse_ascending parsed).paths []

end Toml

namespace Resource

open Steps (DecidedBy)
open Toml (Table Leaf LeadsTo Listing)

/-- A path is flattened to its names with dots between them, without the empty names at the
beginning. -/
theorem key_eq_dropWhile (path : List String) :
    key path = ".".intercalate (path.dropWhile (· = "")) := by
  induction path with
  | nil => rfl
  | cons name rest inductionHypothesis =>
    by_cases isEmpty : name = ""
    · subst isEmpty
      exact inductionHypothesis
    · rw [List.dropWhile_cons_of_neg (by simpa using isEmpty)]
      exact foldl_childKey isEmpty rest

/-- Under a key stands the text of the last leaf that has it. -/
theorem get?_entries (table : Table) (name : String) :
    (Dictionary.ofList (entries table)).get? name =
      ((Table.leaves [] table).reverse.find? fun leaf => key leaf.path = name).map Leaf.text := by
  rw [Dictionary.get?_ofList, entries, ← List.map_reverse]
  induction (Table.leaves [] table).reverse with
  | nil => rfl
  | cons leaf rest inductionHypothesis =>
    rw [List.map_cons, Dictionary.find?, List.find?_cons]
    by_cases same : key leaf.path = name
    · simp [same]
    · simp [same, inductionHypothesis]

/-- Loading is decided by the first language whose file can not be used. -/
theorem load_decidedBy (access : FileAccess) (directory : String) (languages : List String) :
    DecidedBy (load access directory languages) languages (Usable access directory)
      fun language failure => Fault access (path directory language) failure := by
  refine Steps.decidedBy_of_cases exists_load_of_usable ?_ ?_
  · intro language unusable
    exact (holds_or_fault access (path directory language)).resolve_left unusable
  · intro language first failure fault
    exact load_of_fault first fault

/-- Whether a catalog has the texts of the given leaves for a language. -/
structure Contents (catalog : Catalog) (language : String) (leaves : List Leaf) : Prop where
  /-- Under a key stands the text of the last leaf that has it. -/
  lookup : ∀ name, catalog.lookup language name =
    (leaves.reverse.find? fun leaf => key leaf.path = name).map Leaf.text
  /-- There are as many keys as the leaves have different ones. -/
  size : catalog.sizeOf language = (leaves.map fun leaf => key leaf.path).dedup.length

/-- A language with the entries of a table has the texts of the table's leaves. -/
theorem contents_of_stored {catalog : Catalog} {language : String} {table : Table}
    (stored : catalog.languages.get? language = some (.ofList (entries table))) :
    Contents catalog language (Table.leaves [] table) where
  lookup name := by
    rw [Catalog.lookup, stored, Option.bind_some]
    exact get?_entries table name
  size := by
    rw [Catalog.sizeOf, Catalog.entriesOf, stored, Option.getD_some, Dictionary.size_ofList,
      entries, List.map_map]
    rfl

/-- A language that is not there has no texts. -/
theorem contents_of_absent {catalog : Catalog} {language : String}
    (absent : catalog.languages.get? language = none) : Contents catalog language [] where
  lookup name := by
    rw [Catalog.lookup, absent]
    rfl
  size := by
    rw [Catalog.sizeOf, Catalog.entriesOf, absent]
    rfl

/-- The files of several languages are loaded all together or not at all. When some file can not
be used, what is wrong with the first one is reported. Otherwise the languages are there, and no
others, each with the texts of its leaves. The leaves are listed in the order of their paths, and
the key of a path is its names with dots between them, without the empty ones at the
beginning. -/
theorem load_contents (access : FileAccess) (directory : String) (languages : List String) :
    DecidedBy (load access directory languages) languages (Usable access directory)
      (fun language failure => Fault access (path directory language) failure) ∧
    (∀ catalog, load access directory languages = .ok catalog →
      (∀ language, catalog.hasLanguage language = true ↔ language ∈ languages) ∧
      (∀ language ∈ languages, ∃ table, Holds access (path directory language) table ∧
        Contents catalog language (Table.leaves [] table)) ∧
      ∀ language, language ∉ languages → Contents catalog language []) ∧
    (∀ text table, Toml.parse text = some table →
      ∀ leaves, Listing table leaves ↔ leaves = Table.leaves [] table) ∧
    ∀ names, key names = ".".intercalate (names.dropWhile (· = "")) := by
  refine ⟨load_decidedBy access directory languages, ?_, ?_, key_eq_dropWhile⟩
  · intro catalog loaded
    obtain ⟨tables, hold, rfl⟩ := load_eq_ok loaded
    have stored := get?_catalogOf tables languages
    refine ⟨hasLanguage_catalogOf_iff tables languages, fun language listed => ?_,
      fun language unlisted => ?_⟩
    · refine ⟨tables language, hold language listed, contents_of_stored ?_⟩
      rw [stored, if_pos listed]
    · refine contents_of_absent ?_
      rw [stored, if_neg unlisted]
  · intro text table parsed leaves
    constructor
    · intro listing
      exact listing.unique (Toml.parse_listing parsed)
    · rintro rfl
      exact Toml.parse_listing parsed

/-- A file with an empty name, a name that holds a dot, and two pairs of texts that clash. -/
def clashingText : String :=
  "\"\".x = \"1\"\n\"a.b\" = \"2\"\nx = \"3\"\n[a]\nb = \"4\"\n"

/-- The table of this file. -/
def clashingTable : Table :=
  [("", .table [("x", .text "1")]), ("a", .table [("b", .text "4")]), ("a.b", .text "2"),
    ("x", .text "3")]

/-- The files of a directory that has only this one. -/
def clashingAccess : FileAccess := .ofReadings [(path "locales" "en", .ok clashingText)]

/-- Of texts that clash the last one is kept, whether the language is named once or twice. A
language without a file is reported even behind one that has a file. -/
theorem load_contents_clashing :
    Toml.parse clashingText = some clashingTable ∧
    Listing clashingTable (Table.leaves [] clashingTable) ∧
    (∃ catalog, load clashingAccess "locales" ["en", "en"] = .ok catalog ∧ "en" ∈ ["en", "en"] ∧
      catalog.hasLanguage "en" = true ∧ catalog.sizeOf "en" = 2 ∧
      catalog.lookup "en" "a.b" = some "2" ∧ catalog.lookup "en" "x" = some "3" ∧
      "de" ∉ ["en", "en"] ∧ catalog.lookup "de" "x" = none) ∧
    load clashingAccess "locales" ["en", "de", "en"] =
      .error (.unreadable (path "locales" "de") .notFound) := by
  have parsed : Toml.parse clashingText = some clashingTable := by cbv
  have holds : Holds clashingAccess (path "locales" "en") clashingTable :=
    ⟨⟨clashingText, by simp [clashingAccess, FileAccess.ofReadings], parsed⟩, by decide +kernel⟩
  have contents := load_contents clashingAccess "locales" ["en", "en"]
  obtain ⟨catalog, loaded⟩ := contents.1.1.2 (by simpa using ⟨clashingTable, holds⟩)
  obtain ⟨present, kept, absent⟩ := contents.2.1 catalog loaded
  obtain ⟨table, alsoHolds, stored⟩ := kept "en" (by decide)
  obtain rfl := holds.unique alsoHolds
  have noFile : Fault clashingAccess (path "locales" "de")
      (.unreadable (path "locales" "de") .notFound) := .unreadable (by decide +kernel)
  refine ⟨parsed, (contents.2.2.1 _ _ parsed _).2 rfl, ⟨catalog, loaded, by decide,
    (present "en").2 (by decide), stored.size.trans (by decide +kernel),
    (stored.lookup "a.b").trans (by decide +kernel), (stored.lookup "x").trans (by decide +kernel),
    by decide, (absent "de" (by decide)).lookup "x"⟩, ?_⟩
  refine ((load_contents clashingAccess "locales" ["en", "de", "en"]).1.2 _).2
    ⟨"de", ⟨["en"], ["en"], rfl, ?_, noFile.not_holds⟩, noFile⟩
  exact List.forall_mem_singleton.2 ⟨clashingTable, holds⟩

end Resource

end Phrasebook
