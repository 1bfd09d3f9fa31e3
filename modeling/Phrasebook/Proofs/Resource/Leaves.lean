import Phrasebook.Proofs.Steps
import Phrasebook.Resource

/-!
# Leaves of a resource file

A leaf of a table is a value that is no table, in the table itself or in one below it. The names
on the way to it are its path. Leaves are listed in the order in which the tables are gone
through, each table at the place of its name.

A resource file can be used when it can be read, is TOML, and all of its leaves are texts. Then
it gives one entry for each leaf, under the key of the leaf's path. Otherwise the first of these
three that does not hold is what is wrong with it, and the first leaf that is no text is named.
-/

namespace Phrasebook

namespace Toml

/-- A value that is no table, and the names on the way to it. -/
structure Leaf where
  /-- The names on the way, the outermost first. -/
  path : List String
  /-- The value. -/
  content : Value

namespace Leaf

/-- Whether a leaf is a text. -/
def isText (leaf : Leaf) : Bool :=
  match leaf.content with
  | .text _ => true
  | _ => false

/-- The text of a leaf, empty when it is no text. -/
def text (leaf : Leaf) : String :=
  match leaf.content with
  | .text content => content
  | _ => ""

end Leaf

mutual

/-- The leaves of a value that a path leads to. -/
def Value.leaves (path : List String) : Value → List Leaf
  | .text content => [⟨path, .text content⟩]
  | .scalar kind => [⟨path, .scalar kind⟩]
  | .list items => [⟨path, .list items⟩]
  | .table members => Table.leaves path members

/-- The leaves of a table that a path leads to. -/
def Table.leaves (above : List String) : List (String × Value) → List Leaf
  | [] => []
  | (name, value) :: rest => value.leaves (above ++ [name]) ++ Table.leaves above rest

end

end Toml

namespace Resource

open Steps (FirstLacking)
open Toml (Value Table Leaf)

/-- The key that a path is flattened to. -/
def key (path : List String) : String := path.foldl childKey ""

/-- The key of a leaf and its text. The leaf must be a text. -/
def entry (leaf : Leaf) : Except String (String × String) :=
  if leaf.isText then .ok (key leaf.path, leaf.text) else .error (key leaf.path)

/-- The keys and texts of a table's leaves. -/
def entries (table : Table) : List (String × String) :=
  (Table.leaves [] table).map fun leaf => (key leaf.path, leaf.text)

theorem childKey_key (above : List String) (name : String) :
    childKey (key above) name = key (above ++ [name]) := by
  rw [key, key, List.foldl_append]
  rfl

mutual

/-- Flattening goes through the leaves in their order. -/
theorem flattenValue_eq (path : List String) : (value : Value) →
    flattenValue (key path) value = (value.leaves path).mapM entry
  | .text _ => rfl
  | .scalar _ => rfl
  | .list _ => rfl
  | .table members => flattenTable_eq path members

/-- Flattening a table goes through its leaves in their order. -/
theorem flattenTable_eq (above : List String) : (members : List (String × Value)) →
    flattenTable (key above) members = (Table.leaves above members).mapM entry
  | [] => rfl
  | (name, value) :: rest => by
    rw [flattenTable, flattenMember, childKey_key, flattenValue_eq, flattenTable_eq,
      Table.leaves, List.mapM_append]

end

theorem entry_eq_ok_iff {leaf : Leaf} {result : String × String} :
    entry leaf = .ok result ↔ leaf.isText = true ∧ (key leaf.path, leaf.text) = result := by
  cases isText : leaf.isText <;> simp [entry, isText]

theorem entry_eq_error_iff {leaf : Leaf} {failed : String} :
    entry leaf = .error failed ↔ leaf.isText = false ∧ key leaf.path = failed := by
  cases isText : leaf.isText <;> simp [entry, isText]

/-- Leaves have entries when all of them are texts. -/
theorem mapM_entry_eq_ok_iff {leaves : List Leaf} {results : List (String × String)} :
    leaves.mapM entry = .ok results ↔
      (∀ leaf ∈ leaves, leaf.isText = true) ∧
        leaves.map (fun leaf => (key leaf.path, leaf.text)) = results := by
  induction leaves generalizing results with
  | nil => simp [pure, Except.pure]
  | cons leaf leaves inductionHypothesis =>
    rw [List.mapM_cons, Steps.bind_eq_ok_iff, List.forall_mem_cons]
    constructor
    · rintro ⟨first, taken, following⟩
      obtain ⟨others, done, same⟩ := Steps.bind_eq_ok_iff.1 following
      cases same
      obtain ⟨isText, rfl⟩ := entry_eq_ok_iff.1 taken
      obtain ⟨texts, rfl⟩ := inductionHypothesis.1 done
      exact ⟨⟨isText, texts⟩, rfl⟩
    · rintro ⟨⟨isText, texts⟩, rfl⟩
      refine ⟨_, entry_eq_ok_iff.2 ⟨isText, rfl⟩, Steps.bind_eq_ok_iff.2 ?_⟩
      exact ⟨_, inductionHypothesis.2 ⟨texts, rfl⟩, rfl⟩

/-- Whether the file at a path can be used: it can be read, it is TOML for a table, and all
leaves of the table are texts. -/
def Holds (access : FileAccess) (path : String) (table : Table) : Prop :=
  (∃ text, access.read path = .ok text ∧ Toml.parse text = some table) ∧
    ∀ leaf ∈ Table.leaves [] table, leaf.isText = true

/-- What is wrong with the file at a path. -/
inductive Fault (access : FileAccess) (path : String) : ResourceFailure → Prop where
  /-- It can not be read. -/
  | unreadable {reason : FileFailure} (unread : access.read path = .error reason) :
      Fault access path (.unreadable path reason)
  /-- It is not TOML. -/
  | malformed {text : String} (read : access.read path = .ok text)
      (notToml : Toml.parse text = none) : Fault access path (.malformed path)
  /-- A leaf is no text, and those before it are. -/
  | invalidValue {text : String} {table : Table} {leaf : Leaf} (read : access.read path = .ok text)
      (parsed : Toml.parse text = some table)
      (first : FirstLacking (fun leaf => leaf.isText = true) (Table.leaves [] table) leaf) :
      Fault access path (.invalidValue path (key leaf.path))

variable {access : FileAccess} {path : String}

/-- A file can be used for one table only. -/
theorem Holds.unique {first second : Table} (holds : Holds access path first)
    (alsoHolds : Holds access path second) : first = second := by
  obtain ⟨⟨text, read, parsed⟩, -⟩ := holds
  obtain ⟨⟨other, alsoRead, alsoParsed⟩, -⟩ := alsoHolds
  cases read.symm.trans alsoRead
  exact Option.some_inj.1 (parsed.symm.trans alsoParsed)

/-- A file that can be used gives the entries of its table. -/
theorem loadFile_of_holds {table : Table} (holds : Holds access path table) :
    loadFile access path = .ok (.ofList (entries table)) := by
  obtain ⟨⟨text, read, parsed⟩, texts⟩ := holds
  have flattened : flattenTable "" table = .ok (entries table) :=
    (flattenTable_eq [] table).trans (mapM_entry_eq_ok_iff.2 ⟨texts, rfl⟩)
  simp only [loadFile, read, parsed, flattened]

/-- A file is refused for what is wrong with it. -/
theorem loadFile_of_fault {failure : ResourceFailure} (fault : Fault access path failure) :
    loadFile access path = .error failure := by
  cases fault with
  | unreadable unread => simp only [loadFile, unread]
  | malformed read notToml => simp only [loadFile, read, notToml]
  | @invalidValue _ table leaf read parsed first =>
    obtain ⟨earlier, later, split, texts, noText⟩ := first
    have refused : entry leaf = .error (key leaf.path) :=
      entry_eq_error_iff.2 ⟨Bool.eq_false_iff.2 noText, rfl⟩
    have flattened : flattenTable "" table = .error (key leaf.path) :=
      (flattenTable_eq [] table).trans (Steps.mapM_eq_error_iff.2
        ⟨earlier, leaf, later, split, ⟨_, mapM_entry_eq_ok_iff.2 ⟨texts, rfl⟩⟩, refused⟩)
    simp only [loadFile, read, parsed, flattened]

/-- A file can be used unless something is wrong with it. -/
theorem holds_or_fault (access : FileAccess) (path : String) :
    (∃ table, Holds access path table) ∨ ∃ failure, Fault access path failure := by
  cases read : access.read path with
  | error reason => exact .inr ⟨_, .unreadable read⟩
  | ok text =>
    cases parsed : Toml.parse text with
    | none => exact .inr ⟨_, .malformed read parsed⟩
    | some table =>
      rcases Steps.all_or_firstLacking (fun leaf : Leaf => leaf.isText = true)
        (Table.leaves [] table) with texts | ⟨leaf, first⟩
      · exact .inl ⟨table, ⟨text, read, parsed⟩, texts⟩
      · exact .inr ⟨_, .invalidValue read parsed first⟩

/-- Nothing is wrong with a file that can be used. -/
theorem Fault.not_holds {failure : ResourceFailure} (fault : Fault access path failure) :
    ¬ ∃ table, Holds access path table := by
  rintro ⟨table, holds⟩
  have both := (loadFile_of_holds holds).symm.trans (loadFile_of_fault fault)
  cases both

end Resource

end Phrasebook
