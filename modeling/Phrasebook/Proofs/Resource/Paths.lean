import Mathlib.Data.List.Dedup
import Phrasebook.Proofs.Resource.Leaves
import Phrasebook.Proofs.Toml.Distinct

/-!
# Paths of leaves

Leaves of a table whose members are in ascending order are listed in the order of their paths, so
these are different. A path is flattened to its names with dots between them, except that an empty
name at the top level is lost when there is a name below it. Names that hold a dot themselves can
make two paths look the same; paths of names without dots look different when they are.
-/

namespace Phrasebook

namespace Toml

/-- The names on the way to a leaf with dots between them. -/
def Leaf.dotted (leaf : Leaf) : String := ".".intercalate leaf.path

/-- Whether there is no leaf below a member of a table with the empty name. -/
def Table.Anchored (table : Table) : Prop :=
  ∀ leaf ∈ Table.leaves [] table, leaf.path.head? = some "" → leaf.path = [""]

mutual

/-- The path to a value is the start of its leaves' paths. -/
theorem Value.prefix_of_mem_leaves (path : List String) : (value : Value) →
    ∀ leaf ∈ value.leaves path, path <+: leaf.path
  | .text _, _, member => by cases List.mem_singleton.1 member; exact List.prefix_rfl
  | .scalar _, _, member => by cases List.mem_singleton.1 member; exact List.prefix_rfl
  | .list _, _, member => by cases List.mem_singleton.1 member; exact List.prefix_rfl
  | .table members, leaf, member => by
    obtain ⟨name, -, start⟩ := Table.prefix_of_mem_leaves path members leaf member
    exact (List.prefix_append path [name]).trans start

/-- The path to a table and the name of a member are the start of its leaves' paths. -/
theorem Table.prefix_of_mem_leaves (above : List String) : (members : List (String × Value)) →
    ∀ leaf ∈ Table.leaves above members,
      ∃ name ∈ members.map Prod.fst, above ++ [name] <+: leaf.path
  | (name, value) :: rest, leaf, member => by
    rcases List.mem_append.1 member with here | later
    · exact ⟨name, List.mem_cons_self, Value.prefix_of_mem_leaves _ value leaf here⟩
    · obtain ⟨other, listed, start⟩ := Table.prefix_of_mem_leaves above rest leaf later
      exact ⟨other, List.mem_cons_of_mem name listed, start⟩

end

/-- No path of a leaf is empty. -/
theorem Table.path_ne_nil {table : Table} {leaf : Leaf} (member : leaf ∈ Table.leaves [] table) :
    leaf.path ≠ [] := by
  obtain ⟨name, -, start⟩ := Table.prefix_of_mem_leaves [] table leaf member
  exact start.ne_nil (List.cons_ne_nil _ _)

/-- A path through an earlier member of a table comes before a path through a later one. -/
theorem path_lt {above first second : List String} {name other : String} (before : name < other)
    (firstStart : above ++ [name] <+: first) (secondStart : above ++ [other] <+: second) :
    first < second := by
  obtain ⟨firstRest, rfl⟩ := firstStart
  obtain ⟨secondRest, rfl⟩ := secondStart
  rw [List.append_assoc, List.append_assoc]
  exact List.append_left_lt (List.cons_lt_cons_iff.2 (.inl before))

/-- Where members are in ascending order, so are the paths of the leaves below them. -/
theorem Table.paths_ascending {above : List String} {members : List (String × Value)}
    (names : (members.map Prod.fst).Pairwise (· < ·))
    (each : ∀ name value, (name, value) ∈ members →
      ∀ path, ((value.leaves path).map Leaf.path).Pairwise (· < ·)) :
    ((Table.leaves above members).map Leaf.path).Pairwise (· < ·) := by
  induction members with
  | nil => exact List.Pairwise.nil
  | cons member rest inductionHypothesis =>
    obtain ⟨name, value⟩ := member
    obtain ⟨first, restNames⟩ := List.pairwise_cons.1 names
    rw [Table.leaves, List.map_append, List.pairwise_append]
    refine ⟨each name value List.mem_cons_self _, inductionHypothesis restNames
      fun other found isMember => each other found (List.mem_cons_of_mem _ isMember), ?_⟩
    intro left isLeft right isRight
    obtain ⟨leaf, here, rfl⟩ := List.mem_map.1 isLeft
    obtain ⟨other, later, rfl⟩ := List.mem_map.1 isRight
    obtain ⟨otherName, listed, otherStart⟩ := Table.prefix_of_mem_leaves above rest other later
    exact path_lt (first otherName listed) (Value.prefix_of_mem_leaves _ value leaf here)
      otherStart

/-- The leaves of a value whose members are in ascending order are in the order of their paths. -/
theorem Value.Ascending.paths {value : Value} (ascending : value.Ascending)
    (path : List String) : ((value.leaves path).map Leaf.path).Pairwise (· < ·) := by
  induction ascending generalizing path with
  | text content => exact List.pairwise_singleton _ _
  | scalar kind => exact List.pairwise_singleton _ _
  | list items => exact List.pairwise_singleton _ _
  | table names each inductionHypothesis => exact Table.paths_ascending names inductionHypothesis

/-- Paths of names without dots are the same when they look the same. -/
theorem eq_of_dotted_eq {first second : List String} (firstNonempty : first ≠ [])
    (secondNonempty : second ≠ []) (firstPlain : ∀ name ∈ first, '.' ∉ name.toList)
    (secondPlain : ∀ name ∈ second, '.' ∉ name.toList)
    (same : ".".intercalate first = ".".intercalate second) : first = second := by
  have recovered : ∀ path : List String, path ≠ [] → (∀ name ∈ path, '.' ∉ name.toList) →
      (".".intercalate path).toList.splitOn '.' = path.map String.toList := by
    intro path nonempty plain
    rw [String.toList_intercalate]
    exact List.splitOn_intercalate '.' (by simpa using plain) (by simpa using nonempty)
  have chars : first.map String.toList = second.map String.toList := by
    rw [← recovered first firstNonempty firstPlain, same,
      recovered second secondNonempty secondPlain]
  exact List.map_injective_iff.2 (fun _ _ => String.toList_inj.1) chars

/-- Leaves whose names hold no dots have paths that look different. -/
theorem Table.nodup_dotted {table : Table} (ascending : (Value.table table).Ascending)
    (plain : ∀ leaf ∈ Table.leaves [] table, ∀ name ∈ leaf.path, '.' ∉ name.toList) :
    ((Table.leaves [] table).map Leaf.dotted).Nodup := by
  have paths : ((Table.leaves [] table).map Leaf.path).Nodup :=
    (ascending.paths []).imp Std.ne_of_lt
  have look : (Table.leaves [] table).map Leaf.dotted =
      ((Table.leaves [] table).map Leaf.path).map (".".intercalate ·) := by
    rw [List.map_map]
    rfl
  rw [look]
  refine List.Nodup.map_on (fun first isFirst second isSecond same => ?_) paths
  obtain ⟨leaf, member, rfl⟩ := List.mem_map.1 isFirst
  obtain ⟨other, otherMember, rfl⟩ := List.mem_map.1 isSecond
  exact eq_of_dotted_eq (path_ne_nil member) (path_ne_nil otherMember) (plain leaf member)
    (plain other otherMember) same

end Toml

namespace Resource

open Toml (Table Leaf)

/-- Below a key that is not empty, names are put after dots. -/
theorem foldl_childKey {above : String} (nonempty : above ≠ "") (names : List String) :
    names.foldl childKey above = ".".intercalate (above :: names) := by
  induction names generalizing above with
  | nil => simp
  | cons name rest inductionHypothesis =>
    have child : childKey above name = above ++ "." ++ name := by simp [childKey, nonempty]
    have childNonempty : above ++ "." ++ name ≠ "" := by simp
    rw [List.foldl_cons, child, inductionHypothesis childNonempty,
      String.intercalate_cons_append, String.intercalate_cons_cons]

/-- A path is flattened to its names with dots between them, unless it starts with an empty name
that is not the only one. -/
theorem key_eq_intercalate {path : List String}
    (anchored : path.head? = some "" → path = [""]) : key path = ".".intercalate path := by
  cases path with
  | nil => simp [key]
  | cons name below =>
    by_cases isEmpty : name = ""
    · rw [anchored (congrArg some isEmpty)]
      rfl
    · exact foldl_childKey isEmpty below

/-- The texts of a table's leaves stand under their paths with dots between the names. -/
theorem entries_eq_map_dotted {table : Table} (anchored : table.Anchored) :
    entries table = (Table.leaves [] table).map fun leaf => (leaf.dotted, leaf.text) :=
  List.map_congr_left fun leaf member =>
    congrArg (·, leaf.text) (key_eq_intercalate (anchored leaf member))

end Resource

end Phrasebook
