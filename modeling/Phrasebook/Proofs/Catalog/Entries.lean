import Mathlib.Data.List.Dedup
import Mathlib.Data.List.Induction
import Phrasebook.Dictionary

/-!
# Writing entries one after the other

Entries that are written into a dictionary one after the other leave the last value of each
name. Names that are not among them keep the value they had. A dictionary that is made of
entries has as many names as the entries have different ones.
-/

namespace Phrasebook.Dictionary

universe u
variable {α : Type u}

/-- Entries can be written in two parts. -/
theorem insertAll_append (dictionary : Dictionary α) (first second : List (String × α)) :
    dictionary.insertAll (first ++ second) = (dictionary.insertAll first).insertAll second :=
  List.foldl_append

/-- Writing entries leaves all other names alone. -/
theorem get?_insertAll_of_not_mem (dictionary : Dictionary α) {name : String}
    {entries : List (String × α)} (absent : name ∉ entries.map Prod.fst) :
    (dictionary.insertAll entries).get? name = dictionary.get? name := by
  induction entries generalizing dictionary with
  | nil => rfl
  | cons entry rest inductionHypothesis =>
    rw [List.map_cons, List.mem_cons, not_or] at absent
    calc ((dictionary.insert entry.1 entry.2).insertAll rest).get? name
        = (dictionary.insert entry.1 entry.2).get? name := inductionHypothesis _ absent.2
      _ = dictionary.get? name := by rw [get?_insert, if_neg absent.1]

/-- The last entry of a name counts. -/
theorem get?_insertAll_of_last (dictionary : Dictionary α) {name : String}
    (earlier : List (String × α)) (value : α) {later : List (String × α)}
    (last : name ∉ later.map Prod.fst) :
    (dictionary.insertAll (earlier ++ (name, value) :: later)).get? name = some value := by
  rw [insertAll_append]
  calc (((dictionary.insertAll earlier).insert name value).insertAll later).get? name
      = ((dictionary.insertAll earlier).insert name value).get? name :=
        get?_insertAll_of_not_mem _ last
    _ = some value := by rw [get?_insert, if_pos rfl]

theorem mem_names_insert (dictionary : Dictionary α) (name other : String) (value : α) :
    other ∈ (dictionary.insert name value).names ↔ other = name ∨ other ∈ dictionary.names :=
  mem_names_put name other value dictionary.entries

/-- The names after writing entries are those before and those of the entries. -/
theorem mem_names_insertAll (dictionary : Dictionary α) (name : String)
    (entries : List (String × α)) :
    name ∈ (dictionary.insertAll entries).names ↔
      name ∈ dictionary.names ∨ name ∈ entries.map Prod.fst := by
  induction entries generalizing dictionary with
  | nil => simp [insertAll]
  | cons entry rest inductionHypothesis =>
    have step : name ∈ ((dictionary.insert entry.1 entry.2).insertAll rest).names ↔ _ :=
      inductionHypothesis _
    rw [mem_names_insert] at step
    rw [List.map_cons, List.mem_cons]
    refine step.trans ?_
    tauto

theorem find?_isSome_iff (name : String) (entries : List (String × α)) :
    (find? name entries).isSome ↔ name ∈ entries.map Prod.fst := by
  induction entries with
  | nil => simp [find?]
  | cons entry rest inductionHypothesis =>
    rw [find?, List.map_cons, List.mem_cons]
    by_cases same : entry.1 = name
    · simp [same]
    · rw [if_neg same, inductionHypothesis]
      simp [Ne.symm same]

/-- A name has a value when it is among the names. -/
theorem contains_iff_mem_names (dictionary : Dictionary α) (name : String) :
    dictionary.contains name = true ↔ name ∈ dictionary.names :=
  find?_isSome_iff name dictionary.entries

theorem get?_eq_none_iff (dictionary : Dictionary α) (name : String) :
    dictionary.get? name = none ↔ name ∉ dictionary.names := by
  rw [← contains_iff_mem_names, contains, Bool.not_eq_true, Option.isSome_eq_false_iff,
    Option.isNone_iff_eq_none]

/-- A value that is found stands among the entries. -/
theorem mem_of_find? {name : String} {value : α} {entries : List (String × α)}
    (found : find? name entries = some value) : (name, value) ∈ entries := by
  induction entries with
  | nil => cases found
  | cons entry rest inductionHypothesis =>
    rw [find?] at found
    split at found
    · rename_i same
      cases found
      exact same ▸ List.mem_cons_self
    · exact List.mem_cons_of_mem entry (inductionHypothesis found)

/-- Where all entries have different names, each of them counts. -/
theorem get?_ofList_of_mem {entries : List (String × α)}
    (different : (entries.map Prod.fst).Nodup) {name : String} {value : α}
    (member : (name, value) ∈ entries) : (ofList entries).get? name = some value := by
  obtain ⟨earlier, later, rfl⟩ := List.append_of_mem member
  rw [List.map_append, List.map_cons, List.nodup_append, List.nodup_cons] at different
  exact get?_insertAll_of_last empty earlier value different.2.1.1

/-- In a dictionary made of entries, a name has the value of its last entry. -/
theorem get?_ofList (entries : List (String × α)) (name : String) :
    (ofList entries).get? name = find? name entries.reverse := by
  induction entries using List.reverseRecOn with
  | nil => rfl
  | append_singleton earlier entry inductionHypothesis =>
    have step : (ofList (earlier ++ [entry])).get? name =
        ((ofList earlier).insert entry.1 entry.2).get? name := by
      rw [ofList, insertAll_append]
      rfl
    rw [step, get?_insert, inductionHypothesis, List.reverse_concat, find?]
    simp only [eq_comm]

/-- A dictionary made of entries has as many names as there are different ones. -/
theorem size_ofList (entries : List (String × α)) :
    (ofList entries).size = (entries.map Prod.fst).dedup.length := by
  have same : (ofList entries).names.Perm (entries.map Prod.fst).dedup := by
    refine (List.perm_ext_iff_of_nodup (ofList entries).distinct (List.nodup_dedup _)).2 ?_
    intro name
    rw [List.mem_dedup]
    exact (mem_names_insertAll empty name entries).trans (by simp [names, empty])
  rw [← same.length_eq, names, List.length_map, size]

end Phrasebook.Dictionary
