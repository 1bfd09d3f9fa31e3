/-!
# Dictionaries

A dictionary maps names to values. It keeps its names in the order in which they
were first inserted, and a name occurs once: inserting a name again replaces its
value in place.
-/

namespace Phrasebook

universe u
variable {α : Type u}

namespace Dictionary

/-- The entries with a name's value replaced, or with the name added at the end. -/
def put (name : String) (value : α) : List (String × α) → List (String × α)
  | [] => [(name, value)]
  | entry :: rest =>
    if entry.1 = name then (name, value) :: rest else entry :: put name value rest

/-- Replacing keeps the names, and adding brings in one name. -/
theorem mem_names_put (name other : String) (value : α) (entries : List (String × α)) :
    other ∈ (put name value entries).map Prod.fst ↔
      other = name ∨ other ∈ entries.map Prod.fst := by
  induction entries with
  | nil => simp [put]
  | cons entry rest inductionHypothesis =>
    by_cases same : entry.1 = name
    · simp only [put, same, if_true, List.map_cons, List.mem_cons]
      constructor
      · exact fun found => found.elim Or.inl fun inRest => Or.inr (Or.inr inRest)
      · exact fun found => found.elim Or.inl id
    · simp only [put, same, if_false, List.map_cons, List.mem_cons, inductionHypothesis]
      constructor
      · exact fun found => found.elim (fun first => Or.inr (Or.inl first))
          fun later => later.elim Or.inl fun inRest => Or.inr (Or.inr inRest)
      · exact fun found => found.elim (fun isName => Or.inr (Or.inl isName))
          fun later => later.elim Or.inl fun inRest => Or.inr (Or.inr inRest)

/-- No name occurs twice after inserting when none did before. -/
theorem nodup_put (name : String) (value : α) (entries : List (String × α))
    (distinct : (entries.map Prod.fst).Nodup) : ((put name value entries).map Prod.fst).Nodup := by
  induction entries with
  | nil => simp [put]
  | cons entry rest inductionHypothesis =>
    rw [List.map_cons, List.nodup_cons] at distinct
    by_cases same : entry.1 = name
    · simp only [put, same, if_true, List.map_cons, List.nodup_cons]
      exact ⟨same ▸ distinct.1, distinct.2⟩
    · simp only [put, same, if_false, List.map_cons, List.nodup_cons]
      refine ⟨fun found => ?_, inductionHypothesis distinct.2⟩
      exact ((mem_names_put name entry.1 value rest).1 found).elim same distinct.1

/-- The value of the first entry with a name. -/
def find? (name : String) : List (String × α) → Option α
  | [] => none
  | entry :: rest => if entry.1 = name then some entry.2 else find? name rest

/-- After inserting, the name has the new value and all others have theirs. -/
theorem find?_put (name other : String) (value : α) (entries : List (String × α)) :
    find? other (put name value entries) =
      if other = name then some value else find? other entries := by
  induction entries with
  | nil => simp [put, find?, eq_comm]
  | cons entry rest inductionHypothesis =>
    by_cases first : entry.1 = name
    · by_cases same : other = name
      · simp [put, find?, first, same]
      · simp [put, find?, first, same, Ne.symm same]
    · by_cases here : entry.1 = other
      · have different : other ≠ name := here ▸ first
        simp [put, find?, here, different]
      · simp [put, find?, first, here, inductionHypothesis]

end Dictionary

/-- A map from names to values in the order of first insertion. -/
structure Dictionary (α : Type u) where
  /-- The names and their values. -/
  entries : List (String × α) := []
  /-- A name occurs once. -/
  distinct : (entries.map Prod.fst).Nodup := by simp

namespace Dictionary

/-- The dictionary without entries. -/
def empty : Dictionary α := {}

instance : Inhabited (Dictionary α) := ⟨empty⟩

/-- The value of a name. -/
def get? (dictionary : Dictionary α) (name : String) : Option α := find? name dictionary.entries

/-- Whether a name has a value. -/
def contains (dictionary : Dictionary α) (name : String) : Bool := (dictionary.get? name).isSome

/-- The dictionary in which a name has a value, whether it had one before or not. -/
def insert (dictionary : Dictionary α) (name : String) (value : α) : Dictionary α :=
  ⟨put name value dictionary.entries, nodup_put name value dictionary.entries dictionary.distinct⟩

/-- The dictionary after inserting entries in their order. -/
def insertAll (dictionary : Dictionary α) (entries : List (String × α)) : Dictionary α :=
  entries.foldl (fun dictionary entry => dictionary.insert entry.1 entry.2) dictionary

/-- The dictionary of some entries, where a later entry replaces an earlier one
of the same name. -/
def ofList (entries : List (String × α)) : Dictionary α := empty.insertAll entries

/-- The names in the order of first insertion. -/
def names (dictionary : Dictionary α) : List String := dictionary.entries.map Prod.fst

/-- The number of names. -/
def size (dictionary : Dictionary α) : Nat := dictionary.entries.length

/-- Inserting sets one name and leaves the others alone. -/
theorem get?_insert (dictionary : Dictionary α) (name other : String) (value : α) :
    (dictionary.insert name value).get? other =
      if other = name then some value else dictionary.get? other :=
  find?_put name other value dictionary.entries

end Dictionary

end Phrasebook
