import Phrasebook.Request.Scope

/-!
# Scopes inside scopes

Putting a text before the name of a key changes neither whether the key is looked up nor
its arguments. Hence one text after the other amounts to their concatenation, where the
text that was put there last comes first.

Joined scopes in their normal form are again in normal form: they are empty or end with a
dot. A whole stack of scopes is therefore itself a scope.
-/

namespace Phrasebook

/-- A name is not blank as soon as a part of it is not. -/
theorem blank_append {path name : String} (named : blank name = false) :
    blank (path ++ name) = false := by
  simp only [blank, Text.isBlank, String.toList_append, List.all_append] at named ⊢
  rw [named, Bool.and_false]

namespace Key

/-- A key that is looked up has a name, and this name is not blank. -/
theorem lookupName_eq_some_iff {key : Key} {name : String} :
    key.lookupName = some name ↔ key.name = some name ∧ blank name = false := by
  simp [lookupName, Option.filter_eq_some_iff]

/-- A key whose name is absent or blank is not looked up. -/
theorem lookupName_eq_none_iff {key : Key} :
    key.lookupName = none ↔ ∀ name ∈ key.name, blank name = true := by
  simp [lookupName, Option.filter_eq_none_iff]

/-- The text is put before the name of a key that is looked up, also when there is nothing to be
put there. -/
theorem under_of_named {key : Key} {name : String} (named : key.lookupName = some name)
    (path : String) : key.under path = ⟨some (path ++ name), key.arguments⟩ := by
  rw [under, named]
  by_cases nothing : path.isEmpty = true
  · obtain rfl := String.isEmpty_iff.1 nothing
    have same : key.name = some name := (lookupName_eq_some_iff.1 named).1
    change key = _
    rw [String.empty_append, ← same]
  · exact if_neg nothing

/-- A key that is not looked up stays as it is. -/
theorem under_of_literal {key : Key} (literal : key.lookupName = none) (path : String) :
    key.under path = key := by
  rw [under, literal]

/-- A key is looked up under its name with the text before it, or still not at all. -/
@[simp] theorem lookupName_under (path : String) (key : Key) :
    (key.under path).lookupName = key.lookupName.map (path ++ ·) := by
  cases named : key.lookupName with
  | none => rw [under_of_literal named, named, Option.map_none]
  | some name =>
    have kept : blank (path ++ name) = false :=
      blank_append (lookupName_eq_some_iff.1 named).2
    rw [under_of_named named, Option.map_some]
    exact lookupName_eq_some_iff.2 ⟨rfl, kept⟩

/-- The text that is put there last comes first. -/
@[simp] theorem under_under (inner outer : String) (key : Key) :
    (key.under outer).under inner = key.under (inner ++ outer) := by
  cases named : key.lookupName with
  | none => rw [under_of_literal named, under_of_literal named, under_of_literal named]
  | some name =>
    have renamed : (key.under outer).lookupName = some (outer ++ name) := by
      rw [lookupName_under, named, Option.map_some]
    rw [under_of_named renamed, under_of_named named, under_of_named named, String.append_assoc]

/-- The empty text leaves every key as it is. -/
@[simp] theorem under_empty (key : Key) : key.under "" = key := by
  rw [under]
  cases key.lookupName <;> rfl

end Key

namespace Request

/-- The empty text leaves every request as it is. -/
@[simp] theorem under_empty (request : Request) : request.under "" = request := rfl

/-- The text is put before the name of each key, also when there is nothing to be put there. -/
theorem under_eq (path : String) (request : Request) :
    request.under path = ⟨request.keys.map (Key.under path)⟩ := by
  by_cases nothing : path.isEmpty = true
  · have unchanged : Key.under "" = id := funext Key.under_empty
    rw [String.isEmpty_iff.1 nothing, under_empty, unchanged, List.map_id]
  · exact if_neg nothing

end Request

/-- The text that scopes put before a name, the innermost scope first. -/
def joinScopes (scopes : List (Option String)) : String :=
  String.join (scopes.map normalizeScope)

@[simp] theorem joinScopes_nil : joinScopes [] = "" := rfl

@[simp] theorem joinScopes_cons (scope : Option String) (scopes : List (Option String)) :
    joinScopes (scope :: scopes) = normalizeScope scope ++ joinScopes scopes := by
  simp [joinScopes]

@[simp] theorem joinScopes_append (inner outer : List (Option String)) :
    joinScopes (inner ++ outer) = joinScopes inner ++ joinScopes outer := by
  simp [joinScopes]

/-- Whether a text can be the normal form of a scope. -/
def IsScope (text : String) : Prop := text = "" ∨ text.toList.getLast? = some '.'

/-- The normal form of a scope has the form that its name promises. -/
theorem isScope_normalizeScope (scope : Option String) : IsScope (normalizeScope scope) := by
  cases scope with
  | none => exact .inl rfl
  | some given =>
    rw [normalizeScope]
    split
    · exact .inl rfl
    · split
      · next dotted => exact .inr (by simpa using dotted)
      · exact .inr (by simp)

/-- A scope before a scope is a scope. -/
theorem IsScope.append {inner outer : String} (first : IsScope inner) (second : IsScope outer) :
    IsScope (inner ++ outer) := by
  rcases second with rfl | dotted
  · rwa [String.append_empty]
  · exact .inr (by simp [dotted])

/-- A stack of scopes is a scope. -/
theorem isScope_joinScopes (scopes : List (Option String)) : IsScope (joinScopes scopes) := by
  induction scopes with
  | nil => exact .inl rfl
  | cons scope rest inductionHypothesis =>
    rw [joinScopes_cons]
    exact (isScope_normalizeScope scope).append inductionHypothesis

/-- A text that ends with a dot is not blank. -/
theorem not_blank_of_dotted {text : String} (dotted : text.toList.getLast? = some '.') :
    blank text = false := by
  have member : '.' ∈ text.toList := List.mem_of_getLast? dotted
  rw [blank, Text.isBlank, List.all_eq_false]
  exact ⟨'.', member, by decide⟩

/-- The normal form of a text in normal form is that text. -/
theorem normalizeScope_of_isScope {text : String} (normal : IsScope text) :
    normalizeScope (some text) = text := by
  rcases normal with rfl | dotted
  · rfl
  · simp [normalizeScope, not_blank_of_dotted dotted, dotted]

end Phrasebook
