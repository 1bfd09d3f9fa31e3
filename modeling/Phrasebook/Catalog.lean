import Phrasebook.Dictionary
import Phrasebook.Text.Order

/-!
# Catalogs and sources

A catalog holds templates by language and key. Writing the same key of a language
again replaces its template. A language is present as soon as it has been named,
also when it has no templates.

A localizer reads templates through a source, which answers two questions: is
there anything for a language, and what is the template of a key in a language.
-/

namespace Phrasebook

/-- Where a localizer gets its templates. -/
structure Source where
  /-- Whether there is anything for a language. -/
  hasLanguage : String → Bool
  /-- The template of a key in a language. -/
  lookup : String → String → Option String

/-- Templates by language and key. -/
structure Catalog where
  /-- The templates of each language by key. -/
  languages : Dictionary (Dictionary String) := .empty

namespace Catalog

/-- The catalog without languages. -/
def empty : Catalog := {}

/-- The templates of a language, none when the language is not there. -/
def entriesOf (catalog : Catalog) (language : String) : Dictionary String :=
  (catalog.languages.get? language).getD .empty

/-- The catalog after writing entries of a language in their order. The language
is present afterwards even when there are no entries. -/
def withLanguage (catalog : Catalog) (language : String) (entries : List (String × String)) :
    Catalog :=
  ⟨catalog.languages.insert language ((catalog.entriesOf language).insertAll entries)⟩

/-- The catalog after writing one template. -/
def insert (catalog : Catalog) (language key template : String) : Catalog :=
  ⟨catalog.languages.insert language ((catalog.entriesOf language).insert key template)⟩

/-- Writing one template is writing a language with a single entry. -/
theorem insert_eq_withLanguage (catalog : Catalog) (language key template : String) :
    catalog.insert language key template = catalog.withLanguage language [(key, template)] := rfl

/-- The catalog of the given languages and their entries. -/
def ofLists (languages : List (String × List (String × String))) : Catalog :=
  languages.foldl (fun catalog entry => catalog.withLanguage entry.1 entry.2) empty

/-- The languages of a catalog and their entries. -/
def toLists (catalog : Catalog) : List (String × List (String × String)) :=
  catalog.languages.entries.map fun (language, entries) => (language, entries.entries)

/-- The catalog in which a language has just the given entries. -/
def setLanguage (catalog : Catalog) (language : String) (entries : Dictionary String) : Catalog :=
  ⟨catalog.languages.insert language entries⟩

/-- The template of a key in a language. -/
def lookup (catalog : Catalog) (language key : String) : Option String :=
  (catalog.languages.get? language).bind (·.get? key)

/-- Whether a language is present. -/
def hasLanguage (catalog : Catalog) (language : String) : Bool :=
  catalog.languages.contains language

/-- The number of keys that a language has templates for. -/
def sizeOf (catalog : Catalog) (language : String) : Nat := (catalog.entriesOf language).size

/-- The languages in ascending order. -/
def sortedLanguages (catalog : Catalog) : List String := sortTexts catalog.languages.names

/-- The source that answers from the catalog. -/
def toSource (catalog : Catalog) : Source := ⟨catalog.hasLanguage, catalog.lookup⟩

/-- The source that answers lookups from the catalog and claims to have every
language. -/
def toOpenSource (catalog : Catalog) : Source := ⟨fun _ => true, catalog.lookup⟩

end Catalog

end Phrasebook
