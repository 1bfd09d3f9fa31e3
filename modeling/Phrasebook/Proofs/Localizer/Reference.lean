import Phrasebook.Proofs.Localizer.Discipline
import Phrasebook.Proofs.Request.RoundTrip
import Phrasebook.Proofs.Request.Scope

/-!
# Arguments that pass through a request text

A key can be localized directly, or it can be printed as a reference and the text
translated. Both ways give the same, including the questions asked, for a name and
arguments that are fit for braces, whatever delimiters and markers they hold. Escaping
alone does not make a text fit for braces: a marker at its end escapes the closing
brace, and a newline before its end breaks the component.
-/

namespace Phrasebook

namespace Key

/-- A text between braces, with its delimiters escaped. -/
def braced (text : String) : String := "\x7b" ++ escape .request text ++ "\x7d"

/-- The reference to a name with arguments. -/
def reference (name : String) (arguments : List String) : String :=
  "@" ++ String.join ((name :: arguments).map braced)

/-- Printing between braces is bracing. -/
theorem braced_toList (text : String) : (braced text).toList = printComponent text := by
  simp [braced, printComponent, Request.componentText]

/-- The reference is what the request with that one key is printed to. -/
theorem print_reference (name : String) (arguments : List String) :
    (Request.single ⟨some name, arguments⟩).print = reference name arguments := by
  have components : (String.join ((name :: arguments).map braced)).toList =
      (name :: arguments).flatMap printComponent := by
    rw [String.toList_join, List.flatMap_map]
    simp only [braced_toList]
  rw [← String.toList_inj, reference, String.toList_append, components]
  simp [Request.print, Request.single, print]

end Key

namespace Localizer

/-- A request with one key is localized as the key is. -/
theorem localizeRequest_single : ∀ (localizer : Localizer) (language : Option String) (key : Key),
    localizer.localizeRequest language (Request.single key) = localizer.localize language key
  | .base resolver, language, key => by
    cases settled : resolver.effectiveLanguage language with
    | error failure =>
      simp only [localizeRequest, localize, resolve, Resolver.resolveRequest, Resolver.resolve,
        settled, Inquiry.ofExcept_error_bind]
    | ok used =>
      have same := Resolver.resolve_of_settled settled key .keyName
      simp [localizeRequest, localize, resolve, Request.single, Resolver.resolveRequest, settled,
        Inquiry.ofExcept_ok, Resolver.concatenate, Resolver.localize, same]
  | .scoped scope inner, language, key => by
    have handedOn : (Request.single key).under scope = Request.single (key.under scope) :=
      Request.under_eq scope (Request.single key)
    rw [localizeRequest, handedOn]
    exact localizeRequest_single inner language (key.under scope)

/-- A key whose name and arguments are fit for braces is read back from its reference. -/
theorem parse_reference {name : String} {arguments : List String} (named : blank name = false)
    (bracketed : ∀ text ∈ name :: arguments, Key.Bracketed text) :
    Request.parse (Key.reference name arguments) =
      .ok (Request.single ⟨some name, arguments⟩) := by
  have canonical : Key.Canonical ⟨some name, arguments⟩ := ⟨named, bracketed⟩
  have alone : (Request.single ⟨some name, arguments⟩).Canonical :=
    ⟨by simpa [Request.single] using canonical, List.isChain_singleton _⟩
  exact Request.parse_eq_ok_iff.2 ⟨alone, Key.print_reference name arguments⟩

/-- Translating the reference to a key is localizing the key, in any language and inside
any scopes. -/
theorem translate_reference (localizer : Localizer) (language : Option String) {name : String}
    {arguments : List String} (named : blank name = false)
    (bracketed : ∀ text ∈ name :: arguments, Key.Bracketed text) :
    localizer.translate language (Key.reference name arguments) =
      localizer.localize language ⟨some name, arguments⟩ := by
  rw [translate, parse_reference named bracketed]
  exact localizeRequest_single localizer language ⟨some name, arguments⟩

/-- Templates of one language. -/
def listSource : Source :=
  (Catalog.ofLists
    [("en", [("t", "[\x7b\x7d]"), ("s.k@", "\x7b2\x7d|\x7b\x7d|\x7b3\x7d")])]).toSource

/-- The resolver over them. -/
def listResolver : Resolver := ⟨["en"], "en", listSource, by decide⟩

/-- The localizer around it. -/
def listLocalizer : Localizer := .base listResolver

/-- Delimiters, markers inside an argument, a newline at its end and an empty argument all
pass through. -/
theorem translate_reference_seams :
    Key.reference "k@" ["a\\\x7b\x7d@", "\\\\b\n", ""] =
        "@\x7bk\\@\x7d\x7ba\\\\\x7b\\\x7d\\@\x7d\x7b\\\\b\n\x7d\x7b\x7d" ∧
      blank "k@" = false ∧
      (∀ text ∈ ["k@", "a\\\x7b\x7d@", "\\\\b\n", ""], Key.Bracketed text) ∧
      (Localizer.scoped "s." listLocalizer).translate none
          (Key.reference "k@" ["a\\\x7b\x7d@", "\\\\b\n", ""]) =
        (Localizer.scoped "s." listLocalizer).localize none
          ⟨some "k@", ["a\\\x7b\x7d@", "\\\\b\n", ""]⟩ ∧
      ((Localizer.scoped "s." listLocalizer).localize none
          ⟨some "k@", ["a\\\x7b\x7d@", "\\\\b\n", ""]⟩).result = .ok "\\\\b\n|a\\\x7b\x7d@|" := by
  have named : blank "k@" = false := by decide
  have bracketed : ∀ text ∈ ["k@", "a\\\x7b\x7d@", "\\\\b\n", ""], Key.Bracketed text := by
    decide +kernel
  exact ⟨by decide +kernel, named, bracketed, translate_reference _ none named bracketed,
    by decide +kernel⟩

/-- A marker at the end of an argument or of a name, or a newline inside an argument, does
not pass through: the key can be localized, but the reference to it is refused. -/
theorem localize_ne_translate_reference :
    Resolver.build ["en"] "en" listSource = .ok listResolver ∧
    ((listLocalizer.localize none ⟨some "t", ["a\\"]⟩).result = .ok "[a\\]" ∧
      (listLocalizer.translate none (Key.reference "t" ["a\\"])).result =
        .error (.request (.strayDelimiter
          ⟨"@\x7bt\x7d\x7ba\\\x7d", "\x7ba\\\x7d", ⟨4, 8⟩, ⟨4, 5⟩, '\x7b'⟩))) ∧
    ((listLocalizer.localize none ⟨some "t\\", []⟩).result = .ok "t\\" ∧
      (listLocalizer.translate none (Key.reference "t\\" [])).result =
        .error (.request (.strayDelimiter
          ⟨"@\x7bt\\\x7d", "@\x7bt\\\x7d", ⟨0, 5⟩, ⟨0, 1⟩, '@'⟩))) ∧
    ((listLocalizer.localize none ⟨some "t", ["a\nb"]⟩).result = .ok "[a\nb]" ∧
      (listLocalizer.translate none (Key.reference "t" ["a\nb"])).result =
        .error (.request (.strayDelimiter
          ⟨"@\x7bt\x7d\x7ba\nb\x7d", "\x7ba\nb\x7d", ⟨4, 9⟩, ⟨4, 5⟩, '\x7b'⟩))) := by
  refine ⟨by rfl, ?_⟩
  decide +kernel

end Localizer

end Phrasebook
