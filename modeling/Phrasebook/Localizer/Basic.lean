import Phrasebook.Localizer.Resolver
import Phrasebook.Request.Scope

/-!
# Localizers

A localizer is a resolver, possibly inside scopes. A scope puts its text before
every name that is looked up and passes everything else on, so the innermost
scope ends up first in a name.
-/

namespace Phrasebook

/-- A resolver inside any number of scopes. -/
inductive Localizer where
  /-- The resolver itself. -/
  | base (resolver : Resolver)
  /-- A scope around a localizer. -/
  | scoped (scope : String) (inner : Localizer)

namespace Localizer

/-- A scope around a localizer, brought to its normal form. -/
def within (localizer : Localizer) (scope : Option String) : Localizer :=
  .scoped (normalizeScope scope) localizer

/-- The resolver at the centre. -/
def resolver : Localizer → Resolver
  | .base resolver => resolver
  | .scoped _ inner => inner.resolver

/-- The supported languages in order. -/
def supportedLanguages (localizer : Localizer) : List String := localizer.resolver.supported

/-- The language for calls that name none. -/
def defaultLanguage (localizer : Localizer) : String := localizer.resolver.defaultLanguage

/-- Whether a language is supported. -/
def isSupported (localizer : Localizer) (language : String) : Bool :=
  localizer.resolver.isSupported language

/-- The outermost scope, empty when there is none. -/
def scope : Localizer → String
  | .base _ => ""
  | .scoped scope _ => scope

/-- The text of a key, with a choice of what to answer when it has no template. -/
def resolve : Localizer → Option String → Key → Fallback → Inquiry (Option String)
  | .base resolver, language, key, fallback => resolver.resolve language key fallback
  | .scoped scope inner, language, key, fallback =>
    inner.resolve language (key.under scope) fallback

/-- The text of a key, or its name when it has no template. -/
def localize (localizer : Localizer) (language : Option String) (key : Key) : Inquiry String := do
  return (← localizer.resolve language key .keyName).getD ""

/-- The text of a key, or nothing when it has no template. -/
def localizeOrNone (localizer : Localizer) (language : Option String) (key : Key) :
    Inquiry (Option String) :=
  localizer.resolve language key .absent

/-- The text of a key, or the given text when it has no template. -/
def localizeOrDefault (localizer : Localizer) (language : Option String) (key : Key)
    (given : String) : Inquiry String := do
  return (← localizer.resolve language key (.text given)).getD given

/-- The texts of a request's keys, one after the other. -/
def localizeRequest : Localizer → Option String → Request → Inquiry String
  | .base resolver, language, request => resolver.resolveRequest language request
  | .scoped scope inner, language, request =>
    inner.localizeRequest language (request.under scope)

/-- Read a request text and resolve its pieces in a language. A text that can not
be read is reported before the language is looked at. -/
def translate (localizer : Localizer) (language : Option String) (text : String) :
    Inquiry String := do
  match Request.parse text with
  | .ok request => localizer.localizeRequest language request
  | .error failure => Inquiry.ofExcept (.error (.request failure))

/-- The translated text, or on any failure the text as it is. -/
def translateOrRaw (localizer : Localizer) (language : Option String) (text : String) :
    Inquiry String :=
  let translated := localizer.translate language text
  match translated.result with
  | .ok _ => translated
  | .error _ => ⟨translated.asked, .ok text⟩

end Localizer

end Phrasebook
