import Phrasebook.Localizer.Basic

/-!
# Contexts

A context is a localizer with the language already chosen, possibly inside scopes
of its own. Binding checks the language once. There is also a disabled context,
which translates nothing: a key gives its own name, and a default is returned as
it is given.
-/

namespace Phrasebook

/-- A localizer with its language chosen, or none at all. -/
inductive Context where
  /-- A localizer bound to a language. -/
  | bound (localizer : Localizer) (language : String)
  /-- The context that translates nothing. -/
  | disabled
  /-- A scope around a context. -/
  | scoped (scope : String) (inner : Context)

/-- The context of a localizer in the given language, or in the default language
if none is given. A language that is not supported is refused. -/
def Localizer.context (localizer : Localizer) : Option String → Except LocalizationFailure Context
  | none => .ok (.bound localizer localizer.defaultLanguage)
  | some language =>
    if localizer.isSupported language then .ok (.bound localizer language)
    else .error (.unsupportedLanguage language)

namespace Context

/-- A scope around a context, brought to its normal form. -/
def within (context : Context) (scope : Option String) : Context :=
  .scoped (normalizeScope scope) context

/-- The chosen language, empty for the disabled context. -/
def language : Context → String
  | .bound _ language => language
  | .disabled => ""
  | .scoped _ inner => inner.language

/-- The outermost scope, empty when there is none. -/
def scope : Context → String
  | .scoped scope _ => scope
  | _ => ""

/-- The text of a key, or its name when it has no template. -/
def localize : Context → Key → Inquiry String
  | .bound localizer language, key => localizer.localize (some language) key
  | .disabled, key => pure key.plainText
  | .scoped scope inner, key => inner.localize (key.under scope)

/-- The text of a key, or nothing when it has no template. The disabled context
never answers nothing. -/
def localizeOrNone : Context → Key → Inquiry (Option String)
  | .bound localizer language, key => localizer.localizeOrNone (some language) key
  | .disabled, key => pure (some key.plainText)
  | .scoped scope inner, key => inner.localizeOrNone (key.under scope)

/-- The text of a key, or the given text when it has no template. -/
def localizeOrDefault : Context → Key → String → Inquiry String
  | .bound localizer language, key, given => localizer.localizeOrDefault (some language) key given
  | .disabled, _, given => pure given
  | .scoped scope inner, key, given => inner.localizeOrDefault (key.under scope) given

/-- The texts of a request's keys, one after the other. -/
def localizeRequest : Context → Request → Inquiry String
  | .bound localizer language, request => localizer.localizeRequest (some language) request
  | .disabled, request => pure (String.join (request.keys.map Key.plainText))
  | .scoped scope inner, request => inner.localizeRequest (request.under scope)

end Context

end Phrasebook
