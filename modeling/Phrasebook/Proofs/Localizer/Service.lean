import Phrasebook.Localizer.Context
import Phrasebook.Proofs.Localizer.Discipline
import Phrasebook.Proofs.Request.Scope

/-!
# Stacks of scopes around a localizer or a context

Once the language is settled, a localizer and a context offer the same service: a key can
be localized with three answers for a missing template, and a request can be localized as a
whole. A scope around either of them changes nothing but the keys that are handed on, so a
stack of scopes is one service under one text.

`scopes_collapse` says that this text is the concatenation of all scopes, the innermost
first, no matter how many of them stand around the localizer and how many around the
context that binds its language. Binding itself looks at the language only.
-/

namespace Phrasebook

/-- What can be asked for once the language is settled. -/
structure Service where
  /-- The text of a key, or its name. -/
  localize : Key → Inquiry String
  /-- The text of a key, or nothing. -/
  localizeOrNone : Key → Inquiry (Option String)
  /-- The text of a key, or the given text. -/
  localizeOrDefault : Key → String → Inquiry String
  /-- The texts of a request's keys, one after the other. -/
  localizeRequest : Request → Inquiry String

namespace Service

/-- The service in which a text is put before every name that is looked up, in a request before
that of each key. -/
def under (path : String) (service : Service) : Service where
  localize key := service.localize (key.under path)
  localizeOrNone key := service.localizeOrNone (key.under path)
  localizeOrDefault key given := service.localizeOrDefault (key.under path) given
  localizeRequest request := service.localizeRequest ⟨request.keys.map (Key.under path)⟩

/-- A service that hands requests on with the text put around them as a whole is no other. -/
theorem handedOn_eq_under (path : String) (service : Service) :
    { localize := fun key => service.localize (key.under path)
      localizeOrNone := fun key => service.localizeOrNone (key.under path)
      localizeOrDefault := fun key given => service.localizeOrDefault (key.under path) given
      localizeRequest := fun request => service.localizeRequest (request.under path) } =
      service.under path := by
  have byKey : Request.under path = fun request => ⟨request.keys.map (Key.under path)⟩ :=
    funext (Request.under_eq path)
  rw [under, byKey]

/-- Texts around a service collapse to one, the inner text first. -/
@[simp] theorem under_under (inner outer : String) (service : Service) :
    (service.under inner).under outer = service.under (inner ++ outer) := by
  have renamed : Key.under inner ∘ Key.under outer = Key.under (inner ++ outer) :=
    funext (Key.under_under inner outer)
  simp [under, renamed]

/-- The empty text changes no answer. -/
@[simp] theorem under_empty (service : Service) : service.under "" = service := by
  have unchanged : Key.under "" = id := funext Key.under_empty
  simp [under, unchanged]

/-- Where each scope puts its text before the names, a stack of scopes puts their joined texts
there. -/
theorem foldl_within {α : Type} (within : α → Option String → α) (service : α → Service)
    (step : ∀ inner scope,
      service (within inner scope) = (service inner).under (normalizeScope scope))
    (scopes : List (Option String)) (start : α) :
    service (scopes.foldl within start) = (service start).under (joinScopes scopes) := by
  induction scopes generalizing start with
  | nil => rw [List.foldl_nil, joinScopes_nil, under_empty]
  | cons scope rest inductionHypothesis =>
    rw [List.foldl_cons, inductionHypothesis, step, under_under, joinScopes_cons]

end Service

namespace Localizer

/-- What a localizer offers in a language, or in its default language. -/
def service (localizer : Localizer) (language : Option String) : Service where
  localize := localizer.localize language
  localizeOrNone := localizer.localizeOrNone language
  localizeOrDefault := localizer.localizeOrDefault language
  localizeRequest := localizer.localizeRequest language

/-- Scopes around a localizer, from the innermost to the outermost. -/
def withinAll (localizer : Localizer) (scopes : List (Option String)) : Localizer :=
  scopes.foldl within localizer

/-- A scope around a localizer puts its text before the names. -/
theorem service_scoped (scope : String) (inner : Localizer) (language : Option String) :
    (Localizer.scoped scope inner).service language = (inner.service language).under scope :=
  Service.handedOn_eq_under scope (inner.service language)

/-- The same holds of a scope that is brought to its normal form first. -/
theorem service_within (localizer : Localizer) (scope : Option String)
    (language : Option String) :
    (localizer.within scope).service language =
      (localizer.service language).under (normalizeScope scope) :=
  service_scoped (normalizeScope scope) localizer language

/-- Scopes around a localizer put their joined texts before the names. -/
theorem service_withinAll (localizer : Localizer) (scopes : List (Option String))
    (language : Option String) :
    (localizer.withinAll scopes).service language =
      (localizer.service language).under (joinScopes scopes) :=
  Service.foldl_within within (fun inner => inner.service language)
    (fun inner scope => inner.service_within scope language) scopes localizer

/-- Scopes leave the resolver at the centre alone. -/
@[simp] theorem resolver_withinAll (localizer : Localizer) (scopes : List (Option String)) :
    (localizer.withinAll scopes).resolver = localizer.resolver := by
  induction scopes generalizing localizer with
  | nil => rfl
  | cons scope rest inductionHypothesis => exact inductionHypothesis (localizer.within scope)

/-- A localizer binds exactly the languages that its resolver would use. -/
theorem context_eq (localizer : Localizer) (language : Option String) :
    localizer.context language =
      .bound localizer <$> localizer.resolver.effectiveLanguage language := by
  cases language with
  | none => rfl
  | some given =>
    rw [context, isSupported, Resolver.effectiveLanguage]
    split <;> rfl

end Localizer

namespace Context

/-- What a context offers. -/
def service (context : Context) : Service where
  localize := context.localize
  localizeOrNone := context.localizeOrNone
  localizeOrDefault := context.localizeOrDefault
  localizeRequest := context.localizeRequest

/-- Scopes around a context, from the innermost to the outermost. -/
def withinAll (context : Context) (scopes : List (Option String)) : Context :=
  scopes.foldl within context

/-- A bound context offers what its localizer does in the bound language. -/
theorem service_bound (localizer : Localizer) (language : String) :
    (bound localizer language).service = localizer.service (some language) := rfl

/-- A scope around a context puts its text before the names, too. -/
theorem service_within (context : Context) (scope : Option String) :
    (context.within scope).service = context.service.under (normalizeScope scope) :=
  Service.handedOn_eq_under (normalizeScope scope) context.service

/-- Scopes around a context put their joined texts before the names. -/
theorem service_withinAll (context : Context) (scopes : List (Option String)) :
    (context.withinAll scopes).service = context.service.under (joinScopes scopes) :=
  Service.foldl_within within service service_within scopes context

end Context

namespace Localizer

/-- A supported language can be bound, also inside scopes, and the context offers what the
localizer does in that language. -/
theorem context_of_supported {localizer : Localizer} {language : Option String}
    (supported : ∀ given ∈ language, given ∈ localizer.supportedLanguages) :
    localizer.context language =
      .ok (.bound localizer (language.getD localizer.defaultLanguage)) := by
  rw [context_eq, Resolver.effectiveLanguage_of_supported supported]
  rfl

/-- Scopes around a resolver, a binding of the language and scopes around the context amount
to the resolver in that language, with all scopes put before the names that are looked up.
One scope does the same, and it does not matter on which side of the binding a scope stands.
A key whose name is absent or blank stays as it is, and of a request each key is renamed by
itself. -/
theorem scopes_collapse (resolver : Resolver) (inner outer : List (Option String))
    (language : Option String) :
    let path := joinScopes (inner ++ outer)
    let used := language.getD resolver.defaultLanguage
    (∀ failure, ((base resolver).withinAll inner).context language = .error failure ↔
      ∃ given, language = some given ∧ given ∉ resolver.supported ∧
        failure = .unsupportedLanguage given) ∧
    ((∀ given ∈ language, given ∈ resolver.supported) →
      ∃ context whole,
        ((base resolver).withinAll inner).context language = .ok context ∧
        ((base resolver).withinAll (inner ++ outer)).context language = .ok whole ∧
        (context.withinAll outer).service = ((base resolver).service (some used)).under path ∧
        (context.withinAll outer).service =
          ((base resolver).within (some path)).service (some used) ∧
        (context.withinAll outer).service = whole.service) ∧
    (∀ (key : Key) (name : String), key.name = some name → blank name = false →
      key.under path = ⟨some (path ++ name), key.arguments⟩) ∧
    (∀ key : Key, (∀ name ∈ key.name, blank name = true) → key.under path = key) ∧
    ∀ request : Request, (request.under path).keys = request.keys.map (Key.under path) := by
  intro path used
  have collapsed : ∀ scopes, ((base resolver).withinAll scopes).service (some used) =
      ((base resolver).service (some used)).under (joinScopes scopes) :=
    fun scopes => service_withinAll (base resolver) scopes (some used)
  have bound : ∀ scopes, (∀ given ∈ language, given ∈ resolver.supported) →
      ((base resolver).withinAll scopes).context language =
        .ok (.bound ((base resolver).withinAll scopes) used) := by
    intro scopes supported
    have same : ((base resolver).withinAll scopes).resolver = resolver :=
      resolver_withinAll (base resolver) scopes
    rw [context_of_supported (by rwa [supportedLanguages, same]), defaultLanguage, same]
  refine ⟨?_, ?_, ?_, ?_, ?_⟩
  · intro failure
    rw [context_eq, resolver_withinAll, Steps.map_eq_error_iff]
    exact Resolver.effectiveLanguage_eq_error_iff
  · intro supported
    have stack : ((Context.bound ((base resolver).withinAll inner) used).withinAll outer).service =
        ((base resolver).service (some used)).under path := by
      rw [Context.service_withinAll, Context.service_bound, collapsed, Service.under_under,
        ← joinScopes_append]
    have single : ((base resolver).within (some path)).service (some used) =
        ((base resolver).service (some used)).under path := by
      rw [service_within, normalizeScope_of_isScope (isScope_joinScopes _)]
    refine ⟨_, _, bound inner supported, bound (inner ++ outer) supported, stack,
      stack.trans single.symm, ?_⟩
    rw [stack, Context.service_bound, collapsed]
  · intro key name isName notBlank
    exact Key.under_of_named (Key.lookupName_eq_some_iff.2 ⟨isName, notBlank⟩) path
  · intro key literal
    exact Key.under_of_literal (Key.lookupName_eq_none_iff.2 literal) path
  · intro request
    rw [Request.under_eq]

/-- Templates of two languages below a menu. -/
def menuSource : Source :=
  (Catalog.ofLists [("en", [("menu.file.open", "Open \x7b\x7d")]),
    ("de", [("menu.file.close", "\x7b2\x7d: \x7b1\x7d"), ("close", "no")])]).toSource

/-- The resolver over them. -/
def menuResolver : Resolver := ⟨["en", "de"], "en", menuSource, by decide⟩

/-- A name that has a template below the menu, one that has none there, a blank name and
literal text. -/
def menuRequest : Request :=
  ⟨[⟨some "close", ["a", "b"]⟩, Key.literal " / ", ⟨some " ", ["c", "d"]⟩, Key.simple "open"]⟩

/-- An absent scope and a blank one add nothing, a missing dot is added, and the scopes
around the context stand behind those around the localizer. -/
theorem scopes_collapse_menu :
    joinScopes [some "menu", none, some " ", some "file."] = "menu.file." ∧
    (∀ given ∈ some "de", given ∈ menuResolver.supported) ∧
    (∃ context whole,
      ((base menuResolver).withinAll [some "menu", none]).context (some "de") = .ok context ∧
      ((base menuResolver).withinAll [some "menu", none, some " ", some "file."]).context
        (some "de") = .ok whole ∧
      (context.withinAll [some " ", some "file."]).service =
        ((base menuResolver).service (some "de")).under "menu.file." ∧
      (context.withinAll [some " ", some "file."]).service =
        ((base menuResolver).within (some "menu.file.")).service (some "de") ∧
      (context.withinAll [some " ", some "file."]).service = whole.service) ∧
    ((((base menuResolver).service (some "de")).under "menu.file.").localizeRequest
        menuRequest).asked = [("de", "menu.file.close"), ("de", "menu.file.open")] ∧
    ((((base menuResolver).service (some "de")).under "menu.file.").localizeRequest
        menuRequest).result = .ok "b: a / c, dmenu.file.open" ∧
    ("fr" ∉ menuResolver.supported ∧
      ((base menuResolver).withinAll [some "menu", none]).context (some "fr") =
        .error (.unsupportedLanguage "fr")) ∧
    (blank "close" = false ∧ Key.under "menu.file." ⟨some "close", ["a", "b"]⟩ =
      ⟨some "menu.file.close", ["a", "b"]⟩) ∧
    ((∀ name ∈ some " ", blank name = true) ∧
      Key.under "menu.file." ⟨some " ", ["c", "d"]⟩ = ⟨some " ", ["c", "d"]⟩) ∧
    (menuRequest.under "menu.file.").keys = menuRequest.keys.map (Key.under "menu.file.") := by
  have joined : joinScopes [some "menu", none, some " ", some "file."] = "menu.file." := by
    decide +kernel
  have supported : ∀ given ∈ some "de", given ∈ menuResolver.supported := by decide
  have unlisted : "fr" ∉ menuResolver.supported := by decide
  have notBlank : blank "close" = false := by decide +kernel
  have allBlank : ∀ name ∈ some " ", blank name = true := by
    rintro name ⟨⟩
    decide +kernel
  obtain ⟨-, collapse, renamed, kept, keyByKey⟩ :=
    scopes_collapse menuResolver [some "menu", none] [some " ", some "file."] (some "de")
  obtain ⟨refused, -⟩ :=
    scopes_collapse menuResolver [some "menu", none] [some " ", some "file."] (some "fr")
  have bound := collapse supported
  have close := renamed ⟨some "close", ["a", "b"]⟩ "close" rfl notBlank
  have unnamed := kept ⟨some " ", ["c", "d"]⟩ allBlank
  have whole := keyByKey menuRequest
  rw [List.cons_append, List.cons_append, List.nil_append, joined] at bound close unnamed whole
  exact ⟨joined, supported, bound, by decide +kernel, by decide +kernel,
    ⟨unlisted, (refused _).2 ⟨"fr", rfl, unlisted, rfl⟩⟩, ⟨notBlank, close⟩,
    ⟨allBlank, unnamed⟩, whole⟩

end Localizer

end Phrasebook
