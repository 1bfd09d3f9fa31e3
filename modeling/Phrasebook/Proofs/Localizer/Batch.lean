import Phrasebook.Proofs.Localizer.Service

/-!
# Requests key by key

A localizer resolves the keys of a request in its own loop: the language is settled before the
first key and checked again for each of them, and scopes are put around the request as a whole.
The disabled context writes down all keys at once. All of this gives what localizing each key by
itself gives, one after the other: the same text, the same questions in the same order, and the
failure of the first key that has one.

The property is kept by every scope, so it holds of all stacks. It follows that requests can
be cut anywhere. The one thing that a request adds to its keys is that the language is
checked even when there are no keys.
-/

namespace Phrasebook

namespace Request

@[simp] theorem keys_append (left right : Request) :
    (left ++ right).keys = left.keys ++ right.keys := rfl

end Request

namespace Service

/-- Whether a request is localized as its keys are one by one. -/
def KeyByKey (service : Service) : Prop :=
  ∀ request : Request,
    service.localizeRequest request = String.join <$> request.keys.mapM service.localize

/-- Whether a request can be localized in two parts, the second after the first. -/
def Additive (service : Service) : Prop :=
  ∀ left right : Request, service.localizeRequest (left ++ right) = do
    let first ← service.localizeRequest left
    let second ← service.localizeRequest right
    return first ++ second

variable {service : Service}

/-- Keys are still localized one by one when a text is put before all of their names. -/
theorem KeyByKey.under (keyByKey : service.KeyByKey) (path : String) :
    (service.under path).KeyByKey := by
  intro request
  calc (service.under path).localizeRequest request
      = String.join <$> (request.keys.map (Key.under path)).mapM service.localize :=
        keyByKey ⟨request.keys.map (Key.under path)⟩
    _ = String.join <$> request.keys.mapM (service.under path).localize := by
        rw [List.mapM_map]
        rfl

/-- Keys that are localized one by one can be localized in two parts. -/
theorem KeyByKey.additive (keyByKey : service.KeyByKey) : service.Additive := by
  intro left right
  rw [keyByKey, keyByKey, keyByKey, Request.keys_append, List.mapM_append]
  simp only [map_eq_pure_bind, bind_assoc, pure_bind, String.join_append]

/-- Without keys there is no text, and nothing is asked. -/
theorem KeyByKey.empty (keyByKey : service.KeyByKey) :
    service.localizeRequest {} = ⟨[], .ok ""⟩ := keyByKey {}

end Service

namespace Resolver

/-- The loop over the keys localizes them one by one. -/
theorem concatenate_eq_mapM (resolver : Resolver) (language : String) (keys : List Key) :
    resolver.concatenate language keys =
      String.join <$> keys.mapM (resolver.localize (some language)) := by
  induction keys with
  | nil => rfl
  | cons key rest inductionHypothesis =>
    rw [concatenate, List.mapM_cons, inductionHypothesis]
    simp only [map_eq_pure_bind, bind_assoc, pure_bind, String.join_cons]

/-- A resolver localizes a request in a supported language key by key: the language that was
settled for the request is settled on again for each key. -/
theorem keyByKey (resolver : Resolver) {language : Option String}
    (supported : ∀ given ∈ language, given ∈ resolver.supported) :
    ((Localizer.base resolver).service language).KeyByKey := by
  intro request
  have settled := effectiveLanguage_of_supported supported
  have single : ((Localizer.base resolver).service language).localize =
      resolver.localize (some (language.getD resolver.defaultLanguage)) := by
    funext key
    rw [localize, resolve_of_settled settled]
    rfl
  rw [single, ← concatenate_eq_mapM]
  simp only [Localizer.service, Localizer.localizeRequest, resolveRequest, settled,
    Inquiry.ofExcept_ok, pure_bind]

end Resolver

namespace Localizer

/-- An unsupported language is refused for every request. -/
theorem localizeRequest_of_unsupported {localizer : Localizer} {given : String}
    (unlisted : given ∉ localizer.supportedLanguages) (request : Request) :
    localizer.localizeRequest (some given) request =
      ⟨[], .error (.unsupportedLanguage given)⟩ := by
  induction localizer generalizing request with
  | base resolver =>
    have refused : resolver.effectiveLanguage (some given) =
        .error (.unsupportedLanguage given) := Resolver.effectiveLanguage_of_not_mem unlisted
    rw [localizeRequest, Resolver.resolveRequest, refused]
    exact Inquiry.ofExcept_error_bind _ _
  | «scoped» scope inner inductionHypothesis =>
    exact inductionHypothesis unlisted (request.under scope)

/-- In a supported language requests are localized key by key, inside any scopes. -/
theorem keyByKey {localizer : Localizer} {language : Option String}
    (supported : ∀ given ∈ language, given ∈ localizer.supportedLanguages) :
    (localizer.service language).KeyByKey := by
  induction localizer with
  | base resolver => exact resolver.keyByKey supported
  | «scoped» scope inner inductionHypothesis =>
    rw [service_scoped]
    exact (inductionHypothesis supported).under scope

/-- Either the language of a localizer is settled, or every request is refused. -/
theorem supported_or_refused (localizer : Localizer) (language : Option String) :
    (∀ given ∈ language, given ∈ localizer.supportedLanguages) ∨
      ∃ failure, ∀ request, localizer.localizeRequest language request = ⟨[], .error failure⟩ := by
  by_cases supported : ∀ given ∈ language, given ∈ localizer.supportedLanguages
  · exact .inl supported
  · push Not at supported
    obtain ⟨given, rfl, unlisted⟩ := supported
    exact .inr ⟨_, localizeRequest_of_unsupported unlisted⟩

/-- In any language requests can be localized in two parts. -/
theorem additive (localizer : Localizer) (language : Option String) :
    (localizer.service language).Additive := by
  rcases localizer.supported_or_refused language with supported | ⟨failure, refused⟩
  · exact (keyByKey supported).additive
  · intro left right
    simp only [service, refused, Inquiry.bind_error]

/-- The second part is localized after the first, unless that fails. -/
theorem localizeRequest_append (localizer : Localizer) (language : Option String)
    (left right : Request) :
    localizer.localizeRequest language (left ++ right) = do
      let first ← localizer.localizeRequest language left
      let second ← localizer.localizeRequest language right
      return first ++ second := localizer.additive language left right

end Localizer

namespace Context

/-- The contexts that can be had: what a localizer binds, the disabled one, and a scope around
any of them. -/
inductive Made : Context → Prop where
  /-- A localizer could bind the language. -/
  | bound {localizer : Localizer} {language : Option String} {context : Context}
      (binds : localizer.context language = .ok context) : Made context
  /-- Nothing is translated. -/
  | disabled : Made .disabled
  /-- A scope is put around a context. -/
  | within {context : Context} (made : Made context) (scope : Option String) :
      Made (context.within scope)

/-- A context that could be bound localizes requests key by key. -/
theorem keyByKey_of_bound {localizer : Localizer} {language : Option String} {context : Context}
    (binds : localizer.context language = .ok context) : context.service.KeyByKey := by
  rw [Localizer.context_eq] at binds
  obtain ⟨used, settled, rfl⟩ := Steps.map_eq_ok_iff.1 binds
  have listed : used ∈ localizer.supportedLanguages := Resolver.mem_of_effectiveLanguage settled
  have supported : ∀ given ∈ some used, given ∈ localizer.supportedLanguages := by
    rintro given ⟨⟩
    exact listed
  exact Localizer.keyByKey supported

/-- The disabled context writes down all keys as it does each of them. -/
theorem keyByKey_disabled : disabled.service.KeyByKey := by
  intro request
  have plain : disabled.service.localize = fun key => pure key.plainText := rfl
  rw [plain, List.mapM_pure, map_pure]
  rfl

/-- Every context localizes requests key by key. -/
theorem Made.keyByKey {context : Context} (made : context.Made) : context.service.KeyByKey := by
  induction made with
  | bound binds => exact keyByKey_of_bound binds
  | disabled => exact keyByKey_disabled
  | within _ scope inductionHypothesis =>
    rw [service_within]
    exact inductionHypothesis.under (normalizeScope scope)

end Context

namespace Localizer

/-- On every stack a request is localized as its keys are one by one, unless the language is
not supported. Two requests one after the other are localized one after the other, and the
empty request gives the empty text. -/
theorem localizeRequest_key_by_key :
    (∀ (localizer : Localizer) (language : Option String),
      (∀ given ∈ language, given ∉ localizer.supportedLanguages → ∀ request,
        localizer.localizeRequest language request =
          ⟨[], .error (.unsupportedLanguage given)⟩) ∧
      ((∀ given ∈ language, given ∈ localizer.supportedLanguages) →
        (localizer.service language).KeyByKey ∧
          localizer.localizeRequest language {} = ⟨[], .ok ""⟩) ∧
      (localizer.service language).Additive) ∧
    ∀ context : Context, context.Made →
      context.service.KeyByKey ∧ context.localizeRequest {} = ⟨[], .ok ""⟩ ∧
        context.service.Additive := by
  constructor
  · intro localizer language
    refine ⟨?_, ?_, localizer.additive language⟩
    · rintro given ⟨⟩ unlisted request
      exact localizeRequest_of_unsupported unlisted request
    · intro supported
      have each : (localizer.service language).KeyByKey := keyByKey supported
      exact ⟨each, each.empty⟩
  · intro context made
    have each : context.service.KeyByKey := made.keyByKey
    exact ⟨each, each.empty, each.additive⟩

/-- Templates below a scope, one of them broken. -/
def brokenSource : Source :=
  (Catalog.ofLists [("en", [("m.good", "<\x7b\x7d>"), ("m.bad", "a\x7d")])]).toSource

/-- A scope around the resolver over them. -/
def brokenLocalizer : Localizer :=
  (base ⟨["en"], "en", brokenSource, List.mem_singleton_self "en"⟩).within (some "m")

/-- A key with a template, literal text and a key without a template. -/
def soundRequest : Request := ⟨[⟨some "good", ["x"]⟩, Key.literal " ", Key.simple "none"]⟩

/-- A key with a broken template and one more key. -/
def brokenRequest : Request := ⟨[Key.simple "bad", Key.simple "good"]⟩

/-- A request up to its first broken template, its two parts, and the same keys where nothing
is translated. -/
theorem localizeRequest_key_by_key_broken :
    ("de" ∉ brokenLocalizer.supportedLanguages ∧
      brokenLocalizer.localizeRequest (some "de") {} =
        ⟨[], .error (.unsupportedLanguage "de")⟩) ∧
    ((∀ given ∈ some "en", given ∈ brokenLocalizer.supportedLanguages) ∧
      (brokenLocalizer.service (some "en")).KeyByKey) ∧
    ((brokenLocalizer.localizeRequest none (soundRequest ++ brokenRequest) = do
        let first ← brokenLocalizer.localizeRequest none soundRequest
        let second ← brokenLocalizer.localizeRequest none brokenRequest
        return first ++ second) ∧
      (brokenLocalizer.localizeRequest none soundRequest).result = .ok "<x> m.none" ∧
      (brokenLocalizer.localizeRequest none (soundRequest ++ brokenRequest)).asked =
        [("en", "m.good"), ("en", "m.none"), ("en", "m.bad")] ∧
      (brokenLocalizer.localizeRequest none (soundRequest ++ brokenRequest)).result =
        .error (.template ⟨"a\x7d", "a\x7d", ⟨0, 2⟩, ⟨1, 2⟩, '\x7d'⟩)) ∧
    (Context.disabled.within (some "m")).Made ∧
    ((Context.disabled.within (some "m")).localizeRequest brokenRequest =
        String.join <$> brokenRequest.keys.mapM (Context.disabled.within (some "m")).localize ∧
      ((Context.disabled.within (some "m")).localizeRequest brokenRequest).result =
        .ok "m.badm.good") := by
  have unlisted : "de" ∉ brokenLocalizer.supportedLanguages := by decide
  have supported : ∀ given ∈ some "en", given ∈ brokenLocalizer.supportedLanguages := by decide
  have made : (Context.disabled.within (some "m")).Made := .within .disabled (some "m")
  obtain ⟨localizers, contexts⟩ := localizeRequest_key_by_key
  obtain ⟨refused, -, -⟩ := localizers brokenLocalizer (some "de")
  obtain ⟨-, each, -⟩ := localizers brokenLocalizer (some "en")
  obtain ⟨-, -, additive⟩ := localizers brokenLocalizer none
  exact ⟨⟨unlisted, refused "de" rfl unlisted {}⟩, ⟨supported, (each supported).1⟩,
    ⟨additive soundRequest brokenRequest, by decide +kernel, by decide +kernel,
      by decide +kernel⟩, made, (contexts _ made).1 brokenRequest, by decide +kernel⟩

end Localizer

end Phrasebook
