import Phrasebook.Proofs.Localizer.Absence
import Phrasebook.Proofs.Localizer.Batch

/-!
# Translating nothing

The disabled context has rules of its own and no source. It answers as a context does whose
source has not a single template in its language: a key shows its name behind all scopes, or its
arguments if it is literal, a given text stays as it is, and nothing fails. There is one
difference. Asked for a key with nothing in place of a missing template, the disabled context
still shows the name, while the other one answers nothing.

Only answers are compared. The disabled context asks no questions, and the other one asks for
every key with a name.
-/

namespace Phrasebook

/-- Whether a source has no template in a language. -/
def Source.Silent (source : Source) (language : String) : Prop :=
  ∀ name, source.lookup language name = none

namespace Service

/-- Whether a service works without templates: it shows each key in its own way, and it has its
own way to answer when nothing may stand in for a template. -/
structure Untranslated (service : Service) (shown : Key → String)
    (orNone : Key → Option String) : Prop where
  /-- A key is shown. -/
  localize (key : Key) : (service.localize key).result = .ok (shown key)
  /-- Nothing may stand in for the template of a key. -/
  localizeOrNone (key : Key) : (service.localizeOrNone key).result = .ok (orNone key)
  /-- A given text stays as it is. -/
  localizeOrDefault (key : Key) (given : String) :
    (service.localizeOrDefault key given).result = .ok given
  /-- The keys of a request are shown one after the other. -/
  localizeRequest (request : Request) :
    (service.localizeRequest request).result = .ok (String.join (request.keys.map shown))

variable {service : Service}

/-- Behind a text keys are shown as they are handed on. -/
theorem Untranslated.under {orNone : Key → Option String}
    (untranslated : service.Untranslated Key.plainText orNone) (path : String) :
    (service.under path).Untranslated (Key.shownUnder path) fun key => orNone (key.under path) where
  localize key := by
    rw [← Key.plainText_under]
    exact untranslated.localize (key.under path)
  localizeOrNone key := untranslated.localizeOrNone (key.under path)
  localizeOrDefault key given := untranslated.localizeOrDefault (key.under path) given
  localizeRequest request := by
    have handedOn : (request.keys.map (Key.under path)).map Key.plainText =
        request.keys.map (Key.shownUnder path) := by
      simp [Key.plainText_under]
    rw [← handedOn]
    exact untranslated.localizeRequest ⟨request.keys.map (Key.under path)⟩

/-- A request that is localized key by key shows its keys when each of them is just shown. -/
theorem KeyByKey.result_localizeRequest {shown : Key → String} (keyByKey : service.KeyByKey)
    (each : ∀ key, (service.localize key).result = .ok (shown key)) (request : Request) :
    (service.localizeRequest request).result = .ok (String.join (request.keys.map shown)) := by
  rw [keyByKey, Inquiry.result_map, Inquiry.result_mapM each]
  rfl

end Service

/-- A key has no template where its source is silent. -/
theorem Resolver.localizeOrNone_of_silent {resolver : Resolver} {language : String}
    (listed : language ∈ resolver.supported) (silent : resolver.source.Silent language)
    (key : Key) :
    (((Localizer.base resolver).service (some language)).localizeOrNone key).result = .ok none := by
  have settled := effectiveLanguage_of_mem listed
  have inLanguage : (resolver.resolveIn language key .absent).result = .ok none := by
    unfold resolveIn
    cases key.lookupName with
    | none => rfl
    | some name => simp [Inquiry.ask, silent name, Inquiry.bind_ok, Fallback.apply]
  simp only [Localizer.service, Localizer.localizeOrNone, Localizer.resolve, resolve, settled,
    Inquiry.ofExcept_ok, pure_bind]
  exact inLanguage

namespace Context

/-- The disabled context works without templates. -/
theorem untranslated_disabled :
    disabled.service.Untranslated Key.plainText fun key => some key.plainText where
  localize _ := rfl
  localizeOrNone _ := rfl
  localizeOrDefault _ _ := rfl
  localizeRequest := keyByKey_disabled.result_localizeRequest fun _ => rfl

/-- A context in whose language the source is silent works without templates, too. -/
theorem untranslated_of_silent {resolver : Resolver} {language : Option String}
    {context : Context} (binds : (Localizer.base resolver).context language = .ok context)
    (silent : resolver.source.Silent context.language) :
    context.service.Untranslated Key.plainText fun _ => none := by
  have keyByKey := keyByKey_of_bound binds
  rw [Localizer.context_eq] at binds
  obtain ⟨used, settled, rfl⟩ := Steps.map_eq_ok_iff.1 binds
  have listed := Resolver.mem_of_effectiveLanguage settled
  have absent := Resolver.localizeOrNone_of_silent listed silent
  have answers : ∀ key, _ := fun key =>
    (resolver.completes (some used) key).differOnAbsence.absent (absent key)
  have each : ∀ key, ((bound (.base resolver) used).service.localize key).result =
      .ok key.plainText := fun key => (answers key).1
  exact ⟨each, absent, fun key => (answers key).2, keyByKey.result_localizeRequest each⟩

/-- Behind the same scopes the disabled context answers like a context in whose language the
source is silent. Keys, given texts and requests have the same text on both sides, and nothing
fails. Only where nothing may stand in for a template, the first still shows the key and the
second answers nothing. -/
theorem disabled_eq_silent {resolver : Resolver} {language : Option String} {context : Context}
    (binds : (Localizer.base resolver).context language = .ok context)
    (silent : resolver.source.Silent context.language) (scopes : List (Option String)) :
    let shown := Key.shownUnder (joinScopes scopes)
    let off := (disabled.withinAll scopes).service
    let on := (context.withinAll scopes).service
    (∀ key, (off.localize key).result = .ok (shown key) ∧
      (on.localize key).result = .ok (shown key)) ∧
    (∀ key given, (off.localizeOrDefault key given).result = .ok given ∧
      (on.localizeOrDefault key given).result = .ok given) ∧
    (∀ request : Request,
      (off.localizeRequest request).result = .ok (String.join (request.keys.map shown)) ∧
      (on.localizeRequest request).result = .ok (String.join (request.keys.map shown))) ∧
    ∀ key, (off.localizeOrNone key).result = .ok (some (shown key)) ∧
      (on.localizeOrNone key).result = .ok none := by
  intro shown off on
  have first : off.Untranslated shown fun key =>
      some (key.under (joinScopes scopes)).plainText := by
    have inside := untranslated_disabled.under (joinScopes scopes)
    rwa [← service_withinAll] at inside
  have second : on.Untranslated shown fun _ => none := by
    have inside := (untranslated_of_silent binds silent).under (joinScopes scopes)
    rwa [← service_withinAll] at inside
  refine ⟨?_, ?_, ?_, ?_⟩
  · exact fun key => ⟨first.localize key, second.localize key⟩
  · exact fun key given => ⟨first.localizeOrDefault key given, second.localizeOrDefault key given⟩
  · exact fun request => ⟨first.localizeRequest request, second.localizeRequest request⟩
  · intro key
    refine ⟨?_, second.localizeOrNone key⟩
    rw [first.localizeOrNone, Key.plainText_under]

/-- A source that has templates in one of its two languages only. -/
def quietSource : Source :=
  (Catalog.ofLists [("en", []), ("fr", [("menu.file.open", "\x7b1\x7d!")])]).toSource

/-- The resolver over it. -/
def quietResolver : Resolver := ⟨["en", "fr"], "fr", quietSource, by decide⟩

/-- A key with a name and arguments, a literal key whose name is blank, and a request with both,
behind scopes two of which add nothing. -/
theorem disabled_eq_silent_menu :
    let scopes := [some "menu", none, some " ", some "file."]
    let off := (disabled.withinAll scopes).service
    let on := ((bound (.base quietResolver) "en").withinAll scopes).service
    let request : Request := ⟨[⟨some "open", ["a"]⟩, ⟨some " ", ["b", "c"]⟩]⟩
    ((Localizer.base quietResolver).context (some "en") =
        .ok (bound (.base quietResolver) "en") ∧
      quietResolver.source.Silent "en") ∧
    ((off.localize ⟨some "open", ["a"]⟩).result = .ok "menu.file.open" ∧
      (on.localize ⟨some "open", ["a"]⟩).result = .ok "menu.file.open") ∧
    ((off.localizeOrDefault ⟨some "open", ["a"]⟩ "\x7b\x7d").result = .ok "\x7b\x7d" ∧
      (on.localizeOrDefault ⟨some "open", ["a"]⟩ "\x7b\x7d").result = .ok "\x7b\x7d") ∧
    ((off.localizeRequest request).result = .ok "menu.file.openb, c" ∧
      (on.localizeRequest request).result = .ok "menu.file.openb, c") ∧
    ((off.localizeOrNone ⟨some " ", ["b", "c"]⟩).result = .ok (some "b, c") ∧
      (on.localizeOrNone ⟨some " ", ["b", "c"]⟩).result = .ok none) := by
  intro scopes off on request
  have binds : (Localizer.base quietResolver).context (some "en") =
      .ok (bound (.base quietResolver) "en") := rfl
  have silent : quietResolver.source.Silent "en" := fun _ => rfl
  have named : Key.shownUnder (joinScopes scopes) ⟨some "open", ["a"]⟩ = "menu.file.open" := by
    decide +kernel
  have literal : Key.shownUnder (joinScopes scopes) ⟨some " ", ["b", "c"]⟩ = "b, c" := by
    decide +kernel
  have joined : String.join (request.keys.map (Key.shownUnder (joinScopes scopes))) =
      "menu.file.openb, c" := by decide +kernel
  obtain ⟨single, given, batch, orNone⟩ := disabled_eq_silent binds silent scopes
  have alone := single ⟨some "open", ["a"]⟩
  have together := batch request
  have asked := orNone ⟨some " ", ["b", "c"]⟩
  rw [named] at alone
  rw [joined] at together
  rw [literal] at asked
  exact ⟨⟨binds, silent⟩, alone, given _ _, together, asked⟩

end Context

end Phrasebook
