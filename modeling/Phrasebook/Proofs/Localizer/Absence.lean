import Phrasebook.Program.Basic
import Phrasebook.Proofs.Localizer.Service

/-!
# Keys without a template

There are three ways to localize a key: with its name, with nothing, or with a given text in
place of a template that is missing. All three put the same questions to the source and fail
alike, and a template that is there is rendered alike. So there is one inquiry, which may come
out empty, and each way completes it in its own manner.

Scopes hand on other keys and nothing else, so the same holds of every stack. The name that is
shown there has all scopes before it. The command for a single key is built on these ways. When
it must have a template, it fails exactly where the inquiry comes out empty.
-/

namespace Phrasebook

/-- The text shown for a key without a template behind a path of scopes: the name with the path
before it, or for a literal key its arguments with commas between them. -/
def Key.shownUnder (path : String) (key : Key) : String :=
  match key.lookupName with
  | some name => path ++ name
  | none => ", ".intercalate key.arguments

/-- It is the text that the key shows by itself once it has been handed on. -/
theorem Key.plainText_under (path : String) (key : Key) :
    (key.under path).plainText = key.shownUnder path := by
  cases named : key.lookupName with
  | none => simp [under_of_literal named, plainText, shownUnder, named, joinedArguments]
  | some name => simp [plainText, shownUnder, named]

namespace Service

/-- Whether the ways to localize a key are one inquiry, which is completed with a plain text or
with a given one. -/
structure Completes (service : Service) (key : Key) (plain : String) : Prop where
  /-- The plain text stands in for a template. -/
  localize : service.localize key = (·.getD plain) <$> service.localizeOrNone key
  /-- A given text stands in for a template. -/
  localizeOrDefault (given : String) :
    service.localizeOrDefault key given = (·.getD given) <$> service.localizeOrNone key

/-- Whether the ways to localize a key differ in nothing but what they answer when it has no
template. -/
structure DifferOnAbsence (service : Service) (key : Key) (plain : String) : Prop where
  /-- They ask the same questions. -/
  asked : (service.localize key).asked = (service.localizeOrNone key).asked ∧
    ∀ given, (service.localizeOrDefault key given).asked = (service.localizeOrNone key).asked
  /-- They fail alike. -/
  fails_iff (failure : LocalizationFailure) :
    ((service.localizeOrNone key).result = .error failure ↔
      (service.localize key).result = .error failure) ∧
    ∀ given, (service.localize key).result = .error failure ↔
      (service.localizeOrDefault key given).result = .error failure
  /-- They give the same text when there is a template. -/
  found (text : String) : (service.localizeOrNone key).result = .ok (some text) →
    (service.localize key).result = .ok text ∧
      ∀ given, (service.localizeOrDefault key given).result = .ok text
  /-- Without a template there is the plain text, or the given text as it is. -/
  absent : (service.localizeOrNone key).result = .ok none →
    (service.localize key).result = .ok plain ∧
      ∀ given, (service.localizeOrDefault key given).result = .ok given

/-- One inquiry that is completed in different manners differs only where it comes out empty. -/
theorem Completes.differOnAbsence {service : Service} {key : Key} {plain : String}
    (completes : service.Completes key plain) : service.DifferOnAbsence key plain where
  asked := by
    simp [completes.localize, completes.localizeOrDefault]
  fails_iff failure := by
    simp [completes.localize, completes.localizeOrDefault, Steps.map_eq_error_iff]
  found text answered := by
    rw [completes.localize, Inquiry.result_map, answered]
    refine ⟨rfl, ?_⟩
    intro given
    rw [completes.localizeOrDefault, Inquiry.result_map, answered]
    rfl
  absent answered := by
    rw [completes.localize, Inquiry.result_map, answered]
    refine ⟨rfl, ?_⟩
    intro given
    rw [completes.localizeOrDefault, Inquiry.result_map, answered]
    rfl

/-- Behind a text the ways to localize a key are those for the key that is handed on. -/
theorem Completes.under {service : Service} {key : Key} {plain path : String}
    (completes : service.Completes (key.under path) plain) :
    (service.under path).Completes key plain :=
  ⟨completes.localize, completes.localizeOrDefault⟩

end Service

namespace Resolver

/-- What to answer for a missing template is decided when the inquiry is over. -/
theorem resolveIn_eq_map (resolver : Resolver) (language : String) (key : Key)
    (fallback : Fallback) :
    resolver.resolveIn language key fallback =
      (·.or (fallback.apply key)) <$> resolver.resolveIn language key .absent := by
  unfold resolveIn
  cases key.lookupName with
  | none => rfl
  | some name =>
    simp only [map_bind]
    congr 1
    funext answer
    cases answer with
    | none => rfl
    | some template =>
      dsimp only
      cases render template key.arguments <;> rfl

/-- The same holds when the language has to be settled first. -/
theorem resolve_eq_map (resolver : Resolver) (language : Option String) (key : Key)
    (fallback : Fallback) :
    resolver.resolve language key fallback =
      (·.or (fallback.apply key)) <$> resolver.resolve language key .absent := by
  rw [resolve, resolve, map_bind]
  congr 1
  funext used
  exact resolver.resolveIn_eq_map used key fallback

/-- A resolver completes an empty inquiry with the name of the key, or its arguments. -/
theorem completes (resolver : Resolver) (language : Option String) (key : Key) :
    ((Localizer.base resolver).service language).Completes key key.plainText where
  localize := by
    simp only [Localizer.service, Localizer.localize, Localizer.localizeOrNone,
      Localizer.resolve, resolver.resolve_eq_map language key .keyName, ← map_eq_pure_bind,
      Functor.map_map]
    congr 1
    funext answer
    cases answer <;> rfl
  localizeOrDefault given := by
    simp only [Localizer.service, Localizer.localizeOrDefault, Localizer.localizeOrNone,
      Localizer.resolve, resolver.resolve_eq_map language key (.text given), ← map_eq_pure_bind,
      Functor.map_map]
    congr 1
    funext answer
    cases answer <;> rfl

end Resolver

namespace Localizer

/-- Inside scopes an empty inquiry is completed with the name behind the scopes. -/
theorem completes_under (resolver : Resolver) (scopes : List (Option String))
    (language : Option String) (key : Key) :
    (((base resolver).service language).under (joinScopes scopes)).Completes key
      (key.shownUnder (joinScopes scopes)) := by
  have handedOn := resolver.completes language (key.under (joinScopes scopes))
  rw [Key.plainText_under] at handedOn
  exact handedOn.under

/-- Around a resolver an empty inquiry is completed with the name behind the scopes. -/
theorem completes_withinAll (resolver : Resolver) (scopes : List (Option String))
    (language : Option String) (key : Key) :
    (((base resolver).withinAll scopes).service language).Completes key
      (key.shownUnder (joinScopes scopes)) := by
  rw [service_withinAll]
  exact completes_under resolver scopes language key

/-- Around a context the scopes come behind those around its localizer. -/
theorem completes_context {resolver : Resolver} {inner : List (Option String)}
    {language : Option String} {context : Context}
    (binds : ((base resolver).withinAll inner).context language = .ok context)
    (outer : List (Option String)) (key : Key) :
    (context.withinAll outer).service.Completes key
      (key.shownUnder (joinScopes (inner ++ outer))) := by
  rw [context_eq] at binds
  obtain ⟨used, -, rfl⟩ := Steps.map_eq_ok_iff.1 binds
  rw [Context.service_withinAll, Context.service_bound, service_withinAll, Service.under_under,
    ← joinScopes_append]
  exact completes_under resolver (inner ++ outer) (some used) key

section Command

variable {localizer : Localizer} {language : Option String} {name : String}
  {arguments : List String}

/-- The command for a key that must have a template turns the inquiry about the key into its
own result. -/
theorem run_refuse :
    localizer.run (.key language name arguments .refuse) =
      match (localizer.localizeOrNone language ⟨some name, arguments⟩).result with
      | .ok (some text) => .ok text
      | .ok none => .error (.missingTemplate name (language.getD localizer.defaultLanguage))
      | .error failure => .error (.localization failure) := by
  rw [run, answerKey]
  obtain failure | _ | text :=
    (localizer.localizeOrNone language ⟨some name, arguments⟩).result <;> rfl

/-- It succeeds exactly with the text of the template. -/
theorem run_refuse_eq_ok_iff {text : String} :
    localizer.run (.key language name arguments .refuse) = .ok text ↔
      (localizer.localizeOrNone language ⟨some name, arguments⟩).result = .ok (some text) := by
  rw [run_refuse]
  obtain failure | _ | found :=
    (localizer.localizeOrNone language ⟨some name, arguments⟩).result <;> simp

/-- It reports a missing template exactly where the inquiry comes out empty. -/
theorem run_refuse_eq_missing_iff {missing used : String} :
    localizer.run (.key language name arguments .refuse) =
        .error (.missingTemplate missing used) ↔
      (localizer.localizeOrNone language ⟨some name, arguments⟩).result = .ok none ∧
        missing = name ∧ used = language.getD localizer.defaultLanguage := by
  rw [run_refuse]
  obtain failure | _ | found :=
    (localizer.localizeOrNone language ⟨some name, arguments⟩).result <;> simp [eq_comm]

/-- It reports any other failure of the inquiry. -/
theorem run_refuse_of_error {failure : LocalizationFailure}
    (failed : (localizer.localizeOrNone language ⟨some name, arguments⟩).result =
      .error failure) :
    localizer.run (.key language name arguments .refuse) = .error (.localization failure) := by
  rw [run_refuse, failed]

/-- The command for a key that may show its name fails as localizing the key does. -/
theorem run_showName_of_error {failure : LocalizationFailure}
    (failed : (localizer.localize language ⟨some name, arguments⟩).result = .error failure) :
    localizer.run (.key language name arguments .showName) = .error (.localization failure) := by
  rw [run, answerKey, failed]
  rfl

end Command

/-- On every stack the ways to localize a key differ only where it has no template. So does
the command for a key: if it must have a template, it succeeds exactly with the text of the
template, and it fails for want of one exactly where the inquiry comes out empty. -/
theorem policies_differ_on_absence (resolver : Resolver) (inner outer : List (Option String))
    (language : Option String) :
    let localizer := (base resolver).withinAll inner
    (∀ key, (localizer.service language).DifferOnAbsence key
      (key.shownUnder (joinScopes inner))) ∧
    (∀ context, localizer.context language = .ok context →
      ∀ key, (context.withinAll outer).service.DifferOnAbsence key
        (key.shownUnder (joinScopes (inner ++ outer)))) ∧
    ∀ name arguments,
      let answer := (localizer.localizeOrNone language ⟨some name, arguments⟩).result
      let strict := localizer.run (.key language name arguments .refuse)
      (∀ text, strict = .ok text ↔ answer = .ok (some text)) ∧
      (∀ missing used, strict = .error (.missingTemplate missing used) ↔
        answer = .ok none ∧ missing = name ∧
          used = language.getD resolver.defaultLanguage) ∧
      ∀ failure, answer = .error failure →
        strict = .error (.localization failure) ∧
          localizer.run (.key language name arguments .showName) =
            .error (.localization failure) := by
  intro localizer
  have alone : ∀ key, (localizer.service language).DifferOnAbsence key
      (key.shownUnder (joinScopes inner)) :=
    fun key => (completes_withinAll resolver inner language key).differOnAbsence
  have default : localizer.defaultLanguage = resolver.defaultLanguage := by
    rw [defaultLanguage, resolver_withinAll, Localizer.resolver]
  refine ⟨alone, ?_, ?_⟩
  · intro context binds key
    exact (completes_context binds outer key).differOnAbsence
  · intro name arguments answer strict
    refine ⟨fun text => run_refuse_eq_ok_iff, ?_, ?_⟩
    · intro missing used
      rw [← default]
      exact run_refuse_eq_missing_iff
    · intro failure failed
      have same : (localizer.localize language ⟨some name, arguments⟩).result =
          .error failure := ((alone ⟨some name, arguments⟩).fails_iff failure).1.1 failed
      exact ⟨run_refuse_of_error failed, run_showName_of_error same⟩

/-- A scope around the resolver of a menu. -/
def scopedMenu : Localizer := (base menuResolver).withinAll [some "menu"]

/-- What it binds in a language. -/
def germanMenu : Context := .bound scopedMenu "de"

/-- A key with a template, a key without one, literal keys, and a language that is not
supported, on a stack and for the command. -/
theorem policies_differ_on_absence_menu :
    scopedMenu.context (some "de") = .ok germanMenu ∧
    ((((germanMenu.withinAll [none, some "file"]).service.localizeOrNone
          ⟨some "close", ["a", "b"]⟩).result = .ok (some "b: a")) ∧
      ((germanMenu.withinAll [none, some "file"]).service.localizeOrDefault
          ⟨some "close", ["a", "b"]⟩ "\\\x7b\x7d").result = .ok "b: a") ∧
    ((((germanMenu.withinAll [none, some "file"]).service.localizeOrNone
          ⟨some "open", ["a"]⟩).result = .ok none) ∧
      ((germanMenu.withinAll [none, some "file"]).service.localize
          ⟨some "open", ["a"]⟩).result = .ok "menu.file.open" ∧
      ((germanMenu.withinAll [none, some "file"]).service.localizeOrDefault
          ⟨some "open", ["a"]⟩ "\\\x7b\x7d").result = .ok "\\\x7b\x7d") ∧
    ((((germanMenu.withinAll [none, some "file"]).service.localizeOrNone
          ⟨some " ", ["a", "b"]⟩).result = .ok none) ∧
      ((germanMenu.withinAll [none, some "file"]).service.localize
          ⟨some " ", ["a", "b"]⟩).result = .ok "a, b") ∧
    ((scopedMenu.localizeOrNone none ⟨some "file.close", []⟩).result = .ok none ∧
      scopedMenu.run (.key none "file.close" [] .refuse) =
        .error (.missingTemplate "file.close" "en")) ∧
    ((scopedMenu.localizeOrNone (some "fr") ⟨some " ", []⟩).result =
        .error (.unsupportedLanguage "fr") ∧
      scopedMenu.run (.key (some "fr") " " [] .refuse) =
        .error (.localization (.unsupportedLanguage "fr")) ∧
      scopedMenu.run (.key (some "fr") " " [] .showName) =
        .error (.localization (.unsupportedLanguage "fr"))) := by
  have binds : scopedMenu.context (some "de") = .ok germanMenu := rfl
  obtain ⟨-, contexts, -⟩ :=
    policies_differ_on_absence menuResolver [some "menu"] [none, some "file"] (some "de")
  obtain ⟨-, -, byDefault⟩ :=
    policies_differ_on_absence menuResolver [some "menu"] [none, some "file"] none
  obtain ⟨-, -, inFrench⟩ :=
    policies_differ_on_absence menuResolver [some "menu"] [none, some "file"] (some "fr")
  have bound := contexts germanMenu binds
  have close : ((germanMenu.withinAll [none, some "file"]).service.localizeOrNone
      ⟨some "close", ["a", "b"]⟩).result = .ok (some "b: a") := by decide +kernel
  have opened : ((germanMenu.withinAll [none, some "file"]).service.localizeOrNone
      ⟨some "open", ["a"]⟩).result = .ok none := by decide +kernel
  have blank : ((germanMenu.withinAll [none, some "file"]).service.localizeOrNone
      ⟨some " ", ["a", "b"]⟩).result = .ok none := by decide +kernel
  have missing : (scopedMenu.localizeOrNone none ⟨some "file.close", []⟩).result = .ok none := by
    decide +kernel
  have refused : (scopedMenu.localizeOrNone (some "fr") ⟨some " ", []⟩).result =
      .error (.unsupportedLanguage "fr") := by decide +kernel
  exact ⟨binds, ⟨close, ((bound _).found _ close).2 _⟩,
    ⟨opened, ((bound _).absent opened).1, ((bound _).absent opened).2 _⟩,
    ⟨blank, ((bound _).absent blank).1⟩,
    ⟨missing, ((byDefault _ _).2.1 _ _).2 ⟨missing, rfl, rfl⟩⟩,
    ⟨refused, (inFrench _ _).2.2 _ refused⟩⟩

end Localizer

end Phrasebook
