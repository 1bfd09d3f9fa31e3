import Phrasebook.Localizer.Basic
import Phrasebook.Proofs.Localizer.Inquiry
import Phrasebook.Proofs.Steps

/-!
# What a source is asked

A localizer asks its source in one language only. It asks for each key that has a name to
look up, in the order of the keys and once for each time the key occurs. It stops behind
the first key whose template can not be rendered, and this is the only failure once the
language is settled. An unsupported language is refused before anything is asked.

An answer therefore depends only on what the source says to the questions asked: a source
that answers these questions alike leads to the same answer, whatever else it holds.
-/

namespace Phrasebook

open Inquiry (Tracks)

universe u
variable {α β : Type u}

/-- The questions for keys: one for each key with a name to look up. -/
def questions (language : String) (keys : List Key) : List Question :=
  keys.filterMap fun key => key.lookupName.map fun name => (language, name)

theorem questions_append (language : String) (left right : List Key) :
    questions language (left ++ right) = questions language left ++ questions language right :=
  List.filterMap_append

theorem language_of_mem_questions {language : String} {keys : List Key} {question : Question}
    (asked : question ∈ questions language keys) : question.1 = language := by
  obtain ⟨key, -, found⟩ := List.mem_filterMap.1 asked
  obtain ⟨name, -, rfl⟩ := Option.map_eq_some_iff.1 found
  rfl

/-- Whether the template that a source has for a key can not be rendered with the
arguments of the key, and why. -/
def Source.FailsFor (source : Source) (language : String) (key : Key)
    (stray : StrayDelimiter) : Prop :=
  ∃ name template, key.lookupName = some name ∧ source.lookup language name = some template ∧
    render template key.arguments = .error stray

/-- Whether an inquiry has asked for keys as it should. -/
inductive Disciplined (source : Source) (language : String) : List Key → Inquiry α → Prop where
  /-- All keys have been asked for, and there is an answer. -/
  | answered (keys : List Key) (value : α)
      (sound : ∀ key ∈ keys, ∀ stray, ¬ source.FailsFor language key stray) :
      Disciplined source language keys ⟨questions language keys, .ok value⟩
  /-- The keys up to the first with a broken template have been asked for, and what is
  wrong with that template is reported. -/
  | stopped (earlier : List Key) (key : Key) (later : List Key) (stray : StrayDelimiter)
      (sound : ∀ key ∈ earlier, ∀ stray, ¬ source.FailsFor language key stray)
      (fails : source.FailsFor language key stray) :
      Disciplined source language (earlier ++ key :: later)
        ⟨questions language (earlier ++ [key]), .error (.template stray)⟩

namespace Disciplined

variable {source : Source} {language : String}

/-- Without keys nothing is asked. -/
theorem pure (value : α) : Disciplined source language [] (Pure.pure value : Inquiry α) :=
  answered [] value fun _ absent => absurd absent List.not_mem_nil

/-- Keys are asked for before those of the next inquiry. -/
theorem bind {keys later : List Key} {inquiry : Inquiry α} {next : α → Inquiry β}
    (first : Disciplined source language keys inquiry)
    (following : ∀ value, Disciplined source language later (next value)) :
    Disciplined source language (keys ++ later) (inquiry >>= next) := by
  cases first with
  | stopped earlier key rest stray sound fails =>
    rw [Inquiry.bind_error, List.append_assoc, List.cons_append]
    exact stopped earlier key (rest ++ later) stray sound fails
  | answered _ value sound =>
    rw [Inquiry.bind_ok]
    generalize next value = reached, following value = second
    cases second with
    | answered _ result soundLater =>
      rw [← questions_append]
      exact answered (keys ++ later) result (List.forall_mem_append.2 ⟨sound, soundLater⟩)
    | stopped earlier key rest stray soundEarlier fails =>
      rw [← questions_append, ← List.append_assoc, ← List.append_assoc]
      have soundBefore := List.forall_mem_append.2 ⟨sound, soundEarlier⟩
      exact stopped (keys ++ earlier) key rest stray soundBefore fails

/-- The inquiry about one key that does not fail. -/
theorem single_answered {key : Key} (value : α)
    (sound : ∀ stray, ¬ source.FailsFor language key stray) :
    Disciplined source language [key] ⟨questions language [key], .ok value⟩ :=
  answered [key] value (List.forall_mem_singleton.2 sound)

/-- The inquiry about one key that fails. -/
theorem single_stopped {key : Key} {stray : StrayDelimiter}
    (fails : source.FailsFor language key stray) :
    Disciplined source language [key]
      (⟨questions language [key], .error (.template stray)⟩ : Inquiry α) :=
  stopped [] key [] stray (fun _ absent => absurd absent List.not_mem_nil) fails

/-- Changing the answer asks nothing. -/
theorem map (change : α → β) {keys : List Key} {inquiry : Inquiry α}
    (disciplined : Disciplined source language keys inquiry) :
    Disciplined source language keys (change <$> inquiry) := by
  rw [map_eq_pure_bind, ← List.append_nil keys]
  exact disciplined.bind fun value => pure (change value)

/-- Only one language is asked for. -/
theorem asked_language {keys : List Key} {inquiry : Inquiry α}
    (disciplined : Disciplined source language keys inquiry) :
    ∀ question ∈ inquiry.asked, question.1 = language := by
  cases disciplined with
  | answered _ _ _ => exact fun _ asked => language_of_mem_questions asked
  | stopped _ _ _ _ _ _ => exact fun _ asked => language_of_mem_questions asked

end Disciplined

namespace Resolver

/-- A resolver that is built has the languages and the source that it was built from. -/
theorem build_fields {supported : List String} {defaultLanguage : String} {source : Source}
    {resolver : Resolver} (built : build supported defaultLanguage source = .ok resolver) :
    resolver.supported = supported ∧ resolver.defaultLanguage = defaultLanguage ∧
      resolver.source = source := by
  unfold build at built
  split at built
  · cases built
  · split at built
    · split at built
      · cases built
      · cases built
        exact ⟨rfl, rfl, rfl⟩
    · cases built

/-- A key is asked for at most once, and its template is the only thing that can fail. -/
theorem resolveIn_disciplined (resolver : Resolver) (language : String) (key : Key)
    (fallback : Fallback) :
    Disciplined resolver.source language [key] (resolver.resolveIn language key fallback) := by
  unfold resolveIn
  cases named : key.lookupName with
  | none =>
    have nothing : questions language [key] = [] := by simp [questions, named]
    have sound : ∀ stray, ¬ resolver.source.FailsFor language key stray := by
      simp [Source.FailsFor, named]
    have disciplined := Disciplined.single_answered (fallback.apply key) sound
    rwa [nothing] at disciplined
  | some name =>
    have once : questions language [key] = [(language, name)] := by simp [questions, named]
    have fails_iff : ∀ stray, resolver.source.FailsFor language key stray ↔
        ∃ template, resolver.source.lookup language name = some template ∧
          render template key.arguments = .error stray := by
      simp [Source.FailsFor, named]
    simp only [Inquiry.ask, Inquiry.bind_ok, ← once]
    cases found : resolver.source.lookup language name with
    | none =>
      have sound : ∀ stray, ¬ resolver.source.FailsFor language key stray := by
        simp [fails_iff, found]
      simpa using Disciplined.single_answered (fallback.apply key) sound
    | some template =>
      cases rendered : render template key.arguments with
      | ok text =>
        have sound : ∀ stray, ¬ resolver.source.FailsFor language key stray := by
          simp [fails_iff, found, rendered]
        simpa [rendered] using Disciplined.single_answered (some text) sound
      | error stray =>
        have fails : resolver.source.FailsFor language key stray :=
          (fails_iff stray).2 ⟨template, found, rendered⟩
        simpa [rendered] using Disciplined.single_stopped fails

/-- A supported language is used as it is given. -/
theorem effectiveLanguage_of_mem {resolver : Resolver} {language : String}
    (listed : language ∈ resolver.supported) :
    resolver.effectiveLanguage (some language) = .ok language := by
  simp [effectiveLanguage, isSupported, listed]

/-- An unsupported language is refused. -/
theorem effectiveLanguage_of_not_mem {resolver : Resolver} {language : String}
    (unlisted : language ∉ resolver.supported) :
    resolver.effectiveLanguage (some language) = .error (.unsupportedLanguage language) := by
  simp [effectiveLanguage, isSupported, unlisted]

/-- The language is settled by the languages of a resolver alone. -/
theorem effectiveLanguage_congr {resolver twin : Resolver}
    (sameSupported : twin.supported = resolver.supported)
    (sameDefault : twin.defaultLanguage = resolver.defaultLanguage) (language : Option String) :
    twin.effectiveLanguage language = resolver.effectiveLanguage language := by
  cases language with
  | none => simp only [effectiveLanguage, sameDefault]
  | some given => simp [effectiveLanguage, isSupported, sameSupported]

/-- Settling the language fails for a given language that is not supported, and only then. -/
theorem effectiveLanguage_eq_error_iff {resolver : Resolver} {language : Option String}
    {failure : LocalizationFailure} :
    resolver.effectiveLanguage language = .error failure ↔
      ∃ given, language = some given ∧ given ∉ resolver.supported ∧
        failure = .unsupportedLanguage given := by
  cases language with
  | none => simp [effectiveLanguage]
  | some given =>
    by_cases listed : given ∈ resolver.supported
    · simp [effectiveLanguage_of_mem listed, listed]
    · simp [effectiveLanguage_of_not_mem listed, listed, eq_comm]

/-- Otherwise the given language is settled on, or the default language. -/
theorem effectiveLanguage_of_supported {resolver : Resolver} {language : Option String}
    (supported : ∀ given ∈ language, given ∈ resolver.supported) :
    resolver.effectiveLanguage language = .ok (language.getD resolver.defaultLanguage) := by
  cases language with
  | none => rfl
  | some given => exact effectiveLanguage_of_mem (supported given rfl)

/-- What is settled on is supported. -/
theorem mem_of_effectiveLanguage {resolver : Resolver} {language : Option String}
    {used : String} (settled : resolver.effectiveLanguage language = .ok used) :
    used ∈ resolver.supported := by
  cases language with
  | none =>
    cases settled
    exact resolver.default_supported
  | some given =>
    by_cases listed : given ∈ resolver.supported
    · cases (effectiveLanguage_of_mem listed).symm.trans settled
      exact listed
    · cases (effectiveLanguage_of_not_mem listed).symm.trans settled

/-- In a supported language a key is resolved without more ado. -/
theorem resolve_of_mem {resolver : Resolver} {language : String}
    (listed : language ∈ resolver.supported) (key : Key) (fallback : Fallback) :
    resolver.resolve (some language) key fallback = resolver.resolveIn language key fallback := by
  rw [resolve, effectiveLanguage_of_mem listed, Inquiry.ofExcept_ok, pure_bind]

/-- It makes no difference to check a language again that has been settled. -/
theorem resolve_of_settled {resolver : Resolver} {language : Option String} {used : String}
    (settled : resolver.effectiveLanguage language = .ok used) (key : Key) (fallback : Fallback) :
    resolver.resolve (some used) key fallback = resolver.resolve language key fallback := by
  rw [resolve, resolve, settled, effectiveLanguage_of_mem (mem_of_effectiveLanguage settled)]

/-- The keys of a request are asked for one after the other. -/
theorem concatenate_disciplined {resolver : Resolver} {language : String}
    (listed : language ∈ resolver.supported) (keys : List Key) :
    Disciplined resolver.source language keys (resolver.concatenate language keys) := by
  induction keys with
  | nil => exact Disciplined.pure ""
  | cons key rest inductionHypothesis =>
    have first : Disciplined resolver.source language [key]
        (resolver.localize (some language) key) := by
      rw [localize, resolve_of_mem listed, ← map_eq_pure_bind]
      exact (resolver.resolveIn_disciplined language key .keyName).map _
    exact first.bind fun text => inductionHypothesis.map (text ++ ·)

/-- Where sources agree on what is asked for a key, the key has the same answer. -/
theorem resolveIn_tracks (resolver twin : Resolver) (language : String) (key : Key)
    (fallback : Fallback) :
    Tracks resolver.source twin.source (resolver.resolveIn language key fallback)
      (twin.resolveIn language key fallback) := by
  unfold resolveIn
  cases key.lookupName with
  | none => exact Tracks.refl _
  | some name => exact (Tracks.ask language name).bind fun _ => Tracks.refl _

section Twin

variable {resolver twin : Resolver}

/-- The same holds when the language has to be settled first, by the same languages. -/
theorem localize_tracks (sameSupported : twin.supported = resolver.supported)
    (sameDefault : twin.defaultLanguage = resolver.defaultLanguage) (language : Option String)
    (key : Key) :
    Tracks resolver.source twin.source (resolver.localize language key)
      (twin.localize language key) := by
  rw [localize, localize, resolve, resolve,
    effectiveLanguage_congr sameSupported sameDefault language]
  have resolved := fun used => resolver.resolveIn_tracks twin used key .keyName
  exact ((Tracks.refl _).bind resolved).bind fun _ => Tracks.refl _

/-- Where sources agree on what is asked for keys, the keys have the same text. -/
theorem concatenate_tracks (sameSupported : twin.supported = resolver.supported)
    (sameDefault : twin.defaultLanguage = resolver.defaultLanguage) (language : String)
    (keys : List Key) :
    Tracks resolver.source twin.source (resolver.concatenate language keys)
      (twin.concatenate language keys) := by
  induction keys with
  | nil => exact Tracks.refl _
  | cons key rest inductionHypothesis =>
    have first := localize_tracks sameSupported sameDefault (some language) key
    exact first.bind fun text => inductionHypothesis.map (text ++ ·)

end Twin

end Resolver

namespace Localizer

/-- A call that resolves keys: one key with some way to answer when it has no template, or
the keys of a request. -/
inductive Call where
  /-- One key, with any fallback. -/
  | resolve (key : Key) (fallback : Fallback)
  /-- One key, or its name. -/
  | localize (key : Key)
  /-- One key, or nothing. -/
  | localizeOrNone (key : Key)
  /-- One key, or the given text. -/
  | localizeOrDefault (key : Key) (given : String)
  /-- All keys of a request. -/
  | localizeRequest (request : Request)

namespace Call

/-- The keys that a call resolves. -/
def keys : Call → List Key
  | .resolve key _ => [key]
  | .localize key => [key]
  | .localizeOrNone key => [key]
  | .localizeOrDefault key _ => [key]
  | .localizeRequest request => request.keys

/-- Make the call. A text stands for an answer that is always there. -/
def run (localizer : Localizer) (language : Option String) : Call → Inquiry (Option String)
  | .resolve key fallback => localizer.resolve language key fallback
  | .localize key => some <$> localizer.localize language key
  | .localizeOrNone key => localizer.localizeOrNone language key
  | .localizeOrDefault key given => some <$> localizer.localizeOrDefault language key given
  | .localizeRequest request => some <$> localizer.localizeRequest language request

/-- What a call does once the language is settled. -/
def runIn (resolver : Resolver) (language : String) : Call → Inquiry (Option String)
  | .resolve key fallback => resolver.resolveIn language key fallback
  | .localize key => (fun answer => some (answer.getD "")) <$>
      resolver.resolveIn language key .keyName
  | .localizeOrNone key => resolver.resolveIn language key .absent
  | .localizeOrDefault key given => (fun answer => some (answer.getD given)) <$>
      resolver.resolveIn language key (.text given)
  | .localizeRequest request => some <$> resolver.concatenate language request.keys

/-- A call settles the language first. -/
theorem run_base (resolver : Resolver) (language : Option String) (call : Call) :
    call.run (.base resolver) language =
      Inquiry.ofExcept (resolver.effectiveLanguage language) >>= fun used =>
        call.runIn resolver used := by
  cases call <;>
    simp [run, runIn, Localizer.resolve, Localizer.localize, Localizer.localizeOrNone,
      Localizer.localizeOrDefault, Localizer.localizeRequest, Resolver.resolve,
      Resolver.resolveRequest]

/-- In a settled language a call asks for its keys as it should. -/
theorem runIn_disciplined {resolver : Resolver} {language : String}
    (listed : language ∈ resolver.supported) (call : Call) :
    Disciplined resolver.source language call.keys (call.runIn resolver language) := by
  cases call with
  | resolve key fallback => exact resolver.resolveIn_disciplined language key fallback
  | localize key => exact (resolver.resolveIn_disciplined language key .keyName).map _
  | localizeOrNone key => exact resolver.resolveIn_disciplined language key .absent
  | localizeOrDefault key given =>
    exact (resolver.resolveIn_disciplined language key (.text given)).map _
  | localizeRequest request => exact (Resolver.concatenate_disciplined listed request.keys).map _

/-- In a settled language a call has the same answer wherever sources agree on what it
asks. -/
theorem runIn_tracks {resolver twin : Resolver}
    (sameSupported : twin.supported = resolver.supported)
    (sameDefault : twin.defaultLanguage = resolver.defaultLanguage) (language : String)
    (call : Call) :
    Tracks resolver.source twin.source (call.runIn resolver language)
      (call.runIn twin language) := by
  cases call with
  | resolve key fallback => exact resolver.resolveIn_tracks twin language key fallback
  | localize key => exact (resolver.resolveIn_tracks twin language key .keyName).map _
  | localizeOrNone key => exact resolver.resolveIn_tracks twin language key .absent
  | localizeOrDefault key given =>
    exact (resolver.resolveIn_tracks twin language key (.text given)).map _
  | localizeRequest request =>
    exact (Resolver.concatenate_tracks sameSupported sameDefault language request.keys).map _

end Call

/-- Every call keeps to the order of its keys and to one language, fails only at a template,
and depends on nothing but the answers to what it asks. -/
theorem lookup_discipline {supported : List String} {defaultLanguage : String} {source : Source}
    {resolver : Resolver}
    (built : Resolver.build supported defaultLanguage source = .ok resolver) (call : Call) :
    (∀ language, language ∉ supported →
      call.run (.base resolver) (some language) =
        ⟨[], .error (.unsupportedLanguage language)⟩) ∧
    (∀ language ∈ supported,
      Disciplined source language call.keys (call.run (.base resolver) (some language))) ∧
    (defaultLanguage ∈ supported ∧
      call.run (.base resolver) none = call.run (.base resolver) (some defaultLanguage)) ∧
    (∀ other twin, Resolver.build supported defaultLanguage other = .ok twin →
      ∀ language, source.AgreesOn other (call.run (.base resolver) language).asked →
        call.run (.base twin) language = call.run (.base resolver) language) ∧
    (∀ other twin, Resolver.build supported defaultLanguage other = .ok twin →
      ∀ language ∈ supported,
        (∀ name, other.lookup language name = source.lookup language name) →
          call.run (.base twin) (some language) = call.run (.base resolver) (some language)) := by
  obtain ⟨rfl, rfl, rfl⟩ := Resolver.build_fields built
  have disciplined : ∀ language ∈ resolver.supported, Disciplined resolver.source language
      call.keys (call.run (.base resolver) (some language)) := by
    intro language listed
    rw [Call.run_base, Resolver.effectiveLanguage_of_mem listed, Inquiry.ofExcept_ok, pure_bind]
    exact call.runIn_disciplined listed
  have tracks : ∀ other twin,
      Resolver.build resolver.supported resolver.defaultLanguage other = .ok twin →
      ∀ language, Tracks resolver.source other (call.run (.base resolver) language)
        (call.run (.base twin) language) := by
    intro other twin twinBuilt language
    obtain ⟨sameSupported, sameDefault, rfl⟩ := Resolver.build_fields twinBuilt
    rw [Call.run_base, Call.run_base,
      Resolver.effectiveLanguage_congr sameSupported sameDefault language]
    exact (Tracks.refl _).bind fun used => call.runIn_tracks sameSupported sameDefault used
  refine ⟨?_, disciplined, ⟨resolver.default_supported, ?_⟩, tracks, ?_⟩
  · intro language unlisted
    rw [Call.run_base, Resolver.effectiveLanguage_of_not_mem unlisted]
    exact Inquiry.ofExcept_error_bind _ _
  · rw [Call.run_base, Call.run_base,
      Resolver.effectiveLanguage_of_mem resolver.default_supported]
    rfl
  · intro other twin twinBuilt language listed agree
    refine tracks other twin twinBuilt (some language) ?_
    rintro ⟨asked, name⟩ member
    obtain rfl : asked = language := (disciplined language listed).asked_language _ member
    exact agree name

/-- Templates of two languages, one of them broken. -/
def mixedSource : Source :=
  (Catalog.ofLists [("en", [("good", "<\x7b\x7d>"), ("bad", "a\x7d"), ("later", "b")]),
    ("de", [("missing", "c")])]).toSource

/-- The same templates up to one behind the broken one. -/
def otherSource : Source :=
  (Catalog.ofLists [("en", [("good", "<\x7b\x7d>"), ("bad", "a\x7d"), ("later", "\x7b")]),
    ("de", [("missing", "c")])]).toSource

/-- The resolver over the first of these sources. -/
def mixedResolver : Resolver := ⟨["en", "de"], "de", mixedSource, by decide⟩

/-- The resolver over the second of these sources. -/
def otherResolver : Resolver := ⟨["en", "de"], "de", otherSource, by decide⟩

/-- A request with literal text, a blank name, a repeated key, a key without a template, a
key with a broken template and one more key. -/
def mixedCall : Call :=
  .localizeRequest ⟨[Key.literal "x", ⟨some " ", ["y"]⟩, ⟨some "good", ["z"]⟩, Key.simple "good",
    Key.simple "missing", Key.simple "bad", Key.simple "later"]⟩

/-- The repeated key is asked for twice, the key without a template in one language only, and
nothing is asked behind the broken template. -/
theorem lookup_discipline_broken :
    Resolver.build ["en", "de"] "de" mixedSource = .ok mixedResolver ∧
    Resolver.build ["en", "de"] "de" otherSource = .ok otherResolver ∧
    ("fr" ∉ ["en", "de"] ∧ mixedCall.run (.base mixedResolver) (some "fr") =
      ⟨[], .error (.unsupportedLanguage "fr")⟩) ∧
    ("en" ∈ ["en", "de"] ∧
      Disciplined mixedSource "en" mixedCall.keys
        (mixedCall.run (.base mixedResolver) (some "en"))) ∧
    (mixedCall.run (.base mixedResolver) (some "en")).asked =
      [("en", "good"), ("en", "good"), ("en", "missing"), ("en", "bad")] ∧
    (mixedCall.run (.base mixedResolver) (some "en")).result =
      .error (.template ⟨"a\x7d", "a\x7d", ⟨0, 2⟩, ⟨1, 2⟩, '\x7d'⟩) ∧
    mixedCall.run (.base mixedResolver) none = mixedCall.run (.base mixedResolver) (some "de") ∧
    (mixedSource.AgreesOn otherSource (mixedCall.run (.base mixedResolver) (some "en")).asked ∧
      mixedCall.run (.base otherResolver) (some "en") =
        mixedCall.run (.base mixedResolver) (some "en")) ∧
    ((∀ name, otherSource.lookup "de" name = mixedSource.lookup "de" name) ∧
      mixedCall.run (.base otherResolver) (some "de") =
        mixedCall.run (.base mixedResolver) (some "de")) := by
  have built : Resolver.build ["en", "de"] "de" mixedSource = .ok mixedResolver := rfl
  have otherBuilt : Resolver.build ["en", "de"] "de" otherSource = .ok otherResolver := rfl
  obtain ⟨refused, disciplined, ⟨-, byDefault⟩, tracks, alone⟩ :=
    lookup_discipline built mixedCall
  have agrees : mixedSource.AgreesOn otherSource
      (mixedCall.run (.base mixedResolver) (some "en")).asked := by decide +kernel
  have german : ∀ name, otherSource.lookup "de" name = mixedSource.lookup "de" name :=
    fun _ => rfl
  exact ⟨built, otherBuilt, ⟨by decide, refused "fr" (by decide)⟩,
    ⟨by decide, disciplined "en" (by decide)⟩, by decide +kernel, by decide +kernel, byDefault,
    ⟨agrees, tracks otherSource otherResolver otherBuilt (some "en") agrees⟩,
    ⟨german, alone otherSource otherResolver otherBuilt "de" (by decide) german⟩⟩

end Localizer

end Phrasebook
