import Phrasebook.Proofs.Localizer.Batch
import Phrasebook.Proofs.Localizer.Reference
import Phrasebook.Proofs.Request.Seam

/-!
# Translating a text piece by piece

A text may be cut wherever both parts can be read, and the parts translated one after the
other. The only place where it must not be cut is between a marker and an at sign.

What the parts are read to is almost what the whole is read to: only literal text that was cut
makes two keys instead of one. Literal text is its own translation in every supported language,
and nothing is asked for it, so this makes no difference to the translation.
-/

namespace Phrasebook.Localizer

/-- Literal text stands for itself. -/
theorem localizeRequest_literal {localizer : Localizer} {language : Option String}
    (supported : ∀ given ∈ language, given ∈ localizer.supportedLanguages) (text : String) :
    localizer.localizeRequest language (Request.literal text) = pure text := by
  induction localizer with
  | base resolver =>
    have settled : resolver.effectiveLanguage language =
        .ok (language.getD resolver.defaultLanguage) :=
      Resolver.effectiveLanguage_of_supported supported
    have unnamed : (Key.literal text).lookupName = none := rfl
    have plain : (Key.literal text).plainText = text := Key.joinedArguments_literal text
    rw [show Request.literal text = Request.single (Key.literal text) from rfl,
      localizeRequest_single]
    simp [localize, resolve, Resolver.resolve, settled, Inquiry.ofExcept_ok, Resolver.resolveIn,
      unnamed, Fallback.apply, plain]
  | «scoped» scope inner inductionHypothesis =>
    have same : (Request.literal text).under scope = Request.literal text :=
      Request.under_eq scope (Request.literal text)
    rw [localizeRequest, same]
    exact inductionHypothesis supported

/-- Cutting a literal text makes no difference, in any language. -/
theorem localizeRequest_literal_append (localizer : Localizer) (language : Option String)
    (text more : String) :
    localizer.localizeRequest language (Request.literal (text ++ more)) =
      localizer.localizeRequest language (Request.literal text ++ Request.literal more) := by
  rw [localizeRequest_append]
  rcases localizer.supported_or_refused language with supported | ⟨failure, refused⟩
  · simp only [localizeRequest_literal supported, pure_bind]
  · simp only [refused, Inquiry.bind_error]

/-- Requests that meet are localized one after the other. -/
theorem localizeRequest_of_meet (localizer : Localizer) (language : Option String)
    {left right whole : Request} (meet : Request.Meet left right whole) :
    localizer.localizeRequest language whole = do
      let first ← localizer.localizeRequest language left
      let second ← localizer.localizeRequest language right
      return first ++ second := by
  cases meet with
  | apart _ _ _ => exact localizer.localizeRequest_append language left right
  | merged front rest text more =>
    have before : (⟨front ++ [Key.literal text]⟩ : Request) = ⟨front⟩ ++ Request.literal text := rfl
    have behind : (⟨Key.literal more :: rest⟩ : Request) = Request.literal more ++ ⟨rest⟩ := rfl
    have middle : (⟨front ++ Key.literal (text ++ more) :: rest⟩ : Request) =
        ⟨front⟩ ++ (Request.literal (text ++ more) ++ ⟨rest⟩) := rfl
    rw [before, behind, middle]
    simp only [localizeRequest_append, localizeRequest_literal_append, bind_assoc, pure_bind,
      String.append_assoc]

/-- A text that can be read is translated as its request is localized. -/
theorem translate_of_parse {localizer : Localizer} {language : Option String} {text : String}
    {request : Request} (read : Request.parse text = .ok request) :
    localizer.translate language text = localizer.localizeRequest language request := by
  rw [translate, read]

/-- Two texts that can be read are translated together as they are one after the other, with
the same questions and the first failure, unless a marker at the end of the first meets an at
sign. -/
theorem translate_append (localizer : Localizer) (language : Option String) {left right : String}
    {first second : Request} (firstRead : Request.parse left = .ok first)
    (secondRead : Request.parse right = .ok second)
    (unguarded : left.toList.getLast? = some Escape.marker → right.toList.head? ≠ some '@') :
    (∃ whole, Request.parse (left ++ right) = .ok whole) ∧
      localizer.translate language (left ++ right) = do
        let front ← localizer.translate language left
        let back ← localizer.translate language right
        return front ++ back := by
  have whole : Request.parse (left ++ right) = .ok (first.join second) :=
    Request.parse_append firstRead secondRead unguarded
  have meet : Request.Meet first second (first.join second) :=
    Request.meet_join (Request.parse_eq_ok_iff.1 firstRead).1
      (Request.parse_eq_ok_iff.1 secondRead).1
  refine ⟨⟨_, whole⟩, ?_⟩
  rw [translate_of_parse whole, translate_of_parse firstRead, translate_of_parse secondRead]
  exact localizer.localizeRequest_of_meet language meet

/-- A text that ends in a marker. -/
def frontText : String := "a@\x7bt\x7d\x7b1\x7d b\\"

/-- A text that begins with an escaped brace and names a key without a template. -/
def backText : String := "\\\x7bc@\x7bu\x7d"

/-- The marker at the seam escapes nothing, and the literal texts on both sides become one. -/
theorem translate_append_seam :
    Request.parse frontText =
      .ok ⟨[Key.literal "a", ⟨some "t", ["1"]⟩, Key.literal " b\\"]⟩ ∧
    Request.parse backText = .ok ⟨[Key.literal "\x7bc", Key.simple "u"]⟩ ∧
    (frontText.toList.getLast? = some Escape.marker → backText.toList.head? ≠ some '@') ∧
    (∃ whole, Request.parse (frontText ++ backText) = .ok whole) ∧
    (listLocalizer.translate none (frontText ++ backText) = do
      let front ← listLocalizer.translate none frontText
      let back ← listLocalizer.translate none backText
      return front ++ back) ∧
    (listLocalizer.translate none (frontText ++ backText)).asked = [("en", "t"), ("en", "u")] ∧
    (listLocalizer.translate none (frontText ++ backText)).result = .ok "a[1] b\\\x7bcu" := by
  have firstRead : Request.parse frontText =
      .ok ⟨[Key.literal "a", ⟨some "t", ["1"]⟩, Key.literal " b\\"]⟩ := by decide +kernel
  have secondRead : Request.parse backText = .ok ⟨[Key.literal "\x7bc", Key.simple "u"]⟩ := by
    decide +kernel
  have unguarded : frontText.toList.getLast? = some Escape.marker →
      backText.toList.head? ≠ some '@' := by decide
  obtain ⟨whole, parts⟩ := translate_append listLocalizer none firstRead secondRead unguarded
  exact ⟨firstRead, secondRead, unguarded, whole, parts, by decide +kernel, by decide +kernel⟩

/-- Where a marker meets an at sign the whole is refused although both parts can be read. -/
example : (Request.parse "\\").isOk ∧ (Request.parse "@\x7bt\x7d").isOk ∧
    (Request.parse ("\\" ++ "@\x7bt\x7d")).isOk = false := by decide +kernel

end Phrasebook.Localizer
