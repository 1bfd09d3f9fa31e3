import Phrasebook.Request.Reader
import Phrasebook.Catalog

/-!
# Inquiries

Resolving a key may ask the source for a template. An inquiry is a computation
that records these questions in order together with its result. A failure ends
it: nothing is asked after a failure.
-/

namespace Phrasebook

/-- Why a text can not be localized. -/
inductive LocalizationFailure where
  /-- The language is not one of the supported languages. -/
  | unsupportedLanguage (language : String)
  /-- A template has a delimiter without its escape marker. -/
  | template (stray : StrayDelimiter)
  /-- A request text can not be read. -/
  | request (failure : RequestFailure)
deriving DecidableEq, Repr

/-- The wording of the report. -/
def LocalizationFailure.message : LocalizationFailure → String
  | .unsupportedLanguage language => "Language is not supported: " ++ language
  | .template stray => stray.message
  | .request failure => failure.message

/-- A question to a source: a language and the name of a key. -/
abbrev Question := String × String

universe u v

/-- The questions asked so far and the result. -/
structure Inquiry (α : Type u) where
  /-- The questions in the order in which they were asked. -/
  asked : List Question
  /-- What came out. -/
  result : Except LocalizationFailure α

namespace Inquiry

variable {α : Type u} {β : Type v}

/-- The result that needs no question. -/
def ofExcept (result : Except LocalizationFailure α) : Inquiry α := ⟨[], result⟩

/-- The questions of the second inquiry follow those of the first, unless the
first fails. -/
def andThen (first : Inquiry α) (second : α → Inquiry β) : Inquiry β :=
  match first.result with
  | .error failure => ⟨first.asked, .error failure⟩
  | .ok value =>
    let following := second value
    ⟨first.asked ++ following.asked, following.result⟩

instance : Monad Inquiry where
  pure value := ⟨[], .ok value⟩
  bind := andThen

/-- Ask a source for the template of a key. -/
def ask (source : Source) (language name : String) : Inquiry (Option String) :=
  ⟨[(language, name)], .ok (source.lookup language name)⟩

end Inquiry

end Phrasebook
