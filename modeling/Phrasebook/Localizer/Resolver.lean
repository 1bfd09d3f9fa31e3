import Phrasebook.Template
import Phrasebook.Localizer.Inquiry

/-!
# Resolving keys

A resolver knows the supported languages, the default language among them and a
source of templates. It resolves a key in a language: a literal key is never
looked up; any other key is looked up once, in that language only, and its
template is rendered with the key's arguments. What happens when there is no
template is the caller's choice.
-/

namespace Phrasebook

/-- What to answer for a key without a template. -/
inductive Fallback where
  /-- The key's name, or for a literal key its joined arguments. -/
  | keyName
  /-- Nothing. -/
  | absent
  /-- This text as it is. -/
  | text (given : String)
deriving DecidableEq, Repr

/-- The answer for a key without a template. -/
def Fallback.apply (key : Key) : Fallback → Option String
  | .keyName => some key.plainText
  | .absent => none
  | .text given => some given

/-- Supported languages and a source of templates for them. -/
structure Resolver where
  /-- The supported languages in order. -/
  supported : List String
  /-- The language for calls that name none. -/
  defaultLanguage : String
  /-- The templates. -/
  source : Source
  /-- The default language is supported. -/
  default_supported : defaultLanguage ∈ supported

/-- Why a resolver can not be built. -/
inductive SetupFailure where
  /-- There is no supported language. -/
  | noSupportedLanguages
  /-- The default language is not supported. -/
  | defaultLanguageNotSupported (language : String)
  /-- The source has nothing for a supported language. -/
  | missingLanguageData (language : String)
deriving DecidableEq, Repr

/-- The wording of the report. -/
def SetupFailure.message : SetupFailure → String
  | .noSupportedLanguages => "List of supported languages can not be empty"
  | .defaultLanguageNotSupported language =>
    "Default language '" ++ language ++ "' is not in the supported languages"
  | .missingLanguageData language =>
    "No translations available for supported language '" ++ language ++ "'"

namespace Resolver

/-- The resolver over a source, provided that there are supported languages, that
the default language is one of them, and that the source has all of them. The
first of these that fails is reported. -/
def build (supported : List String) (defaultLanguage : String) (source : Source) :
    Except SetupFailure Resolver :=
  if supported.isEmpty then .error .noSupportedLanguages
  else if listed : defaultLanguage ∈ supported then
    match supported.find? fun language => !source.hasLanguage language with
    | some language => .error (.missingLanguageData language)
    | none => .ok { supported, defaultLanguage, source, default_supported := listed }
  else .error (.defaultLanguageNotSupported defaultLanguage)

/-- Whether a language is supported. -/
def isSupported (resolver : Resolver) (language : String) : Bool :=
  resolver.supported.contains language

/-- The language to use: the given one if it is supported, and the default
language if none is given. -/
def effectiveLanguage (resolver : Resolver) : Option String → Except LocalizationFailure String
  | none => .ok resolver.defaultLanguage
  | some language =>
    if resolver.isSupported language then .ok language
    else .error (.unsupportedLanguage language)

/-- The text of a key in a language that is known to be supported. -/
def resolveIn (resolver : Resolver) (language : String) (key : Key) (fallback : Fallback) :
    Inquiry (Option String) :=
  match key.lookupName with
  | none => pure (fallback.apply key)
  | some name => do
    match ← Inquiry.ask resolver.source language name with
    | some template =>
      match render template key.arguments with
      | .ok text => return some text
      | .error stray => Inquiry.ofExcept (.error (.template stray))
    | none => return fallback.apply key

/-- The text of a key in a language, with a choice of what to answer when it has
no template. -/
def resolve (resolver : Resolver) (language : Option String) (key : Key) (fallback : Fallback) :
    Inquiry (Option String) := do
  let language ← Inquiry.ofExcept (resolver.effectiveLanguage language)
  resolver.resolveIn language key fallback

/-- The text of a key in a language, or its name when it has no template. -/
def localize (resolver : Resolver) (language : Option String) (key : Key) : Inquiry String := do
  return (← resolver.resolve language key .keyName).getD ""

/-- The texts of keys in a language, one after the other. -/
def concatenate (resolver : Resolver) (language : String) : List Key → Inquiry String
  | [] => pure ""
  | key :: rest => do
    let text ← resolver.localize (some language) key
    let following ← resolver.concatenate language rest
    return text ++ following

/-- The texts of a request's keys, one after the other. The language is checked
even when there are no keys, and again for each key. -/
def resolveRequest (resolver : Resolver) (language : Option String) (request : Request) :
    Inquiry String := do
  let language ← Inquiry.ofExcept (resolver.effectiveLanguage language)
  resolver.concatenate language request.keys

end Resolver

end Phrasebook
