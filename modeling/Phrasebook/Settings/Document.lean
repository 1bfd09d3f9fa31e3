import Phrasebook.Settings.Basic
import Phrasebook.Yaml.Content
import Phrasebook.Yaml.Reader

/-!
# Settings files

A settings file is a YAML document. Members that are not known are passed over, and
known ones may not be repeated. Wherever a text is wanted, any scalar gives one,
except in the description of the templates: there a text must be written as one.
-/

namespace Phrasebook

open Yaml (Node Content Reading)

namespace SettingsFile

/-- A log format by its name. A tag of the document's own may give the name instead,
if nothing else is written. -/
def logFormat (node : Node) : Reading LogFormat := do
  match ← Reading.follow node with
  | .scalar tag style text =>
    let name ← match Yaml.localName? tag with
      | some name =>
        if style = .plain && (text.isEmpty || Yaml.isNull text) then pure name else failure
      | none => pure text
    match LogFormat.ofName? name with
    | some format => return format
    | none => failure
  | _ => failure

/-- How the log is kept. What is not given has its default. -/
def logSettings (node : Node) : Reading LogSettings := do
  let fields ← Reading.fields node
  let defaults : LogSettings := {}
  return {
    filter := (← Reading.field? fields "level" Reading.text).getD defaults.filter
    format := (← Reading.field? fields "format" logFormat).getD defaults.format
    filePath := (← Reading.field? fields "file_path" Reading.optionalText).getD defaults.filePath
    includeSpans :=
      (← Reading.field? fields "include_spans" Reading.boolean).getD defaults.includeSpans
    includeTargets :=
      (← Reading.field? fields "include_targets" Reading.boolean).getD defaults.includeTargets }

/-- Whether the key of a member names the only field there is. A number may stand
for the field's name. -/
def isField? (name : String) : Content → Option Bool
  | .plain (.text text) => some (text == name)
  | .plain (.unsigned number) => some (number == 0)
  | _ => none

/-- The value of the only field, which is given by its name or as the only item of a
list. It may be missing. -/
def onlyField? (name : String) : Content → Option (Option Content)
  | .mapping members => do
    let found ← members.filterMapM fun (key, value) =>
      return if ← isField? name key then some value else none
    match found with
    | [] => some none
    | [value] => some (some value)
    | _ => none
  | .sequence [] => some none
  | .sequence [value] => some (some value)
  | _ => none

/-- Templates by key. The last one of a key counts. -/
def entries? (content : Content) : Option (Dictionary String) := do
  let members ← content.members?
  let entries ← members.mapM fun (key, template) => return (← key.text?, ← template.text?)
  return Dictionary.ofList entries

/-- Templates by language and key. The last entries of a language count. -/
def catalog? (content : Content) : Option Catalog := do
  let members ← content.members?
  let languages ← members.mapM fun (language, entries) =>
    return (← language.text?, ← entries? entries)
  return languages.foldl (fun catalog entry => catalog.setLanguage entry.1 entry.2) .empty

/-- The place that templates come from, by its kind. -/
def storeOfContent? (kind : String) (content : Content) : Option TemplateStore := do
  if kind == "files" then return .files (← (← (← onlyField? "directory" content)).text?)
  else if kind == "inline" then
    match ← onlyField? "translations" content with
    | some found => return .inline (← catalog? found)
    | none => return .inline .empty
  else none

/-- How deep lists and mappings may be nested in the place that templates come
from. All levels of a document together may be 128, and two are around it. -/
def depthBound : Nat := 126

/-- The place that templates come from. -/
def store (node : Node) : Reading TemplateStore := do
  let (kind, content) ← Reading.kinded "kind" depthBound node
  match storeOfContent? kind content with
  | some store => return store
  | none => failure

/-- The languages and their templates. Only the templates have a default. -/
def languageSettings (node : Node) : Reading LanguageSettings := do
  let fields ← Reading.fields node
  let defaults : LanguageSettings := {}
  return {
    supported := ← Reading.field fields "supported_languages" Reading.texts
    defaultLanguage := ← Reading.field fields "default_language" Reading.text
    store := (← Reading.field? fields "source" store).getD defaults.store }

/-- All settings. What is not given has its default. -/
def settings (node : Node) : Reading Settings := do
  let fields ← Reading.fields node
  let defaults : Settings := {}
  return {
    languages :=
      (← Reading.field? fields "localization" languageSettings).getD defaults.languages
    log := (← Reading.field? fields "logging" logSettings).getD defaults.log }

end SettingsFile

/-- The settings in the text of a settings file. -/
def Settings.ofText? (text : String) : Option Settings := do
  (← Yaml.document? text.toList).read? SettingsFile.settings

end Phrasebook
