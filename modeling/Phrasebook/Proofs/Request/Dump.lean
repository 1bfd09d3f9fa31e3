import Phrasebook.Program.Basic
import Phrasebook.Proofs.Json.RoundTrip

/-!
# Requests as JSON and back

What is written for a request is read back as the request: every key keeps its arguments, and
a missing name stays apart from an empty one. The two layouts differ in white space only.

`load_dump` says so of every request, and of what the program shows for a request text, with
the line break that ends its output.
-/

namespace Phrasebook

open Json (Value isSeparator)

theorem Json.Value.spelledItems_iff {items : List Value} :
    SpelledItems items ↔ ∀ item ∈ items, item.Spelled := by
  induction items with
  | nil => simp [SpelledItems]
  | cons item items inductionHypothesis => simp [SpelledItems, inductionHypothesis]

namespace Key

/-- A key is written with strings and `null` only. -/
theorem spelled_toJson (key : Key) : key.toJson.Spelled := by
  have name : ((key.name.map Value.ofText).getD .null).Spelled := by
    cases key.name with
    | none => trivial
    | some name => rfl
  have arguments : Value.SpelledItems (key.arguments.map Value.ofText) := by
    rw [Json.Value.spelledItems_iff]
    intro item member
    obtain ⟨text, -, rfl⟩ := List.mem_map.1 member
    rfl
  exact ⟨⟨rfl, name⟩, ⟨rfl, arguments⟩, trivial⟩

theorem nameOfJson?_toJson (name : Option String) :
    nameOfJson? ((name.map Value.ofText).getD .null) = some name := by
  cases name <;> rfl

theorem argumentsOfJson?_toJson (arguments : List String) :
    argumentsOfJson? (.array (arguments.map Value.ofText)) = some arguments := by
  rw [argumentsOfJson?, List.mapM_map]
  exact List.mapM_pure.trans (congrArg some (List.map_id arguments))

/-- A key is read back from its JSON value. -/
theorem ofJson?_toJson (key : Key) : ofJson? key.toJson = some key := by
  have different : (argumentsMember == nameMember) = false := by decide
  have reversed : (nameMember == argumentsMember) = false := by decide
  simp [toJson, ofJson?, onlyMember?, different, reversed, nameOfJson?_toJson,
    argumentsOfJson?_toJson]

end Key

namespace Request

theorem spelled_toJson (request : Request) : request.toJson.Spelled := by
  refine Json.Value.spelledItems_iff.2 fun item member => ?_
  obtain ⟨key, -, rfl⟩ := List.mem_map.1 member
  exact key.spelled_toJson

/-- A request is read back from its JSON value. -/
theorem ofJson?_toJson (request : Request) : ofJson? request.toJson = some request := by
  have each : Key.ofJson? ∘ Key.toJson = pure := funext Key.ofJson?_toJson
  have all : (request.keys.map Key.toJson).mapM Key.ofJson? = some request.keys := by
    rw [List.mapM_map, each]
    exact List.mapM_pure.trans (congrArg some (List.map_id request.keys))
  rw [toJson, ofJson?, all]
  rfl

/-- A request is read back from its JSON text in either layout, whatever white space follows. -/
theorem load_write (layout : Json.Layout) (request : Request) (blanks : List Char)
    (allSpace : ∀ c ∈ blanks, isSeparator c = true) :
    load (String.ofList (request.toJson.write layout ++ blanks)) = some request := by
  rw [load, String.toList_ofList,
    Json.parse_write layout request.spelled_toJson blanks allSpace]
  exact request.ofJson?_toJson

/-- The text that is shown for a request, in one layout or the other. -/
theorem load_shown (request : Request) (pretty : Bool) :
    let shown := if pretty then request.dumpIndented else request.dump
    load shown = some request ∧ load (shown ++ "\n") = some request := by
  have both : ∀ layout, load (String.ofList (request.toJson.write layout)) = some request ∧
      load (String.ofList (request.toJson.write layout) ++ "\n") = some request := by
    intro layout
    have plain := request.load_write layout [] (by simp)
    have line := request.load_write layout ['\n'] (by simp [isSeparator])
    rw [List.append_nil] at plain
    rw [String.ofList_append] at line
    exact ⟨plain, line⟩
  cases pretty with
  | false => exact both .compact
  | true => exact both (.indented 0)

/-- A request is read back from its JSON text, so a missing name is kept apart from an empty one.
What the program shows for a request text is read back as the request that the text describes,
in either layout. -/
theorem load_dump :
    (∀ request : Request, load request.dump = some request) ∧
    (∀ (before after : List Key) (arguments : List String),
      load (dump ⟨before ++ ⟨none, arguments⟩ :: after⟩) ≠
        load (dump ⟨before ++ ⟨some "", arguments⟩ :: after⟩)) ∧
    ∀ (localizer : Localizer) (text : String) (request : Request),
      parse text = .ok request → ∀ pretty, ∃ shown,
        localizer.run (.parse text pretty) = .ok shown ∧ load shown = some request ∧
          load (Outcome.ofResult (localizer.run (.parse text pretty))).shown = some request := by
  have readBack : ∀ request : Request, load request.dump = some request :=
    fun request => (request.load_shown false).1
  refine ⟨readBack, ?_, ?_⟩
  · intro before after arguments
    rw [readBack, readBack]
    simp
  · intro localizer text request accepted pretty
    obtain ⟨plain, line⟩ := request.load_shown pretty
    have shown : localizer.run (.parse text pretty) =
        .ok (if pretty then request.dumpIndented else request.dump) := by
      rw [Localizer.run, accepted]
    rw [shown]
    exact ⟨_, rfl, plain, line⟩

/-- A text with quotes, a backslash, a control character and a line break in literal text, a name
and an argument. -/
def quotedText : String := "\"é\\ \x01@\x7b\"k\"\x7d\x7b\t\n\x7d\x7b\x7d"

/-- The request that this text describes. -/
def quotedRequest : Request := ⟨[⟨none, ["\"é\\ \x01"]⟩, ⟨some "\"k\"", ["\t\n", ""]⟩]⟩

/-- Both layouts of a text with everything that is escaped in strings. -/
theorem load_dump_quoted :
    quotedRequest.dump = "[\x7b\"key\":null,\"arguments\":[\"\\\"é\\\\ \\u0001\"]\x7d," ++
      "\x7b\"key\":\"\\\"k\\\"\",\"arguments\":[\"\\t\\n\",\"\"]\x7d]" ∧
    load quotedRequest.dump = some quotedRequest ∧
    parse quotedText = .ok quotedRequest ∧
    (∃ shown, (Localizer.base ⟨["en"], "en", (Catalog.ofLists []).toSource, by decide⟩).run
        (.parse quotedText false) = .ok shown ∧ load shown = some quotedRequest) ∧
    ∃ shown, (Localizer.base ⟨["en"], "en", (Catalog.ofLists []).toSource, by decide⟩).run
        (.parse quotedText true) = .ok shown ∧ load shown = some quotedRequest := by
  have accepted : parse quotedText = .ok quotedRequest := by decide +kernel
  obtain ⟨readBack, -, shownBack⟩ := load_dump
  refine ⟨by decide +kernel, readBack quotedRequest, accepted, ?_, ?_⟩
  · obtain ⟨shown, runs, loads, -⟩ := shownBack _ quotedText quotedRequest accepted false
    exact ⟨shown, runs, loads⟩
  · obtain ⟨shown, runs, loads, -⟩ := shownBack _ quotedText quotedRequest accepted true
    exact ⟨shown, runs, loads⟩

end Request

end Phrasebook
