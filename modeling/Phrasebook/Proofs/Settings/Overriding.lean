import Mathlib
import Phrasebook.Proofs.Settings.Checked

/-!
# What the environment overrides

Each variable of the environment gives one field of the settings. A field follows its variable:
it has the value that the variable gives, or the one it had when there is no such value. All other
fields stay as they are. A log format that is not known is no value, so its field stays as well,
and it is the only thing that makes the environment fail. The other four variables have been
asked by then, so their fields follow them all the same.

Following a variable leaves no choice, and this is all that the arguments below need. What has
followed a variable follows it again without a change, and two environments without a common
variable can be asked in either order.
-/

namespace Phrasebook

universe u

/-- Whether a field has the value that it is given, or else the one that it had. -/
structure Follows {α : Type u} (given : α → Prop) (before after : α) : Prop where
  /-- A value that is given counts. -/
  taken : ∀ value, given value → after = value
  /-- Without one, the field stays as it was. -/
  kept : (∀ value, ¬ given value) → after = before

namespace Follows

variable {α : Type u} {given other : α → Prop} {before after : α}

/-- A field can follow in one way only. -/
theorem unique {another : α} (follows : Follows given before after)
    (alike : Follows given before another) : after = another := by
  by_cases some : ∃ value, given value
  · obtain ⟨value, isGiven⟩ := some
    rw [follows.taken value isGiven, alike.taken value isGiven]
  · have none : ∀ value, ¬ given value := fun value isGiven => some ⟨value, isGiven⟩
    rw [follows.kept none, alike.kept none]

/-- A field that has followed is where it would be taken again. -/
theorem again (follows : Follows given before after) : Follows given after after :=
  ⟨follows.taken, fun _ => rfl⟩

/-- When nothing is given on one side, the field follows both sides in either order. -/
theorem comm {left right leftRight rightLeft : α} (first : Follows given before left)
    (apart : (∀ value, ¬ given value) ∨ ∀ value, ¬ other value)
    (thenOther : Follows other left leftRight) (second : Follows other before right)
    (thenGiven : Follows given right rightLeft) :
    leftRight = rightLeft := by
  rcases apart with none | none
  · obtain rfl := first.kept none
    rw [thenGiven.kept none]
    exact thenOther.unique second
  · obtain rfl := second.kept none
    rw [thenOther.kept none]
    exact first.unique thenGiven

end Follows

/-- Whether a variable gives a value: it is set, and its text is read as this value. -/
def Environment.Gives {α : Type u} (environment : Environment) (name : String)
    (reads : String → α → Prop) (value : α) : Prop :=
  ∃ text, environment name = some text ∧ reads text value

namespace Environment

variable {α : Type u} {environment : Environment} {name text : String}

/-- A variable that is not set gives nothing. -/
theorem not_gives (unset : environment name = none) (reads : String → α → Prop) (value : α) :
    ¬ environment.Gives name reads value := by
  rintro ⟨text, set, -⟩
  rw [unset] at set
  cases set

/-- A variable that is set gives what its text is read as. -/
theorem gives_iff (set : environment name = some text) (reads : String → α → Prop) (value : α) :
    environment.Gives name reads value ↔ reads text value := by
  simp [Gives, set]

/-- A variable whose text can always be read decides the field. -/
theorem follows_getD (environment : Environment) (name : String) (read : String → α)
    (before : α) :
    Follows (environment.Gives name fun text value => value = read text) before
      (((environment name).map read).getD before) := by
  cases asked : environment name with
  | none => exact ⟨fun value given => absurd given (not_gives asked _ value), fun _ => rfl⟩
  | some text =>
    constructor
    · intro value given
      exact ((gives_iff asked _ value).1 given).symm
    · intro none
      exact absurd ((gives_iff asked _ (read text)).2 rfl) (none (read text))

end Environment

namespace LogFormat

/-- Whether a text names a log format: without the blanks at its ends and in small letters, it is
the name of the format. -/
def Names (text : String) (format : LogFormat) : Prop := (trimmed text).toLower = format.name

theorem ofName?_eq_some_iff (name : String) (format : LogFormat) :
    ofName? name = some format ↔ name = format.name := by
  constructor
  · intro found
    have named : (format.name == name) = true := by
      rw [ofName?] at found
      exact List.find?_some (p := fun format : LogFormat => format.name == name) found
    exact (beq_iff_eq.1 named).symm
  · rintro rfl
    cases format <;> decide

/-- No two formats have the same name. -/
theorem name_injective : Function.Injective name := by
  intro first second same
  have found : ofName? first.name = some second := (ofName?_eq_some_iff _ _).2 same
  rw [(ofName?_eq_some_iff _ first).2 rfl] at found
  exact Option.some.inj found

theorem ofText_eq_ok_iff (text : String) (format : LogFormat) :
    ofText text = .ok format ↔ Names text format := by
  rw [Names, ← ofName?_eq_some_iff, ofText]
  cases ofName? (trimmed text).toLower <;> simp

theorem ofText_eq_error_iff (text : String) (unknown : UnknownLogFormat) :
    ofText text = .error unknown ↔
      (∀ format, ¬ Names text format) ∧ unknown = ⟨(trimmed text).toLower⟩ := by
  simp only [Names, ← ofName?_eq_some_iff]
  rw [ofText]
  cases ofName? (trimmed text).toLower <;> simp [eq_comm]

end LogFormat

namespace Settings

open Environment

/-- Whether settings are what the environment makes of others: each field follows its variable,
and those without a variable stay as they are. -/
structure Overridden (environment : Environment) (before after : Settings) : Prop where
  /-- The languages follow the list of the first variable. -/
  supported : Follows
    (environment.Gives languagesVariable fun text value => value = Environment.languages text)
    before.languages.supported after.languages.supported
  /-- The default language follows its variable, without blanks at its ends. -/
  defaultLanguage : Follows
    (environment.Gives defaultLanguageVariable fun text value => value = trimmed text)
    before.languages.defaultLanguage after.languages.defaultLanguage
  /-- The templates are those of the files in the directory. -/
  store : Follows (environment.Gives directoryVariable fun text value => value = .files text)
    before.languages.store after.languages.store
  /-- The filter follows its variable as it is. -/
  filter : Follows (environment.Gives filterVariable fun text value => value = text)
    before.log.filter after.log.filter
  /-- The format follows its variable where that names one. -/
  format : Follows (environment.Gives formatVariable LogFormat.Names)
    before.log.format after.log.format
  /-- There is no variable for the file of the log. -/
  filePath : after.log.filePath = before.log.filePath
  /-- Nor is there one for the spans. -/
  includeSpans : after.log.includeSpans = before.log.includeSpans
  /-- Nor is there one for the targets. -/
  includeTargets : after.log.includeTargets = before.log.includeTargets

/-- Settings are the same when all of their fields are. -/
theorem eq_of_fields {left right : Settings}
    (supported : left.languages.supported = right.languages.supported)
    (defaultLanguage : left.languages.defaultLanguage = right.languages.defaultLanguage)
    (store : left.languages.store = right.languages.store)
    (filter : left.log.filter = right.log.filter) (format : left.log.format = right.log.format)
    (filePath : left.log.filePath = right.log.filePath)
    (includeSpans : left.log.includeSpans = right.log.includeSpans)
    (includeTargets : left.log.includeTargets = right.log.includeTargets) : left = right := by
  obtain ⟨⟨_, _, _⟩, ⟨_, _, _, _, _⟩⟩ := left
  obtain ⟨⟨_, _, _⟩, ⟨_, _, _, _, _⟩⟩ := right
  cases supported
  cases defaultLanguage
  cases store
  cases filter
  cases format
  cases filePath
  cases includeSpans
  cases includeTargets
  rfl

namespace Overridden

variable {environment first second : Environment} {before after : Settings}

/-- Settings can be overridden in one way only. -/
theorem unique {another : Settings} (overridden : Overridden environment before after)
    (alike : Overridden environment before another) : after = another :=
  eq_of_fields (overridden.supported.unique alike.supported)
    (overridden.defaultLanguage.unique alike.defaultLanguage)
    (overridden.store.unique alike.store) (overridden.filter.unique alike.filter)
    (overridden.format.unique alike.format) (overridden.filePath.trans alike.filePath.symm)
    (overridden.includeSpans.trans alike.includeSpans.symm)
    (overridden.includeTargets.trans alike.includeTargets.symm)

/-- Settings that have been overridden are so again without a change. -/
theorem again (overridden : Overridden environment before after) :
    Overridden environment after after where
  supported := overridden.supported.again
  defaultLanguage := overridden.defaultLanguage.again
  store := overridden.store.again
  filter := overridden.filter.again
  format := overridden.format.again
  filePath := rfl
  includeSpans := rfl
  includeTargets := rfl

/-- Two environments of which no variable is set in both can be asked in either order. -/
theorem comm {left right leftRight rightLeft : Settings}
    (apart : ∀ name, first name = none ∨ second name = none)
    (takenFirst : Overridden first before left) (thenSecond : Overridden second left leftRight)
    (takenSecond : Overridden second before right)
    (thenFirst : Overridden first right rightLeft) : leftRight = rightLeft := by
  have silent : ∀ {α : Type} (name : String) (reads : String → α → Prop),
      (∀ value, ¬ first.Gives name reads value) ∨ ∀ value, ¬ second.Gives name reads value := by
    intro α name reads
    exact (apart name).imp (not_gives · reads) (not_gives · reads)
  refine eq_of_fields ?_ ?_ ?_ ?_ ?_ ?_ ?_ ?_
  · exact takenFirst.supported.comm (silent _ _) thenSecond.supported takenSecond.supported
      thenFirst.supported
  · exact takenFirst.defaultLanguage.comm (silent _ _) thenSecond.defaultLanguage
      takenSecond.defaultLanguage thenFirst.defaultLanguage
  · exact takenFirst.store.comm (silent _ _) thenSecond.store takenSecond.store thenFirst.store
  · exact takenFirst.filter.comm (silent _ _) thenSecond.filter takenSecond.filter thenFirst.filter
  · exact takenFirst.format.comm (silent _ _) thenSecond.format takenSecond.format thenFirst.format
  · rw [thenSecond.filePath, takenFirst.filePath, thenFirst.filePath, takenSecond.filePath]
  · rw [thenSecond.includeSpans, takenFirst.includeSpans, thenFirst.includeSpans,
      takenSecond.includeSpans]
  · rw [thenSecond.includeTargets, takenFirst.includeTargets, thenFirst.includeTargets,
      takenSecond.includeTargets]

end Overridden

/-- What the environment makes of settings before the log format is looked at. -/
def beforeFormat (environment : Environment) (settings : Settings) : Settings where
  languages := {
    supported :=
      ((environment languagesVariable).map Environment.languages).getD settings.languages.supported
    defaultLanguage :=
      ((environment defaultLanguageVariable).map trimmed).getD settings.languages.defaultLanguage
    store :=
      ((environment directoryVariable).map TemplateStore.files).getD settings.languages.store }
  log := { settings.log with filter := (environment filterVariable).getD settings.log.filter }

/-- The log format is looked at when all other variables have been asked. -/
theorem adapt_eq (environment : Environment) (settings : Settings) :
    settings.adapt environment =
      match environment formatVariable with
      | none => (settings.beforeFormat environment, .ok ())
      | some text =>
        match LogFormat.ofText text with
        | .ok format => ((settings.beforeFormat environment).withFormat format, .ok ())
        | .error unknown =>
          (settings.beforeFormat environment, .error (.environment formatVariable unknown)) := by
  unfold adapt beforeFormat
  cases environment languagesVariable <;> cases environment defaultLanguageVariable <;>
    cases environment directoryVariable <;> cases environment filterVariable <;>
    cases environment formatVariable <;> rfl

/-- The variable for the log format is not set, or it names a format, or it is refused. When it is
refused, the other variables have been followed already. -/
theorem adapt_cases (environment : Environment) (settings : Settings) :
    (environment formatVariable = none ∧
      settings.adapt environment = (settings.beforeFormat environment, .ok ())) ∨
    (∃ text format, environment formatVariable = some text ∧ LogFormat.Names text format ∧
      settings.adapt environment =
        ((settings.beforeFormat environment).withFormat format, .ok ())) ∨
    ∃ text, environment formatVariable = some text ∧ (∀ format, ¬ LogFormat.Names text format) ∧
      settings.adapt environment = (settings.beforeFormat environment,
        .error (.environment formatVariable ⟨(trimmed text).toLower⟩)) := by
  rw [adapt_eq]
  cases environment formatVariable with
  | none => exact .inl ⟨rfl, rfl⟩
  | some text =>
    cases read : LogFormat.ofText text with
    | ok format =>
      have names := (LogFormat.ofText_eq_ok_iff text format).1 read
      exact .inr (.inl ⟨text, format, rfl, names, by simp only [read]⟩)
    | error unknown =>
      obtain ⟨unnamed, rfl⟩ := (LogFormat.ofText_eq_error_iff text unknown).1 read
      exact .inr (.inr ⟨text, rfl, unnamed, by simp only [read]⟩)

/-- Whether the environment can be used does not depend on the settings. -/
theorem adapt_snd_congr (environment : Environment) (first second : Settings) :
    (first.adapt environment).2 = (second.adapt environment).2 := by
  rw [adapt_eq, adapt_eq]
  cases environment formatVariable with
  | none => rfl
  | some text => cases read : LogFormat.ofText text <;> simp only [read]

/-- The log format follows its variable, and a format that is refused leaves it as it was. -/
theorem follows_format_adapt (environment : Environment) (settings : Settings) :
    Follows (environment.Gives formatVariable LogFormat.Names) settings.log.format
      (settings.adapt environment).1.log.format := by
  rcases adapt_cases environment settings with ⟨unset, same⟩ |
    ⟨text, format, set, names, same⟩ | ⟨text, set, unnamed, same⟩
  · refine ⟨?_, fun _ => by rw [same]; rfl⟩
    intro value given
    exact absurd given (not_gives unset _ value)
  · refine ⟨?_, fun none => absurd ((gives_iff set _ format).2 names) (none format)⟩
    intro value given
    have alsoNames := (gives_iff set _ value).1 given
    rw [same]
    exact LogFormat.name_injective (names.symm.trans alsoNames)
  · refine ⟨?_, fun _ => by rw [same]; rfl⟩
    intro value given
    exact absurd ((gives_iff set _ value).1 given) (unnamed value)

/-- The environment makes of settings what it should, whether it fails or not. -/
theorem overridden_adapt (environment : Environment) (settings : Settings) :
    Overridden environment settings (settings.adapt environment).1 := by
  have followsFormat := follows_format_adapt environment settings
  -- The last step changes at most the format, so the other fields are as they were before it.
  obtain ⟨format, same⟩ : ∃ format, (settings.adapt environment).1 =
      (settings.beforeFormat environment).withFormat format := by
    rcases adapt_cases environment settings with ⟨-, same⟩ | ⟨_, format, -, -, same⟩ |
      ⟨_, -, -, same⟩
    · exact ⟨settings.log.format, by rw [same]; rfl⟩
    · exact ⟨format, by rw [same]⟩
    · exact ⟨settings.log.format, by rw [same]; rfl⟩
  rw [same] at followsFormat ⊢
  have followsFilter := environment.follows_getD filterVariable id settings.log.filter
  rw [Option.map_id] at followsFilter
  exact {
    supported := environment.follows_getD languagesVariable Environment.languages _
    defaultLanguage := environment.follows_getD defaultLanguageVariable trimmed _
    store := environment.follows_getD directoryVariable TemplateStore.files _
    filter := followsFilter
    format := followsFormat
    filePath := rfl
    includeSpans := rfl
    includeTargets := rfl }

/-- The environment fails over a log format that is not known, and over nothing else. -/
theorem adapt_eq_error_iff (environment : Environment) (settings : Settings)
    (failure : SettingsFailure) :
    (settings.adapt environment).2 = .error failure ↔
      ∃ text, environment formatVariable = some text ∧ (∀ format, ¬ LogFormat.Names text format) ∧
        failure = .environment formatVariable ⟨(trimmed text).toLower⟩ := by
  rcases adapt_cases environment settings with ⟨unset, same⟩ |
    ⟨text, format, set, names, same⟩ | ⟨text, set, unnamed, same⟩
  · simp [same, unset]
  · simp only [same, reduceCtorEq, set, Option.some.injEq, exists_eq_left', false_iff, not_and]
    exact fun unnamed => absurd names (unnamed format)
  · simp only [same, Except.error.injEq, set, Option.some.injEq, exists_eq_left', unnamed,
      not_false_eq_true, implies_true, true_and]
    exact eq_comm

theorem complete_eq_ok_iff (environment : Environment) (settings completed : Settings) :
    settings.complete environment = .ok completed ↔
      (settings.adapt environment).2 = .ok () ∧ completed = (settings.adapt environment).1 ∧
        completed.check = .ok () := by
  simp only [complete, Steps.bind_eq_ok_iff]
  constructor
  · rintro ⟨_, adapted, _, checked, same⟩
    cases same
    exact ⟨adapted, rfl, checked⟩
  · rintro ⟨adapted, rfl, checked⟩
    exact ⟨(), adapted, (), checked, rfl⟩

theorem parse_eq_ok_iff (text : String) (settings : Settings) :
    parse text = .ok settings ↔ ofText? text = some settings := by
  rw [parse]
  cases ofText? text <;> simp

/-- Settings are loaded from a file that describes settings, when the environment can be used and
what it makes of them passes the check. -/
theorem loadFile_eq_ok_iff (access : FileAccess) (environment : Environment) (path : String)
    (settings : Settings) :
    loadFile access environment path = .ok settings ↔
      ∃ text file, access.read path = .ok text ∧ ofText? text = some file ∧
        (file.adapt environment).2 = .ok () ∧ Overridden environment file settings ∧
        settings.check = .ok () := by
  have read : ∀ text, (access.read path).mapError SettingsFailure.unreadable = .ok text ↔
      access.read path = .ok text := by
    intro text
    cases access.read path <;> simp [Except.mapError]
  -- What the environment makes of the file is the only thing that it can make of it.
  have made : ∀ file : Settings, settings = (file.adapt environment).1 ↔
      Overridden environment file settings := by
    intro file
    constructor
    · rintro rfl
      exact overridden_adapt environment file
    · intro overridden
      exact overridden.unique (overridden_adapt environment file)
  simp only [loadFile, Steps.bind_eq_ok_iff, complete_eq_ok_iff, read, parse_eq_ok_iff, made,
    exists_and_left]

/-- Whether the environment fails or not, each field follows its variable and the others stay as
they are. It fails over a log format that is not known and over nothing else. Asking it again
changes nothing, and two environments without a common variable can be asked in either order,
each with the outcome that it has alone. So the settings of a file are what the environment makes
of those that are written there. -/
theorem adapt_overrides :
    (∀ environment settings, Overridden environment settings (settings.adapt environment).1 ∧
      (∀ failure, (settings.adapt environment).2 = .error failure ↔
        ∃ text, environment formatVariable = some text ∧
          (∀ format, ¬ LogFormat.Names text format) ∧
          failure = .environment formatVariable ⟨(trimmed text).toLower⟩) ∧
      (settings.adapt environment).1.adapt environment = settings.adapt environment) ∧
    (∀ first second : Environment, (∀ name, first name = none ∨ second name = none) →
      ∀ settings : Settings,
        ((settings.adapt first).1.adapt second).1 = ((settings.adapt second).1.adapt first).1 ∧
        ((settings.adapt first).1.adapt second).2 = (settings.adapt second).2 ∧
        ((settings.adapt second).1.adapt first).2 = (settings.adapt first).2) ∧
    ∀ access environment path settings, loadFile access environment path = .ok settings ↔
      ∃ text file, access.read path = .ok text ∧ ofText? text = some file ∧
        (file.adapt environment).2 = .ok () ∧ Overridden environment file settings ∧
        settings.check = .ok () := by
  refine ⟨?_, ?_, loadFile_eq_ok_iff⟩
  · intro environment settings
    refine ⟨overridden_adapt environment settings, adapt_eq_error_iff environment settings, ?_⟩
    have again := (overridden_adapt environment settings).again
    have same := (overridden_adapt environment (settings.adapt environment).1).unique again
    exact Prod.ext same (adapt_snd_congr environment _ settings)
  · intro first second apart settings
    refine ⟨?_, adapt_snd_congr second _ settings, adapt_snd_congr first _ settings⟩
    exact Overridden.comm apart (overridden_adapt first settings) (overridden_adapt second _)
      (overridden_adapt second settings) (overridden_adapt first _)

/-- One environment gives a log format, one gives languages and a log filter, and one a log format
that is not known. -/
theorem adapt_overrides_apart :
    let first : Environment := fun name => if name = formatVariable then some " JSON " else none
    let second : Environment := fun name =>
      if name = languagesVariable then some "de, ,en-us" else
      if name = filterVariable then some "debug" else none
    let refused : Environment := fun name => if name = formatVariable then some " XML" else
      if name = filterVariable then some "debug" else none
    let file : Settings := { log := { format := .compact } }
    let access := FileAccess.ofReadings [("settings.yaml", .ok "logging: \x7bformat: compact\x7d")]
    (∀ name, first name = none ∨ second name = none) ∧
    ((file.adapt first).1.adapt second).1 = ((file.adapt second).1.adapt first).1 ∧
    ((file.adapt first).1.adapt second).1.log.format = .json ∧
    (file.adapt refused).2 = .error (.environment formatVariable ⟨"xml"⟩) ∧
    (file.adapt refused).1.log.format = .compact ∧
    (file.adapt refused).1.log.filter = "debug" ∧
    ∃ settings, loadFile access second "settings.yaml" = .ok settings ∧
      settings.languages.supported = ["de", "en-us"] ∧ settings.log.format = .compact := by
  intro first second refused file access
  have apart : ∀ name, first name = none ∨ second name = none := by
    intro name
    by_cases isFormat : name = formatVariable
    · subst isFormat
      exact .inr (by decide +kernel)
    · exact .inl (if_neg isFormat)
  have named : LogFormat.Names " JSON " .json := by
    unfold LogFormat.Names
    decide +kernel
  have unnamed : ∀ format, ¬ LogFormat.Names " XML" format := by
    intro format
    cases format <;> unfold LogFormat.Names <;> decide +kernel
  have unset : second formatVariable = none := by decide +kernel
  have silent : ∀ value, ¬ second.Gives formatVariable LogFormat.Names value :=
    not_gives unset LogFormat.Names
  have set : refused formatVariable = some " XML" := by decide +kernel
  have unread : ∀ value, ¬ refused.Gives formatVariable LogFormat.Names value :=
    fun value given => unnamed value ((gives_iff set _ value).1 given)
  have given : ["de", "en-us"] = Environment.languages "de, ,en-us" := by decide +kernel
  have parsed : ofText? "logging: \x7bformat: compact\x7d" = some file := by cbv
  obtain ⟨each, inOrder, loads⟩ := adapt_overrides
  obtain ⟨overridden, fails, -⟩ := each refused file
  refine ⟨apart, (inOrder first second apart file).1, ?_, ?_, overridden.format.kept unread, ?_, ?_⟩
  · rw [(each second _).1.format.kept silent]
    exact (each first file).1.format.taken .json ⟨" JSON ", by decide +kernel, named⟩
  · exact (fails _).2 ⟨" XML", by decide +kernel, unnamed, by decide +kernel⟩
  · exact overridden.filter.taken "debug" ⟨"debug", by decide +kernel, rfl⟩
  · have taken := (each second file).1
    refine ⟨(file.adapt second).1, (loads _ _ _ _).2 ⟨_, file, by decide +kernel, parsed,
      by decide +kernel, taken, by decide +kernel⟩, ?_, taken.format.kept silent⟩
    exact taken.supported.taken _ ⟨"de, ,en-us", by decide +kernel, given⟩

end Settings

end Phrasebook
