import Mathlib.Data.List.Basic
import Phrasebook.Json.Token
import Phrasebook.Json.Writer

/-!
# Texts that spell tokens

A text spells some tokens when it is read as just these tokens whatever stands behind it.
Brackets, separators, names and strings do so, and white space spells nothing. A number does
not, since a digit behind it would belong to it.

`spells_write` says that the text of a value without numbers spells the tokens of the value, in
either layout. The tokens do not depend on the layout, so what is read does not either.
-/

namespace Phrasebook.Json

open Text (hexValue? afterWord?)

/-! ## Characters of a string -/

namespace StringUnit

/-- Whether a unit adds a character to the text of a string. -/
def Adds (unit : StringUnit) (c : Char) : Prop :=
  ∀ units, unitsText? (unit :: units) = (unitsText? units).map (c :: ·)

theorem character_adds (c : Char) : (character c).Adds c := fun _ => by rw [unitsText?]

/-- A control character is no half of a surrogate pair. -/
theorem code_adds {c : Char} (control : c.toNat < 0x20) : (code c.toNat).Adds c := by
  have notHigh : isHighSurrogate c.toNat = false := by
    simp only [isHighSurrogate, Bool.and_eq_false_iff, decide_eq_false_iff_not]
    omega
  have notLow : isLowSurrogate c.toNat = false := by
    simp only [isLowSurrogate, Bool.and_eq_false_iff, decide_eq_false_iff_not]
    omega
  intro units
  match units with
  | [] => simp [unitsText?, notHigh, notLow]
  | .character _ :: _ => simp [unitsText?, notHigh, notLow]
  | .code _ :: _ => simp [unitsText?, notHigh, notLow]

/-- Whether characters of a string are read as one unit, whatever stands behind them. -/
def IsReadFrom (unit : StringUnit) (written : List Char) : Prop :=
  ∀ rest, stringUnits? (written ++ rest) = do
    let (units, after) ← stringUnits? rest
    return (unit :: units, after)

/-- A letter after a backslash is read as the character it is short for. -/
theorem isReadFrom_short {letter c : Char} (short : shortEscape? letter = some c) :
    (character c).IsReadFrom ['\\', letter] := by
  have notCode : letter ≠ 'u' := by
    rintro rfl
    simp [shortEscape?] at short
  intro rest
  rw [List.cons_append, List.cons_append, List.nil_append, stringUnits?.eq_def]
  simp [notCode, short]

theorem hexValue?_hexDigit {value : Nat} (small : value < 16) :
    hexValue? (hexDigit value) = some value := by
  have all : ∀ value < 16, hexValue? (hexDigit value) = some value := by decide
  exact all value small

/-- Four digits after a backslash are read as the number they denote. -/
theorem isReadFrom_code {value : Nat} (control : value < 0x20) :
    (code value).IsReadFrom
      ['\\', 'u', '0', '0', hexDigit (value / 16), hexDigit value] := by
  have zero : hexValue? '0' = some 0 := rfl
  have high : hexValue? (hexDigit (value / 16)) = some (value / 16) :=
    hexValue?_hexDigit (by omega)
  have low : hexValue? (hexDigit value) = some (value % 16) := by
    rw [← hexValue?_hexDigit (Nat.mod_lt value (by decide)), hexDigit, hexDigit, Nat.mod_mod]
  have whole : 16 * (value / 16) + value % 16 = value := Nat.div_add_mod value 16
  intro rest
  simp only [List.cons_append, List.nil_append]
  rw [stringUnits?.eq_def]
  simp [zero, high, low, whole]

/-- Any other character is read as it stands. -/
theorem isReadFrom_plain {c : Char} (notQuote : c ≠ '"') (notBackslash : c ≠ '\\')
    (notControl : ¬ c.toNat < 0x20) : (character c).IsReadFrom [c] := by
  intro rest
  rw [List.cons_append, List.nil_append, stringUnits?.eq_def]
  simp only [beq_iff_eq, notQuote, notBackslash, notControl, if_false]

/-- What is written for a character is read as a unit that adds the character. -/
theorem exists_isReadFrom (c : Char) :
    ∃ unit : StringUnit, unit.Adds c ∧ unit.IsReadFrom (stringChar c) := by
  have escaped : ∀ letter, shortEscape? letter = some c →
      ∃ unit : StringUnit, unit.Adds c ∧ unit.IsReadFrom ['\\', letter] :=
    fun letter short => ⟨_, character_adds c, isReadFrom_short short⟩
  rw [stringChar]
  simp only [beq_iff_eq, Bool.or_eq_true]
  split_ifs with itself backspace feed newline carriage tab control
  · exact escaped c (by rcases itself with rfl | rfl <;> rfl)
  · exact escaped 'b' (by rw [backspace]; rfl)
  · exact escaped 'f' (by rw [feed]; rfl)
  · exact escaped 'n' (by rw [newline]; rfl)
  · exact escaped 'r' (by rw [carriage]; rfl)
  · exact escaped 't' (by rw [tab]; rfl)
  · exact ⟨_, code_adds control, isReadFrom_code control⟩
  · rw [not_or] at itself
    exact ⟨_, character_adds c, isReadFrom_plain itself.1 itself.2 control⟩

end StringUnit

/-- Written characters up to the closing quote are read back as these characters. -/
theorem stringUnits?_flatMap_stringChar (chars rest : List Char) :
    ∃ units, stringUnits? (chars.flatMap stringChar ++ '"' :: rest) = some (units, rest) ∧
      unitsText? units = some chars := by
  induction chars with
  | nil => exact ⟨[], by rw [stringUnits?.eq_def]; rfl, rfl⟩
  | cons c chars inductionHypothesis =>
    obtain ⟨units, read, text⟩ := inductionHypothesis
    obtain ⟨unit, adds, isRead⟩ := StringUnit.exists_isReadFrom c
    refine ⟨unit :: units, ?_, ?_⟩
    · rw [List.flatMap_cons, List.append_assoc, isRead, read]
      rfl
    · rw [adds, text]
      rfl

/-- A written string is read back from behind its opening quote. -/
theorem string?_written (text : String) (rest : List Char) :
    string? (text.toList.flatMap stringChar ++ '"' :: rest) = some (some text, rest) := by
  obtain ⟨units, read, chars⟩ := stringUnits?_flatMap_stringChar text.toList rest
  simp [string?, read, chars]

/-! ## Tokens of a text -/

/-- Whether a text is read as some tokens, in any number of rounds that is enough. -/
def Lexes (chars : List Char) (tokens : List Token) : Prop :=
  ∀ rounds, chars.length ≤ rounds → tokensWithin? rounds chars = some tokens

theorem Lexes.tokens? {chars : List Char} {tokens : List Token} (lexes : Lexes chars tokens) :
    tokens? chars = some tokens := lexes chars.length (Nat.le_refl _)

theorem Lexes.nil : Lexes [] [] := fun rounds _ => by cases rounds <;> rfl

/-- Whether a text is read as some tokens, whatever stands behind it. -/
def Spells (chars : List Char) (tokens : List Token) : Prop :=
  ∀ rest others, Lexes rest others → Lexes (chars ++ rest) (tokens ++ others)

namespace Spells

variable {chars others : List Char} {tokens more : List Token}

theorem lexes (spells : Spells chars tokens) : Lexes chars tokens := by
  simpa using spells [] [] .nil

theorem nil : Spells [] [] := fun _ _ lexes => lexes

/-- Texts one after the other spell their tokens one after the other. -/
theorem append (first : Spells chars tokens) (second : Spells others more) :
    Spells (chars ++ others) (tokens ++ more) := by
  intro rest following lexes
  rw [List.append_assoc, List.append_assoc]
  exact first _ _ (second _ _ lexes)

/-- White space spells nothing. -/
theorem separator {c : Char} (isSpace : isSeparator c = true) : Spells [c] [] := by
  intro rest following lexes rounds enough
  cases rounds with
  | zero => simp at enough
  | succ rounds =>
    rw [List.cons_append, List.nil_append, tokensWithin?, if_pos isSpace]
    exact lexes rounds (by simpa using enough)

theorem separators (chars : List Char) (allSpace : ∀ c ∈ chars, isSeparator c = true) :
    Spells chars [] := by
  induction chars with
  | nil => exact nil
  | cons c chars inductionHypothesis =>
    have first : Spells [c] [] := separator (allSpace c List.mem_cons_self)
    exact first.append (inductionHypothesis fun d member =>
      allSpace d (List.mem_cons_of_mem c member))

/-- What is read as a token wherever it stands spells this token. -/
theorem token {c : Char} {token : Token} (notSpace : isSeparator c = false)
    (read : ∀ rest, token? (c :: chars ++ rest) = some (token, rest)) :
    Spells (c :: chars) [token] := by
  intro rest following lexes rounds enough
  cases rounds with
  | zero => simp at enough
  | succ rounds =>
    have shorter : rest.length ≤ rounds := by
      simp only [List.cons_append, List.length_cons, List.length_append] at enough
      omega
    have taken := read rest
    rw [List.cons_append] at taken ⊢
    rw [tokensWithin?, if_neg (by simp [notSpace]), taken]
    simp [lexes rounds shorter]

theorem openBracket : Spells ['['] [.openBracket] := token rfl fun _ => rfl

theorem closeBracket : Spells [']'] [.closeBracket] := token rfl fun _ => rfl

theorem openBrace : Spells ['\x7b'] [.openBrace] := token rfl fun _ => rfl

theorem closeBrace : Spells ['\x7d'] [.closeBrace] := token rfl fun _ => rfl

theorem comma : Spells [','] [.comma] := token rfl fun _ => rfl

theorem null : Spells ['n', 'u', 'l', 'l'] [.name .null] := token rfl fun _ => rfl

theorem bool (value : Bool) : Spells (writeBool value) [.name (.bool value)] := by
  cases value <;> exact token rfl fun _ => rfl

theorem string (text : String) : Spells (writeString (some text)) [.string (some text)] := by
  refine token rfl fun rest => ?_
  rw [List.cons_append, List.append_assoc, List.singleton_append, token?, string?_written]
  rfl

/-- A line break of either layout spells nothing. -/
theorem lineBreak (layout : Layout) : Spells layout.lineBreak [] := by
  refine separators _ fun c member => ?_
  cases layout with
  | compact => simp [Layout.lineBreak] at member
  | indented depth =>
    rcases List.mem_cons.1 member with rfl | member
    · rfl
    · rw [List.eq_of_mem_replicate member]
      rfl

/-- What stands between a name and its value is a colon in either layout. -/
theorem afterName (layout : Layout) : Spells layout.afterName [.colon] := by
  have colon : Spells [':'] [.colon] := token rfl fun _ => rfl
  cases layout with
  | compact => exact colon
  | indented depth => exact colon.append (separator (c := ' ') rfl)

end Spells

/-! ## Tokens of a value -/

mutual

/-- The tokens of a value. -/
def Value.tokens : Value → List Token
  | .null => [.name .null]
  | .bool value => [.name (.bool value)]
  | .number written => [.number written]
  | .string content => [.string content]
  | .array [] => [.openBracket, .closeBracket]
  | .array (item :: items) =>
    .openBracket :: (item.tokens ++ (itemTokens items ++ [.closeBracket]))
  | .object [] => [.openBrace, .closeBrace]
  | .object (member :: members) =>
    .openBrace :: (memberTokens member ++ (membersTokens members ++ [.closeBrace]))

/-- The tokens of further items of an array, each after a comma. -/
def Value.itemTokens : List Value → List Token
  | [] => []
  | item :: items => .comma :: (item.tokens ++ itemTokens items)

/-- The tokens of a name and its value. -/
def Value.memberTokens : Content × Value → List Token
  | (name, value) => .string name :: .colon :: value.tokens

/-- The tokens of further members of an object, each after a comma. -/
def Value.membersTokens : List (Content × Value) → List Token
  | [] => []
  | member :: members => .comma :: (memberTokens member ++ membersTokens members)

end

mutual

/-- Whether a value is written as it is meant wherever it stands: there is no number in it, and
all of its strings have a text. -/
def Value.Spelled : Value → Prop
  | .null => True
  | .bool _ => True
  | .number _ => False
  | .string content => content.isSome
  | .array items => SpelledItems items
  | .object members => SpelledMembers members

/-- Whether all items are written as they are meant. -/
def Value.SpelledItems : List Value → Prop
  | [] => True
  | item :: items => item.Spelled ∧ SpelledItems items

/-- Whether a member is written as it is meant. -/
def Value.SpelledMember : Content × Value → Prop
  | (name, value) => name.isSome ∧ value.Spelled

/-- Whether all members are written as they are meant. -/
def Value.SpelledMembers : List (Content × Value) → Prop
  | [] => True
  | member :: members => SpelledMember member ∧ SpelledMembers members

end

open Spells

theorem spells_writeString {content : Content} (some : content.isSome) :
    Spells (writeString content) [.string content] := by
  obtain ⟨text, rfl⟩ := Option.isSome_iff_exists.1 some
  exact string text

mutual

/-- The text of a value spells its tokens, in either layout. -/
theorem spells_write (layout : Layout) :
    (value : Value) → value.Spelled → Spells (value.write layout) value.tokens
  | .null, _ => null
  | .bool value, _ => bool value
  | .string _, spelled => spells_writeString spelled
  | .array [], _ => openBracket.append closeBracket
  | .array (item :: items), spelled =>
    have opened := openBracket.append (lineBreak layout.deeper)
    have first := opened.append (spells_write layout.deeper item spelled.1)
    have all := first.append (spells_writeItems layout.deeper items spelled.2)
    have closed := (lineBreak layout).append closeBracket
    by simpa [Value.write, Value.tokens] using all.append closed
  | .object [], _ => openBrace.append closeBrace
  | .object (member :: members), spelled =>
    have opened := openBrace.append (lineBreak layout.deeper)
    have first := opened.append (spells_writeMember layout.deeper member spelled.1)
    have all := first.append (spells_writeMembers layout.deeper members spelled.2)
    have closed := (lineBreak layout).append closeBrace
    by simpa [Value.write, Value.tokens] using all.append closed

/-- The texts of further items spell their tokens. -/
theorem spells_writeItems (layout : Layout) :
    (items : List Value) → Value.SpelledItems items →
      Spells (Value.writeItems layout items) (Value.itemTokens items)
  | [], _ => nil
  | item :: items, spelled =>
    have started := comma.append (lineBreak layout)
    have first := started.append (spells_write layout item spelled.1)
    by simpa [Value.writeItems, Value.itemTokens] using
      first.append (spells_writeItems layout items spelled.2)

/-- The text of a member spells its tokens. -/
theorem spells_writeMember (layout : Layout) :
    (member : Content × Value) → Value.SpelledMember member →
      Spells (Value.writeMember layout member) (Value.memberTokens member)
  | (_, value), spelled =>
    have named := (spells_writeString spelled.1).append (afterName layout)
    named.append (spells_write layout value spelled.2)

/-- The texts of further members spell their tokens. -/
theorem spells_writeMembers (layout : Layout) :
    (members : List (Content × Value)) → Value.SpelledMembers members →
      Spells (Value.writeMembers layout members) (Value.membersTokens members)
  | [], _ => nil
  | member :: members, spelled =>
    have started := comma.append (lineBreak layout)
    have first := started.append (spells_writeMember layout member spelled.1)
    by simpa [Value.writeMembers, Value.membersTokens] using
      first.append (spells_writeMembers layout members spelled.2)

end

end Phrasebook.Json
