import Phrasebook.Escape

/-!
# Unescaping undoes escaping, and nothing else

A text is accepted when each of its delimiters stands right after a marker. The
accepted texts are exactly those that escaping produces, and each of them stands
for the one text that it was produced from. Markers need no escape of their own
for this, because escaping never puts a delimiter right after a plain marker.

The search for a stray delimiter is described on joined texts: what is found in
the second part depends on the first part only through its last character.
-/

namespace Phrasebook.Escape

open Text (byteLength byteLength_append)

variable (delimiters : Delimiters)

/-- The marker itself is never reserved. -/
theorem marker_free : delimiters.contains marker = false := by
  cases delimiters <;> decide

/-- Every delimiter is an ASCII character and takes one byte. -/
theorem delimiter_size {c : Char} (reserved : delimiters.contains c = true) : c.utf8Size = 1 := by
  cases delimiters <;> simp only [Delimiters.contains, Bool.or_eq_true, beq_iff_eq] at reserved
  · rcases reserved with rfl | rfl <;> decide
  · rcases reserved with (rfl | rfl) | rfl <;> decide

/-- Whether a marker stands right before what follows a text. An empty text leaves
that to what stands before it. -/
def markedAfter : Bool → List Char → Bool
  | escaped, [] => escaped
  | _, c :: rest => markedAfter (c == marker) rest

/-- Only the last character of a text that is not empty decides. -/
theorem markedAfter_concat (escaped : Bool) (text : List Char) (c : Char) :
    markedAfter escaped (text ++ [c]) = (c == marker) := by
  induction text generalizing escaped with
  | nil => rfl
  | cons d rest inductionHypothesis => exact inductionHypothesis (d == marker)

/-- At the start of everything there is no marker, so it must end the text. -/
theorem markedAfter_eq_true_iff (text : List Char) :
    markedAfter false text = true ↔ text.getLast? = some marker := by
  rcases List.eq_nil_or_concat text with rfl | ⟨before, c, rfl⟩
  · simp [markedAfter]
  · simp [markedAfter_concat]

/-- Text that does not end in a marker leaves no marker behind. -/
theorem markedAfter_of_unmarked {text : List Char} (unmarked : text.getLast? ≠ some marker) :
    markedAfter false text = false := by
  rw [Bool.eq_false_iff, ne_eq, markedAfter_eq_true_iff]
  exact unmarked

/-- What stands before a text can only be followed by a marker of its own. -/
theorem markedAfter_append (escaped : Bool) (left right : List Char) :
    markedAfter escaped (left ++ right) = markedAfter (markedAfter escaped left) right := by
  induction left generalizing escaped with
  | nil => rfl
  | cons c rest inductionHypothesis => exact inductionHypothesis (c == marker)

/-- The search in a joined text goes through the first part, and then through the second one as
the first part leaves off. -/
theorem stray_append (escaped : Bool) (left right : List Char) :
    stray delimiters escaped (left ++ right) =
      (stray delimiters escaped left).or
        ((stray delimiters (markedAfter escaped left) right).map fun found =>
          (byteLength left + found.1, found.2)) := by
  induction left generalizing escaped with
  | nil => simp [stray, markedAfter, byteLength]
  | cons c rest inductionHypothesis =>
    simp only [List.cons_append, stray, markedAfter]
    split
    · rfl
    · rw [inductionHypothesis]
      cases stray delimiters (c == marker) rest with
      | some found => rfl
      | none => simp [byteLength, Function.comp_def, Nat.add_assoc]

/-- A joined text has no stray delimiter when its parts have none, the second one
read after the first. -/
theorem stray_append_eq_none_iff (escaped : Bool) (left right : List Char) :
    stray delimiters escaped (left ++ right) = none ↔
      stray delimiters escaped left = none ∧
        stray delimiters (markedAfter escaped left) right = none := by
  simp [stray_append]

/-- The flag matters only when a delimiter comes first. -/
theorem stray_cons_of_free {c : Char} (free : delimiters.contains c = false) (escaped : Bool)
    (rest : List Char) :
    stray delimiters escaped (c :: rest) =
      (stray delimiters (c == marker) rest).map fun found => (c.utf8Size + found.1, found.2) := by
  simp [stray, free]

/-- A text has no stray delimiter exactly when a marker stands right before each
of its delimiters. -/
theorem stray_eq_none_iff (escaped : Bool) (text : List Char) :
    stray delimiters escaped text = none ↔
      ∀ left c right, text = left ++ c :: right → delimiters.contains c = true →
        markedAfter escaped left = true := by
  constructor
  · rintro accepted left c right rfl reserved
    have after := ((stray_append_eq_none_iff delimiters escaped left (c :: right)).1 accepted).2
    rw [stray] at after
    split at after
    · cases after
    · simp_all
  · intro marked
    induction text generalizing escaped with
    | nil => rfl
    | cons c rest inductionHypothesis =>
      have first : delimiters.contains c = true → escaped = true := marked [] c rest rfl
      have others : stray delimiters (c == marker) rest = none := by
        refine inductionHypothesis (c == marker) ?_
        rintro left d right rfl reserved
        exact marked (c :: left) d right rfl reserved
      rw [stray, others]
      cases escaped <;> simp_all

/-- A text that nothing stands before has no stray delimiter exactly when what it holds
before each delimiter ends in a marker. -/
theorem stray_start_eq_none_iff (text : List Char) :
    stray delimiters false text = none ↔
      ∀ left c right, text = left ++ c :: right → delimiters.contains c = true →
        left.getLast? = some marker := by
  simp only [stray_eq_none_iff, markedAfter_eq_true_iff]

/-- The reported delimiter is not escaped, everything before it is, and the
reported position counts the bytes before it. -/
theorem stray_eq_some_iff (escaped : Bool) (text : List Char) (offset : Nat) (c : Char) :
    stray delimiters escaped text = some (offset, c) ↔
      ∃ before after, text = before ++ c :: after ∧ delimiters.contains c = true ∧
        markedAfter escaped before = false ∧ stray delimiters escaped before = none ∧
        byteLength before = offset := by
  constructor
  · intro found
    induction text generalizing escaped offset with
    | nil => cases found
    | cons d rest inductionHypothesis =>
      rw [stray] at found
      split at found
      · cases found
        exact ⟨[], rest, rfl, by simp_all, by simp_all [markedAfter], rfl, rfl⟩
      · next passed =>
        obtain ⟨⟨inner, _⟩, later, same⟩ := Option.map_eq_some_iff.1 found
        cases same
        obtain ⟨before, after, rfl, reserved, unmarked, accepted, rfl⟩ :=
          inductionHypothesis (d == marker) inner later
        exact ⟨d :: before, after, rfl, reserved, unmarked, by simp [stray, passed, accepted], rfl⟩
  · rintro ⟨before, after, rfl, reserved, unmarked, accepted, rfl⟩
    simp [stray_append, accepted, unmarked, stray, reserved]

/-- Escaping treats the characters one by one. -/
theorem encode_append (left right : List Char) :
    encode delimiters (left ++ right) = encode delimiters left ++ encode delimiters right := by
  induction left with
  | nil => rfl
  | cons c rest inductionHypothesis =>
    simp only [List.cons_append, encode, inductionHypothesis]
    split <;> rfl

/-- Escaping keeps whether anything is there. -/
theorem encode_eq_nil_iff (text : List Char) : encode delimiters text = [] ↔ text = [] := by
  cases text with
  | nil => simp [encode]
  | cons c rest =>
    rw [encode]
    split <;> simp

/-- Escaping keeps the last character. -/
theorem encode_getLast? (text : List Char) : (encode delimiters text).getLast? = text.getLast? := by
  rcases List.eq_nil_or_concat text with rfl | ⟨before, c, rfl⟩
  · rfl
  · rw [List.concat_eq_append, encode_append]
    simp only [encode]
    split <;> simp

/-- Escaping brings in markers and no other characters. -/
theorem mem_encode {c : Char} (other : c ≠ marker) (text : List Char) :
    c ∈ encode delimiters text ↔ c ∈ text := by
  induction text with
  | nil => rfl
  | cons d rest inductionHypothesis =>
    rw [encode]
    split <;> simp [inductionHypothesis, other]

/-- The characters before the last one are escaped among themselves. -/
theorem mem_dropLast_encode {c : Char} (other : c ≠ marker) (text : List Char) :
    c ∈ (encode delimiters text).dropLast ↔ c ∈ text.dropLast := by
  rcases List.eq_nil_or_concat text with rfl | ⟨before, d, rfl⟩
  · rfl
  · rw [List.concat_eq_append, encode_append]
    simp only [encode]
    split <;> simp [mem_encode delimiters other, other]

/-- An escaped text never begins with a delimiter. -/
theorem encode_head_free {text rest : List Char} {c : Char}
    (begins : encode delimiters text = c :: rest) : delimiters.contains c = false := by
  cases text with
  | nil => cases begins
  | cons d tail =>
    rw [encode] at begins
    split at begins
    · cases begins
      exact marker_free delimiters
    · next free =>
      cases begins
      simpa using free

/-- An escaped text has no stray delimiter, whatever stands before it. -/
theorem stray_encode (escaped : Bool) (text : List Char) :
    stray delimiters escaped (encode delimiters text) = none := by
  induction text generalizing escaped with
  | nil => rfl
  | cons c rest inductionHypothesis =>
    rw [encode]
    split
    · simp [stray, marker_free, inductionHypothesis]
    · next free => simp [stray, free, inductionHypothesis]

/-- Escaped text that follows other text leaves behind what the plain text would. -/
theorem markedAfter_encode (escaped : Bool) (text : List Char) :
    markedAfter escaped (encode delimiters text) = markedAfter escaped text := by
  rcases List.eq_nil_or_concat text with rfl | ⟨before, c, rfl⟩
  · rfl
  · rw [List.concat_eq_append, encode_append, markedAfter_append, markedAfter_concat]
    simp only [encode]
    split <;> rfl

/-- Dropping the markers of an escaped text gives the text back. -/
theorem collapse_encode (text : List Char) :
    collapse delimiters (encode delimiters text) = text := by
  induction text with
  | nil => rfl
  | cons c rest inductionHypothesis =>
    rw [encode]
    split
    · next reserved => simp [collapse, reserved, inductionHypothesis]
    · cases escapedRest : encode delimiters rest with
      | nil =>
        rw [(encode_eq_nil_iff delimiters rest).1 escapedRest]
        rfl
      | cons next tail =>
        have free := encode_head_free delimiters escapedRest
        rw [collapse]
        simp [free, ← escapedRest, inductionHypothesis]

/-- Escaping the text that an accepted text stands for gives the accepted text
back. No two markers are merged: one that is dropped stands before a delimiter. -/
theorem encode_collapse {text : List Char} (accepted : stray delimiters false text = none) :
    encode delimiters (collapse delimiters text) = text := by
  fun_induction collapse delimiters text with
  | case1 => rfl
  | case2 c =>
    have free : delimiters.contains c = false := by simpa [stray] using accepted
    simp [encode, free]
  | case3 c next rest escapes inductionHypothesis =>
    simp only [Bool.and_eq_true, beq_iff_eq] at escapes
    obtain ⟨rfl, reserved⟩ := escapes
    have unmarked : (next == marker) = false := by
      rw [beq_eq_false_iff_ne]
      rintro rfl
      simp [marker_free] at reserved
    have others : stray delimiters false rest = none := by
      simpa [stray, marker_free, unmarked] using accepted
    simp [encode, reserved, inductionHypothesis others]
  | case4 c next rest plain inductionHypothesis =>
    have free : delimiters.contains c = false := by
      rw [stray] at accepted
      split at accepted
      · cases accepted
      · simp_all
    have others : stray delimiters false (next :: rest) = none := by
      have later : stray delimiters (c == marker) (next :: rest) = none := by
        simpa [stray_cons_of_free delimiters free] using accepted
      cases marked : c == marker with
      | false => simpa [marked] using later
      | true =>
        have nextFree : delimiters.contains next = false := by simpa [marked] using plain
        rwa [stray_cons_of_free delimiters nextFree] at later ⊢
    simp [encode, free, inductionHypothesis others]

/-- A fragment stands for exactly the text that it is the escaped form of. -/
theorem decode_eq_ok_iff (fragment text : List Char) :
    decode delimiters fragment = .ok text ↔ fragment = encode delimiters text := by
  constructor
  · intro accepted
    rw [decode] at accepted
    split at accepted
    · cases accepted
    · next clean =>
      cases accepted
      exact (encode_collapse delimiters clean).symm
  · rintro rfl
    simp [decode, stray_encode, collapse_encode]

/-- A fragment is refused with what the search for a stray delimiter finds. -/
theorem decode_eq_error_iff (fragment : List Char) (found : Nat × Char) :
    decode delimiters fragment = .error found ↔ stray delimiters false fragment = some found := by
  rw [decode]
  split <;> simp_all

end Phrasebook.Escape

namespace Phrasebook

variable (delimiters : Delimiters)

/-- Where a fragment lies has no part in what it stands for. -/
theorem unescapeFragment_eq_ok_iff (input : String) (start : Nat) (fragment text : List Char) :
    unescapeFragment delimiters input start fragment = .ok text ↔
      fragment = Escape.encode delimiters text := by
  rw [← Escape.decode_eq_ok_iff, unescapeFragment]
  cases Escape.decode delimiters fragment <;> simp

/-- A text can be unescaped to exactly the text that it is the escaped form of. -/
theorem unescape_ok_iff (text plain : String) :
    unescape delimiters text = .ok plain ↔ text = escape delimiters plain := by
  have same : text = escape delimiters plain ↔
      text.toList = Escape.encode delimiters plain.toList := by
    rw [escape, ← String.toList_inj, String.toList_ofList]
  rw [same, ← unescapeFragment_eq_ok_iff delimiters text 0, unescape]
  cases unescapeFragment delimiters text 0 text.toList with
  | error stray => simp [Except.map]
  | ok found => simp [Except.map, ← String.toList_inj]

/-- Unescaping is the inverse of escaping, as far as it accepts a text at all. It accepts
the escaped texts and no others, gives back what was escaped, and gives the same text for
no two of them. -/
theorem unescape_inverse :
    (∀ text plain, unescape delimiters text = .ok plain ↔ text = escape delimiters plain) ∧
      (∀ plain, unescape delimiters (escape delimiters plain) = .ok plain) ∧
      (∀ text plain, unescape delimiters text = .ok plain → escape delimiters plain = text) ∧
      (∀ text, (∃ plain, unescape delimiters text = .ok plain) ↔
        ∃ plain, escape delimiters plain = text) ∧
      ∀ text other plain, unescape delimiters text = .ok plain →
        unescape delimiters other = .ok plain → text = other := by
  have inverse : ∀ text plain,
      unescape delimiters text = .ok plain ↔ text = escape delimiters plain :=
    unescape_ok_iff delimiters
  refine ⟨inverse, ?_, ?_, ?_, ?_⟩
  · intro plain
    exact (inverse (escape delimiters plain) plain).2 rfl
  · intro text plain accepted
    exact ((inverse text plain).1 accepted).symm
  · intro text
    constructor
    · rintro ⟨plain, accepted⟩
      exact ⟨plain, ((inverse text plain).1 accepted).symm⟩
    · rintro ⟨plain, escaped⟩
      exact ⟨plain, (inverse text plain).2 escaped.symm⟩
  · intro text other plain accepted also
    have first := (inverse text plain).1 accepted
    have second := (inverse other plain).1 also
    exact first.trans second.symm

/-- A run of markers before a delimiter loses the last one only, and gets it back. -/
theorem unescape_inverse_markers :
    unescape .request "é\\\\\\@\\\\\x7bß\\" = .ok "é\\\\@\\\x7bß\\" ∧
      escape .request "é\\\\@\\\x7bß\\" = "é\\\\\\@\\\\\x7bß\\" ∧
      ∀ other, unescape .request other = .ok "é\\\\@\\\x7bß\\" →
        "é\\\\\\@\\\\\x7bß\\" = other := by
  obtain ⟨-, -, escapedBack, -, unique⟩ := unescape_inverse .request
  have accepted : unescape .request "é\\\\\\@\\\\\x7bß\\" = .ok "é\\\\@\\\x7bß\\" := by
    cbv
  exact ⟨accepted, escapedBack _ _ accepted, fun other also => unique _ other _ accepted also⟩

end Phrasebook
