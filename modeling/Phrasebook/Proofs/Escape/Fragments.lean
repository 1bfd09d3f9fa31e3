import Phrasebook.Proofs.Escape.Report

/-!
# Unescaping part by part

A text can be unescaped in parts, one after the other. What is found in the second part depends
on the first part only through its last character, and on that only if a delimiter comes first.
So a text can be cut anywhere but between a marker and the delimiter that it escapes. There the
delimiter is stray in the second part.

A report on a part becomes a report on the whole when its positions are moved. In the same way a
fragment of an input is unescaped as a text of its own, and the report is moved to where the
fragment lies.
-/

namespace Phrasebook

open Text (byteLength byteLength_toList ByteRange)

/-- The range with both ends moved by some bytes. -/
def Text.ByteRange.moved (offset : Nat) (range : ByteRange) : ByteRange :=
  ⟨offset + range.start, offset + range.stop⟩

/-- The report on a text that is unescaped as a whole. -/
def StrayDelimiter.onWhole (text : String) (offending : ByteRange) (delimiter : Char) :
    StrayDelimiter where
  input := text
  fragment := text
  fragmentRange := ⟨0, text.utf8ByteSize⟩
  offending
  delimiter

variable {delimiters : Delimiters}

namespace Escape

/-- Whether no escape is cut in two where texts meet: the first text does not end in a marker, or
the second one does not begin with a delimiter. -/
def Unsplit (delimiters : Delimiters) (left right : List Char) : Prop :=
  left.getLast? ≠ some marker ∨ ∀ c ∈ right.head?, delimiters.contains c = false

instance (delimiters : Delimiters) (left right : List Char) :
    Decidable (Unsplit delimiters left right) :=
  match right with
  | [] => isTrue (.inr nofun)
  | c :: _ => decidable_of_iff (left.getLast? ≠ some marker ∨ delimiters.contains c = false) <| by
    simp [Unsplit]

/-- What stands before a text matters only if the text begins with a delimiter. -/
theorem stray_of_head_free {text : List Char} (escaped : Bool)
    (free : ∀ c ∈ text.head?, delimiters.contains c = false) :
    stray delimiters escaped text = stray delimiters false text := by
  cases text with
  | nil => rfl
  | cons c rest =>
    have plain : delimiters.contains c = false := free c rfl
    rw [stray_cons_of_free delimiters plain, stray_cons_of_free delimiters plain]

/-- Where no escape is cut in two, each text is searched by itself. -/
theorem Unsplit.stray_append {left right : List Char} (unsplit : Unsplit delimiters left right) :
    stray delimiters false (left ++ right) =
      (stray delimiters false left).or
        ((stray delimiters false right).map fun found =>
          (byteLength left + found.1, found.2)) := by
  have second : stray delimiters (markedAfter false left) right = stray delimiters false right := by
    rcases unsplit with unmarked | free
    · rw [markedAfter_of_unmarked unmarked]
    · exact stray_of_head_free _ free
  rw [Escape.stray_append, second]

/-- Where an escape is cut in two, the delimiter is stray in the second text. -/
theorem stray_of_split {left right : List Char} (split : ¬ Unsplit delimiters left right) :
    ∃ c, stray delimiters false right = some (0, c) := by
  obtain ⟨-, begins⟩ := not_or.1 split
  cases right with
  | nil => exact absurd nofun begins
  | cons c rest =>
    refine ⟨c, ?_⟩
    have reserved : delimiters.contains c = true := by simpa using begins
    simp [stray, reserved]

end Escape

/-- A text is refused at what the search finds in it. -/
theorem unescape_eq_error_iff_stray {text : String} {report : StrayDelimiter} :
    unescape delimiters text = .error report ↔
      ∃ offset delimiter, Escape.stray delimiters false text.toList = some (offset, delimiter) ∧
        report = .onWhole text ⟨offset, offset + 1⟩ delimiter := by
  have refused : unescape delimiters text = .error report ↔
      unescapeFragment delimiters text 0 text.toList = .error report := by
    rw [unescape]
    cases unescapeFragment delimiters text 0 text.toList <;> simp [Except.map]
  rw [refused, unescapeFragment_eq_error_iff_stray]
  simp [StrayDelimiter.onWhole, ByteRange.ofFragment, byteLength_toList]

/-- A text can be unescaped when nothing is found in it. -/
theorem unescape_ok_iff_stray {text : String} :
    (∃ plain, unescape delimiters text = .ok plain) ↔
      Escape.stray delimiters false text.toList = none := by
  cases result : unescape delimiters text with
  | ok plain =>
    rw [unescape_ok_iff] at result
    subst result
    simp [escape, Escape.stray_encode]
  | error report =>
    obtain ⟨offset, delimiter, found, -⟩ := unescape_eq_error_iff_stray.1 result
    simp [found]

/-- The plain texts of two parts make up the plain text of the whole. -/
theorem unescape_append_of_ok {left right first second : String}
    (before : unescape delimiters left = .ok first)
    (behind : unescape delimiters right = .ok second) :
    unescape delimiters (left ++ right) = .ok (first ++ second) := by
  rw [unescape_ok_iff] at before behind ⊢
  rw [before, behind, escape, escape, escape, String.toList_append, Escape.encode_append,
    String.ofList_append]

/-- A stray delimiter in the first part is the first one of the whole. -/
theorem unescape_append_of_error {left : String} {report : StrayDelimiter} (right : String)
    (before : unescape delimiters left = .error report) :
    unescape delimiters (left ++ right) =
      .error (.onWhole (left ++ right) report.offending report.delimiter) := by
  obtain ⟨offset, delimiter, found, rfl⟩ := unescape_eq_error_iff_stray.1 before
  refine unescape_eq_error_iff_stray.2 ⟨offset, delimiter, ?_, rfl⟩
  rw [String.toList_append, Escape.stray_append, found]
  rfl

/-- A stray delimiter in the second part is the first one of the whole if there is none in the
first part. -/
theorem unescape_append_of_right_error {left right first : String} {report : StrayDelimiter}
    (unsplit : Escape.Unsplit delimiters left.toList right.toList)
    (before : unescape delimiters left = .ok first)
    (behind : unescape delimiters right = .error report) :
    unescape delimiters (left ++ right) =
      .error (.onWhole (left ++ right) (report.offending.moved left.utf8ByteSize)
        report.delimiter) := by
  have nothing := unescape_ok_iff_stray.1 ⟨first, before⟩
  obtain ⟨offset, delimiter, found, rfl⟩ := unescape_eq_error_iff_stray.1 behind
  refine unescape_eq_error_iff_stray.2 ⟨left.utf8ByteSize + offset, delimiter, ?_, rfl⟩
  rw [String.toList_append, unsplit.stray_append, nothing, found, ← byteLength_toList]
  rfl

/-- Where no escape is cut in two, the whole can be unescaped just when both parts can. -/
theorem unescape_append_ok_iff {left right : String}
    (unsplit : Escape.Unsplit delimiters left.toList right.toList) :
    (∃ plain, unescape delimiters (left ++ right) = .ok plain) ↔
      (∃ first, unescape delimiters left = .ok first) ∧
        ∃ second, unescape delimiters right = .ok second := by
  simp only [unescape_ok_iff_stray, String.toList_append, unsplit.stray_append,
    Option.or_eq_none_iff, Option.map_eq_none_iff]

/-- What a range of an input holds is unescaped as a text of its own, and the report is moved to
where the range begins. -/
theorem unescapeFragment_of_reads {input part : String} {range : ByteRange}
    (reads : range.Reads input part) :
    (∀ plain : String,
      unescapeFragment delimiters input range.start part.toList = .ok plain.toList ↔
        unescape delimiters part = .ok plain) ∧
    ∀ report, unescapeFragment delimiters input range.start part.toList = .error report ↔
      ∃ inner, unescape delimiters part = .error inner ∧ report = {
        input
        fragment := part
        fragmentRange := range
        offending := inner.offending.moved range.start
        delimiter := inner.delimiter } := by
  obtain ⟨before, after, -, rfl⟩ := ByteRange.reads_iff.1 reads
  constructor
  · intro plain
    rw [unescapeFragment_eq_ok_iff, unescape_ok_iff, escape, ← String.toList_inj,
      String.toList_ofList]
  · intro report
    rw [unescapeFragment_eq_error_iff_stray, String.ofList_toList]
    constructor
    · rintro ⟨offset, delimiter, found, rfl⟩
      exact ⟨_, unescape_eq_error_iff_stray.2 ⟨offset, delimiter, found, rfl⟩, rfl⟩
    · rintro ⟨inner, refused, rfl⟩
      obtain ⟨offset, delimiter, found, rfl⟩ := unescape_eq_error_iff_stray.1 refused
      exact ⟨offset, delimiter, found, rfl⟩

/-- A text can be unescaped in two parts, unless it is cut between a marker and the delimiter that
it escapes. Either both parts are accepted and their plain texts make up that of the whole, or the
whole is refused as the first part is that is refused, at the same place of it. Behind a cut
escape the second part is refused at its first byte. What a range of an input holds is unescaped
as a text of its own, too, and reported where it lies. -/
theorem unescape_part_by_part (delimiters : Delimiters) :
    (∀ left right : String, Escape.Unsplit delimiters left.toList right.toList →
      ((∃ plain, unescape delimiters (left ++ right) = .ok plain) ↔
        (∃ first, unescape delimiters left = .ok first) ∧
          ∃ second, unescape delimiters right = .ok second) ∧
      (∀ first second, unescape delimiters left = .ok first →
        unescape delimiters right = .ok second →
          unescape delimiters (left ++ right) = .ok (first ++ second)) ∧
      (∀ report, unescape delimiters left = .error report →
        unescape delimiters (left ++ right) =
          .error (.onWhole (left ++ right) report.offending report.delimiter)) ∧
      ∀ first report, unescape delimiters left = .ok first →
        unescape delimiters right = .error report →
          unescape delimiters (left ++ right) =
            .error (.onWhole (left ++ right) (report.offending.moved left.utf8ByteSize)
              report.delimiter)) ∧
    (∀ left right : String, ¬ Escape.Unsplit delimiters left.toList right.toList →
      ∃ delimiter, unescape delimiters right = .error (.onWhole right ⟨0, 1⟩ delimiter)) ∧
    (∀ (input : String) (range : ByteRange), range.Within input →
      ∃ part, range.Reads input part ∧ ∀ other, range.Reads input other → other = part) ∧
    ∀ (input part : String) (range : ByteRange), range.Reads input part →
      (∀ plain : String,
        unescapeFragment delimiters input range.start part.toList = .ok plain.toList ↔
          unescape delimiters part = .ok plain) ∧
      ∀ report, unescapeFragment delimiters input range.start part.toList = .error report ↔
        ∃ inner, unescape delimiters part = .error inner ∧ report = {
          input
          fragment := part
          fragmentRange := range
          offending := inner.offending.moved range.start
          delimiter := inner.delimiter } := by
  refine ⟨?_, ?_, fun _ _ within => within.exists_reads, fun _ _ _ => unescapeFragment_of_reads⟩
  · intro left right unsplit
    refine ⟨unescape_append_ok_iff unsplit, ?_, ?_, ?_⟩
    · exact fun first second => unescape_append_of_ok
    · exact fun report => unescape_append_of_error right
    · exact fun first report => unescape_append_of_right_error unsplit
  · intro left right split
    obtain ⟨delimiter, found⟩ := Escape.stray_of_split split
    exact ⟨delimiter, unescape_eq_error_iff_stray.2 ⟨0, delimiter, found, rfl⟩⟩

/-- Two parts that meet behind a plain marker, a stray delimiter behind such a seam, one before a
seam, a seam in the middle of an escape, and a fragment that begins there. -/
theorem unescape_part_by_part_seams :
    (Escape.Unsplit .request "é\\@\\".toList "ß\\\x7d".toList ∧
      unescape .request "é\\@\\" = .ok "é@\\" ∧ unescape .request "ß\\\x7d" = .ok "ß\x7d" ∧
      unescape .request ("é\\@\\" ++ "ß\\\x7d") = .ok ("é@\\" ++ "ß\x7d")) ∧
    (Escape.Unsplit .request "é\\@\\".toList "\\@\x7b".toList ∧
      unescape .request ("é\\@\\" ++ "\\@\x7b") =
        .error (.onWhole ("é\\@\\" ++ "\\@\x7b") ⟨7, 8⟩ '\x7b')) ∧
    (Escape.Unsplit .request "é\x7dß".toList "@".toList ∧
      unescape .request ("é\x7dß" ++ "@") =
        .error (.onWhole ("é\x7dß" ++ "@") ⟨2, 3⟩ '\x7d')) ∧
    (¬ Escape.Unsplit .request "é\\".toList "@ß".toList ∧
      ∃ delimiter, unescape .request "@ß" = .error (.onWhole "@ß" ⟨0, 1⟩ delimiter)) ∧
    ((⟨3, 6⟩ : ByteRange).Reads "é\\@ß\x7d" "@ß" ∧
      unescapeFragment .request "é\\@ß\x7d" 3 "@ß".toList = .error {
        input := "é\\@ß\x7d"
        fragment := "@ß"
        fragmentRange := ⟨3, 6⟩
        offending := ⟨3, 4⟩
        delimiter := '@' }) := by
  obtain ⟨joined, split, -, fragments⟩ := unescape_part_by_part .request
  have plainSeam : Escape.Unsplit .request "é\\@\\".toList "ß\\\x7d".toList := by decide +kernel
  have markedSeam : Escape.Unsplit .request "é\\@\\".toList "\\@\x7b".toList := by decide +kernel
  have bareSeam : Escape.Unsplit .request "é\x7dß".toList "@".toList := by decide +kernel
  have cut : ¬ Escape.Unsplit .request "é\\".toList "@ß".toList := by decide +kernel
  have first : unescape .request "é\\@\\" = .ok "é@\\" :=
    (unescape_ok_iff ..).2 (by decide +kernel)
  have second : unescape .request "ß\\\x7d" = .ok "ß\x7d" :=
    (unescape_ok_iff ..).2 (by decide +kernel)
  have behind : unescape .request "\\@\x7b" = .error (.onWhole "\\@\x7b" ⟨2, 3⟩ '\x7b') :=
    unescape_eq_error_iff_stray.2 ⟨2, '\x7b', by decide +kernel, rfl⟩
  have before : unescape .request "é\x7dß" = .error (.onWhole "é\x7dß" ⟨2, 3⟩ '\x7d') :=
    unescape_eq_error_iff_stray.2 ⟨2, '\x7d', by decide +kernel, rfl⟩
  have atSign : unescape .request "@ß" = .error (.onWhole "@ß" ⟨0, 1⟩ '@') :=
    unescape_eq_error_iff_stray.2 ⟨0, '@', by decide +kernel, rfl⟩
  have reads : (⟨3, 6⟩ : ByteRange).Reads "é\\@ß\x7d" "@ß" :=
    ByteRange.reads_iff.2 ⟨['é', '\\'], ['\x7d'], by decide +kernel, by decide +kernel⟩
  exact ⟨⟨plainSeam, first, second, (joined _ _ plainSeam).2.1 _ _ first second⟩,
    ⟨markedSeam, (joined _ _ markedSeam).2.2.2 _ _ first behind⟩,
    ⟨bareSeam, (joined _ _ bareSeam).2.2.1 _ before⟩, ⟨cut, split _ _ cut⟩, reads,
    ((fragments _ _ _ reads).2 _).2 ⟨_, atSign, rfl⟩⟩

end Phrasebook
