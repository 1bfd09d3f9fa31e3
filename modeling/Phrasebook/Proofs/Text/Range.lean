import Phrasebook.Text.ByteRange

/-!
# What a byte range holds

A range of bytes reads a part of a text when both of its ends lie between two
characters and the bytes between them are those of the part. A range that ends
inside a character, or beyond the text, reads nothing.
-/

namespace Phrasebook.Text

/-- Counting character by character gives the size of the text. -/
theorem byteLength_eq_size (chars : List Char) :
    byteLength chars = (String.ofList chars).utf8ByteSize := by
  induction chars with
  | nil => simp [byteLength]
  | cons c rest inductionHypothesis => simp [byteLength, String.ofList_cons, inductionHypothesis]

/-- The characters of a text take as many bytes as the text. -/
theorem byteLength_toList (text : String) : byteLength text.toList = text.utf8ByteSize := by
  rw [byteLength_eq_size, String.ofList_toList]

/-- Every character takes some bytes. -/
theorem byteLength_eq_zero_iff (chars : List Char) : byteLength chars = 0 ↔ chars = [] := by
  cases chars with
  | nil => simp [byteLength]
  | cons c rest =>
    have positive : 0 < c.utf8Size := Char.utf8Size_pos c
    simp only [byteLength, reduceCtorEq, iff_false]
    omega

/-- Of two beginnings of a text, the one with fewer bytes begins the other. -/
theorem append_split_of_le {left right left' right' : List Char}
    (same : left ++ right = left' ++ right') (shorter : byteLength left ≤ byteLength left') :
    ∃ middle, left' = left ++ middle ∧ right = middle ++ right' := by
  rcases List.append_eq_append_iff.1 same with split | ⟨middle, rfl, rfl⟩
  · exact split
  · rw [byteLength_append] at shorter
    have empty : byteLength middle = 0 := by omega
    rw [byteLength_eq_zero_iff] at empty
    exact ⟨[], by simp [empty], by simp [empty]⟩

/-- A position divides a text in one way only. -/
theorem append_inj_of_byteLength {left right left' right' : List Char}
    (same : left ++ right = left' ++ right') (place : byteLength left = byteLength left') :
    left = left' ∧ right = right' := by
  obtain ⟨middle, rfl, rfl⟩ := append_split_of_le same (Nat.le_of_eq place)
  rw [byteLength_append] at place
  have empty : byteLength middle = 0 := by omega
  rw [byteLength_eq_zero_iff] at empty
  simp [empty]

namespace ByteRange

/-- Whether both ends of a range are positions of a text, in order. -/
structure Within (range : ByteRange) (input : String) : Prop where
  /-- The range does not run backwards. -/
  ordered : range.start ≤ range.stop
  /-- It starts at the start of a character or at the end of the text. -/
  starts : String.Pos.Raw.IsValid input ⟨range.start⟩
  /-- It stops at the start of a character or at the end of the text. -/
  stops : String.Pos.Raw.IsValid input ⟨range.stop⟩

/-- Whether a range of a text holds exactly the given part. -/
structure Reads (range : ByteRange) (input part : String) : Prop where
  /-- The range lies in the text. -/
  within : range.Within input
  /-- Its bytes are those of the part. -/
  bytes : part.toByteArray = input.toByteArray.extract range.start range.stop

/-- Where the characters before a fragment end, the fragment is read. -/
theorem reads_ofFragment {input : String} {before fragment after : List Char}
    (whole : input.toList = before ++ fragment ++ after) :
    (ofFragment (byteLength before) fragment).Reads input (String.ofList fragment) := by
  have split : input = String.ofList before ++ String.ofList fragment ++ String.ofList after := by
    rw [← String.ofList_append, ← String.ofList_append, ← whole, String.ofList_toList]
  refine ⟨⟨Nat.le_add_right .., ?_, ?_⟩, ?_⟩
  · rw [String.Pos.Raw.isValid_iff_exists_append]
    refine ⟨String.ofList before, String.ofList fragment ++ String.ofList after, ?_, ?_⟩
    · rw [split, String.append_assoc]
    · exact String.Pos.Raw.ext (byteLength_eq_size before)
  · rw [String.Pos.Raw.isValid_iff_exists_append]
    refine ⟨String.ofList before ++ String.ofList fragment, String.ofList after, split, ?_⟩
    rw [← String.ofList_append]
    refine String.Pos.Raw.ext ?_
    exact (byteLength_append before fragment).symm.trans (byteLength_eq_size (before ++ fragment))
  · rw [split, String.append_assoc, String.toByteArray_append, String.toByteArray_append]
    simp only [ofFragment, byteLength_eq_size, ← String.size_toByteArray]
    have skipped := ByteArray.extract_append_size_add (a := (String.ofList before).toByteArray)
      (b := (String.ofList fragment).toByteArray ++ (String.ofList after).toByteArray) (i := 0)
      (j := (String.ofList fragment).toByteArray.size)
    rw [Nat.add_zero] at skipped
    rw [skipped, ByteArray.extract_append_size_left, ByteArray.extract_zero_size]

/-- A range of a text cuts the text in three. -/
theorem Within.split {range : ByteRange} {input : String} (within : range.Within input) :
    ∃ before fragment after, input.toList = before ++ fragment ++ after ∧
      range = ofFragment (byteLength before) fragment := by
  obtain ⟨first, behindFirst, startSplit, startSize⟩ :=
    String.Pos.Raw.isValid_iff_exists_append.1 within.starts
  obtain ⟨second, behindSecond, stopSplit, stopSize⟩ :=
    String.Pos.Raw.isValid_iff_exists_append.1 within.stops
  have start : range.start = byteLength first.toList := by
    rw [byteLength_toList]
    exact congrArg String.Pos.Raw.byteIdx startSize
  have stop : range.stop = byteLength second.toList := by
    rw [byteLength_toList]
    exact congrArg String.Pos.Raw.byteIdx stopSize
  have same : first.toList ++ behindFirst.toList = second.toList ++ behindSecond.toList := by
    rw [← String.toList_append, ← String.toList_append, ← startSplit, ← stopSplit]
  have ordered : byteLength first.toList ≤ byteLength second.toList := by
    rw [← start, ← stop]
    exact within.ordered
  obtain ⟨fragment, split, -⟩ := append_split_of_le same ordered
  refine ⟨first.toList, fragment, behindSecond.toList, ?_, ?_⟩
  · rw [stopSplit, String.toList_append, split]
  · rw [ofFragment, ← byteLength_append, ← split, ← start, ← stop]

/-- A range reads one text at most. -/
theorem Reads.unique {range : ByteRange} {input part other : String}
    (reads : range.Reads input part) (also : range.Reads input other) : part = other :=
  String.toByteArray_inj.1 (reads.bytes.trans also.bytes.symm)

/-- What a range reads stands between two parts of the text. -/
theorem reads_iff {range : ByteRange} {input part : String} :
    range.Reads input part ↔ ∃ before after, input.toList = before ++ part.toList ++ after ∧
      range = ofFragment (byteLength before) part.toList := by
  constructor
  · intro reads
    obtain ⟨before, fragment, after, whole, rfl⟩ := reads.within.split
    obtain rfl := reads.unique (reads_ofFragment whole)
    rw [String.toList_ofList]
    exact ⟨before, after, whole, rfl⟩
  · rintro ⟨before, after, whole, rfl⟩
    have reads := reads_ofFragment whole
    rwa [String.ofList_toList] at reads

/-- A range of a text reads one part of it. -/
theorem Within.exists_reads {range : ByteRange} {input : String} (within : range.Within input) :
    ∃ part, range.Reads input part ∧ ∀ other, range.Reads input other → other = part := by
  obtain ⟨before, fragment, after, whole, rfl⟩ := within.split
  exact ⟨_, reads_ofFragment whole, fun other reads => reads.unique (reads_ofFragment whole)⟩

end ByteRange

end Phrasebook.Text
