/-
This file bounds the OSC reader: whatever read calls are made on whatever bytes, the
position stays inside the buffer, the pointers that are handed out point into it, and
a reader that has gone invalid stays where it is.

One call breaks this. A blob is checked against its length and then moved past its
padding before the padding is checked, so a blob whose bytes are there and whose
padding is cut off leaves the position behind the end. The bounds hold exactly in the
runs that never meet such a blob.
-/

import PairDriver.OscRoundTrip

namespace PairDriver.Osc

open PubPipe (pad4_eq_roundUp4)

/-! ### Read calls -/

inductive ReadCall where
  | str
  | int32
  | float
  | blob
deriving DecidableEq

/-- The reader after a call. -/
def OscReader.call (reader : OscReader) : ReadCall → OscReader
  | .str => reader.readStr.2
  | .int32 => reader.readInt32.2
  | .float => reader.readFloat.2
  | .blob => reader.readBlob.2

/-- The first offset and the length of what a call returns a pointer to. A string is
returned with its NUL, a blob begins after its length word. -/
def OscReader.pointed (reader : OscReader) : ReadCall → Option (Nat × Nat)
  | .str => reader.readStr.1.map fun text => (reader.pos, text.length + 1)
  | .int32 => none
  | .float => none
  | .blob => reader.readBlob.1.map fun data => (reader.readInt32.2.pos, data.length)

/-- What a call must keep to. -/
structure OscReader.Keeps (reader : OscReader) (call : ReadCall) : Prop where
  inside : (reader.call call).pos ≤ reader.data.length
  pointed : ∀ range, reader.pointed call = some range → range.1 + range.2 ≤ reader.data.length
  staysInvalid : reader.valid = false →
    (reader.call call).valid = false ∧ (reader.call call).pos = reader.pos

/-- Every call of a sequence keeps to the bounds. -/
def OscReader.InBounds : OscReader → List ReadCall → Prop
  | _, [] => True
  | reader, call :: calls => reader.Keeps call ∧ (reader.call call).InBounds calls

/-- The length a blob states at the reader's position. -/
def OscReader.statedSize (reader : OscReader) : Nat :=
  (ofBigEndian32 ((reader.data.drop reader.pos).take 4)).toNat

/-- The call reads a blob whose bytes are in the buffer and whose padding is not. -/
def OscReader.CutsPadding (reader : OscReader) (call : ReadCall) : Prop :=
  call = .blob ∧ reader.valid = true ∧ reader.statedSize < 2 ^ 31 ∧
    reader.pos + 4 + reader.statedSize ≤ reader.data.length ∧
    reader.data.length < reader.pos + 4 + oscPad4 reader.statedSize

/-- No call of a sequence reads a blob whose padding is cut. -/
def OscReader.NeverCuts : OscReader → List ReadCall → Prop
  | _, [] => True
  | reader, call :: calls => ¬reader.CutsPadding call ∧ (reader.call call).NeverCuts calls

/-! ### What one call does -/

@[simp]
theorem invalid_data (reader : OscReader) : reader.invalid.data = reader.data := rfl

@[simp]
theorem invalid_pos (reader : OscReader) : reader.invalid.pos = reader.pos := rfl

@[simp]
theorem invalid_valid (reader : OscReader) : reader.invalid.valid = false := rfl

/-- A string either leaves the reader where it is, without a string, or takes it past the
padding of a string that lies in the buffer with its NUL. -/
theorem readStr_cases (reader : OscReader) :
    (reader.readStr.1 = none ∧ reader.readStr.2.data = reader.data ∧
        reader.readStr.2.pos = reader.pos ∧ reader.readStr.2.valid = false) ∨
      ∃ text, reader.valid = true ∧ reader.pos + oscPad4 (text.length + 1) ≤ reader.data.length ∧
        text.length < reader.data.length - reader.pos ∧
        reader.readStr =
          (some text, { reader with pos := reader.pos + oscPad4 (text.length + 1) }) := by
  unfold OscReader.readStr
  by_cases valid : reader.valid = true
  · rw [if_pos valid]
    dsimp only
    by_cases unterminated :
        (cString (reader.data.drop reader.pos)).length = (reader.data.drop reader.pos).length
    · rw [if_pos unterminated]
      exact Or.inl ⟨rfl, rfl, rfl, rfl⟩
    · rw [if_neg unterminated]
      by_cases beyond : reader.pos + oscPad4 ((cString (reader.data.drop reader.pos)).length + 1) >
          reader.data.length
      · rw [if_pos beyond]
        exact Or.inl ⟨rfl, rfl, rfl, rfl⟩
      · rw [if_neg beyond]
        have shorter := cString_length_le (reader.data.drop reader.pos)
        rw [List.length_drop] at shorter unterminated
        exact Or.inr ⟨_, valid, Nat.le_of_not_gt beyond, by omega, rfl⟩
  · rw [if_neg valid]
    exact Or.inl ⟨rfl, rfl, rfl, Bool.eq_false_of_not_eq_true valid⟩

/-- A word either leaves the reader where it is, as invalid, or takes it four bytes on. -/
theorem readInt32_cases (reader : OscReader) :
    (reader.readInt32.2.data = reader.data ∧ reader.readInt32.2.pos = reader.pos ∧
        reader.readInt32.2.valid = false ∧
        ¬(reader.valid = true ∧ reader.pos + 4 ≤ reader.data.length)) ∨
      (reader.valid = true ∧ reader.pos + 4 ≤ reader.data.length ∧
        reader.readInt32 =
          ((ofBigEndian32 ((reader.data.drop reader.pos).take 4)).toInt32,
            { reader with pos := reader.pos + 4 })) := by
  unfold OscReader.readInt32 OscReader.readBytes
  by_cases valid : reader.valid = true
  · rw [if_pos valid]
    by_cases beyond : reader.pos + 4 > reader.data.length
    · rw [if_pos beyond]
      exact Or.inl ⟨rfl, rfl, rfl, fun room => Nat.not_le_of_gt beyond room.2⟩
    · rw [if_neg beyond]
      exact Or.inr ⟨valid, Nat.le_of_not_gt beyond, rfl⟩
  · rw [if_neg valid]
    exact Or.inl ⟨rfl, rfl, Bool.eq_false_of_not_eq_true valid, fun room => valid room.1⟩

/-- A word is negative as a signed one exactly from 2^31 on. -/
theorem toInt32_neg_iff (word : UInt32) : word.toInt32.toInt < 0 ↔ 2 ^ 31 ≤ word.toNat := by
  have sign := BitVec.toInt_neg_iff (x := word.toBitVec)
  have same : word.toInt32.toInt = word.toBitVec.toInt := rfl
  rw [same, sign, UInt32.toNat_toBitVec]
  omega

/-- A blob leaves the reader before or after its length word, without a pointer, or takes it
past the padding of data that lies in the buffer, or behind the end if the padding is cut. -/
theorem readBlob_cases (reader : OscReader) :
    (reader.readBlob.1 = none ∧ reader.readBlob.2.data = reader.data ∧
        reader.readBlob.2.valid = false ∧ ¬reader.CutsPadding .blob ∧
        (reader.readBlob.2.pos = reader.pos ∨
          reader.valid = true ∧ reader.readBlob.2.pos = reader.pos + 4 ∧
            reader.pos + 4 ≤ reader.data.length)) ∨
      (reader.CutsPadding .blob ∧ reader.data.length < reader.readBlob.2.pos) ∨
      (¬reader.CutsPadding .blob ∧ reader.valid = true ∧ reader.readInt32.2.pos = reader.pos + 4 ∧
        reader.pos + 4 + oscPad4 reader.statedSize ≤ reader.data.length ∧
        reader.pos + 4 + reader.statedSize ≤ reader.data.length ∧
        reader.readBlob =
          (some ((reader.data.drop (reader.pos + 4)).take reader.statedSize),
            { reader with pos := reader.pos + 4 + oscPad4 reader.statedSize })) := by
  have sign := toInt32_neg_iff (ofBigEndian32 ((reader.data.drop reader.pos).take 4))
  unfold OscReader.readBlob OscReader.CutsPadding
  rcases readInt32_cases reader with ⟨data, pos, valid, short⟩ | ⟨valid, room, read⟩
  · rcases word : reader.readInt32 with ⟨raw, after⟩
    rw [word] at data pos valid
    have broken : ¬(after.valid = true ∧ ¬raw.toInt < 0) := fun both =>
      absurd both.1 (by rw [valid]; exact Bool.false_ne_true)
    simp only [if_neg broken]
    refine Or.inl ⟨trivial, data, rfl, ?_, Or.inl pos⟩
    rintro ⟨-, valid, -, room, -⟩
    exact short ⟨valid, by omega⟩
  · rw [read]
    dsimp only
    by_cases negative : (ofBigEndian32 ((reader.data.drop reader.pos).take 4)).toInt32.toInt < 0
    · rw [if_neg fun both => both.2 negative]
      refine Or.inl ⟨rfl, rfl, rfl, ?_, Or.inr ⟨valid, rfl, room⟩⟩
      rintro ⟨-, -, small, -, -⟩
      exact absurd (sign.mp negative) (Nat.not_le_of_lt small)
    · rw [if_pos ⟨valid, negative⟩]
      have small : reader.statedSize < 2 ^ 31 := by
        have large := mt sign.mpr negative
        exact Nat.lt_of_not_le large
      have size : (ofBigEndian32 ((reader.data.drop reader.pos).take 4)).toInt32.toUInt32.toNat =
          reader.statedSize := rfl
      rw [size]
      by_cases beyond : reader.pos + 4 + reader.statedSize > reader.data.length
      · rw [if_pos beyond]
        refine Or.inl ⟨rfl, rfl, rfl, ?_, Or.inr ⟨valid, rfl, room⟩⟩
        rintro ⟨-, -, -, fits, -⟩
        exact absurd fits (Nat.not_le_of_gt beyond)
      · rw [if_neg beyond]
        by_cases cut : reader.pos + 4 + oscPad4 reader.statedSize > reader.data.length
        · rw [if_pos cut]
          exact Or.inr (Or.inl ⟨⟨rfl, valid, small, Nat.le_of_not_gt beyond, cut⟩, cut⟩)
        · rw [if_neg cut]
          refine Or.inr (Or.inr ⟨?_, valid, rfl, Nat.le_of_not_gt cut, Nat.le_of_not_gt beyond, rfl⟩)
          rintro ⟨-, -, -, -, behind⟩
          exact cut behind

/-! ### Runs of calls -/

theorem call_data (reader : OscReader) (call : ReadCall) : (reader.call call).data = reader.data := by
  have word : reader.readInt32.2.data = reader.data := by
    rcases readInt32_cases reader with unread | read
    · exact unread.1
    · rw [read.2.2]
  cases call with
  | str =>
    rcases readStr_cases reader with unread | ⟨text, -, -, -, read⟩
    · exact unread.2.1
    · show reader.readStr.2.data = reader.data
      rw [read]
  | int32 => exact word
  | float => exact word
  | blob =>
    show reader.readBlob.2.data = reader.data
    unfold OscReader.readBlob
    dsimp only
    split_ifs <;> exact word

theorem readInt32_keeps (reader : OscReader) (inside : reader.pos ≤ reader.data.length) :
    reader.Keeps .int32 := by
  have stands : reader.readInt32.2.pos ≤ reader.data.length ∧
      (reader.valid = false →
        reader.readInt32.2.valid = false ∧ reader.readInt32.2.pos = reader.pos) := by
    rcases readInt32_cases reader with ⟨-, pos, invalid, -⟩ | ⟨valid, room, read⟩
    · exact ⟨pos ▸ inside, fun _ => ⟨invalid, pos⟩⟩
    · rw [read]
      exact ⟨room, fun invalid => absurd (valid.symm.trans invalid) (by decide)⟩
  exact ⟨stands.1, (fun _ pointed => nomatch pointed), stands.2⟩

theorem readStr_keeps (reader : OscReader) (inside : reader.pos ≤ reader.data.length) :
    reader.Keeps .str := by
  rcases readStr_cases reader with ⟨unread, -, pos, invalid⟩ | ⟨text, valid, room, within, read⟩
  · refine ⟨Nat.le_trans (Nat.le_of_eq pos) inside, fun range pointed => ?_,
      fun _ => ⟨invalid, pos⟩⟩
    rw [OscReader.pointed, unread] at pointed
    exact nomatch pointed
  · refine ⟨?_, fun range pointed => ?_, fun invalid => absurd (valid.symm.trans invalid) (by decide)⟩
    · show reader.readStr.2.pos ≤ reader.data.length
      rw [read]
      exact room
    · rw [OscReader.pointed, read] at pointed
      have start : (reader.pos, text.length + 1) = range := Option.some.inj pointed
      rw [← start]
      show reader.pos + (text.length + 1) ≤ reader.data.length
      omega

/-- Reading a blob keeps to the bounds exactly if it does not cut the padding. -/
theorem readBlob_keeps_iff (reader : OscReader) (inside : reader.pos ≤ reader.data.length) :
    reader.Keeps .blob ↔ ¬reader.CutsPadding .blob := by
  rcases readBlob_cases reader with ⟨unread, -, invalid, whole, pos⟩ | ⟨cut, behind⟩ |
    ⟨whole, valid, word, padded, within, read⟩
  · refine iff_of_true ⟨?_, fun range pointed => ?_, fun broken => ⟨invalid, ?_⟩⟩ whole
    · show reader.readBlob.2.pos ≤ reader.data.length
      rcases pos with same | ⟨-, after, room⟩
      · exact same ▸ inside
      · exact after ▸ room
    · rw [OscReader.pointed, unread] at pointed
      exact nomatch pointed
    · rcases pos with same | ⟨valid, -, -⟩
      · exact same
      · exact absurd (valid.symm.trans broken) (by decide)
  · exact iff_of_false (fun kept => absurd kept.inside (Nat.not_le_of_lt behind))
      fun whole => whole cut
  · refine iff_of_true ⟨?_, fun range pointed => ?_, fun invalid => ?_⟩ whole
    · show reader.readBlob.2.pos ≤ reader.data.length
      rw [read]
      exact padded
    · rw [OscReader.pointed, read, word] at pointed
      have start := Option.some.inj pointed
      rw [← start]
      show reader.pos + 4 +
        ((reader.data.drop (reader.pos + 4)).take reader.statedSize).length ≤ reader.data.length
      have taken := List.length_take_le reader.statedSize (reader.data.drop (reader.pos + 4))
      omega
    · exact absurd (valid.symm.trans invalid) (by decide)

theorem keeps_iff (reader : OscReader) (call : ReadCall)
    (inside : reader.pos ≤ reader.data.length) :
    reader.Keeps call ↔ ¬reader.CutsPadding call := by
  cases call with
  | str => exact iff_of_true (readStr_keeps reader inside) fun cut => nomatch cut.1
  | int32 => exact iff_of_true (readInt32_keeps reader inside) fun cut => nomatch cut.1
  | float =>
    have word := readInt32_keeps reader inside
    exact iff_of_true ⟨word.inside, word.pointed, word.staysInvalid⟩ fun cut => nomatch cut.1
  | blob => exact readBlob_keeps_iff reader inside

theorem inBounds_iff (reader : OscReader) (calls : List ReadCall)
    (inside : reader.pos ≤ reader.data.length) :
    reader.InBounds calls ↔ reader.NeverCuts calls := by
  induction calls generalizing reader with
  | nil => exact Iff.rfl
  | cons call calls inductionHypothesis =>
    have kept := keeps_iff reader call inside
    have next : reader.Keeps call →
        ((reader.call call).InBounds calls ↔ (reader.call call).NeverCuts calls) := by
      intro keeps
      refine inductionHypothesis _ ?_
      rw [call_data]
      exact keeps.inside
    exact ⟨fun ⟨keeps, rest⟩ => ⟨kept.mp keeps, (next keeps).mp rest⟩,
      fun ⟨whole, rest⟩ => ⟨kept.mpr whole, (next (kept.mpr whole)).mpr rest⟩⟩

/-- A reader keeps to its buffer exactly in the runs that read no blob with its padding cut. -/
theorem reader_inBounds_iff (data : List UInt8) (calls : List ReadCall) :
    (OscReader.ofBytes data).InBounds calls ↔ (OscReader.ofBytes data).NeverCuts calls :=
  inBounds_iff _ calls (Nat.zero_le _)

/-- A blob of one byte without its padding leaves the position behind the end. -/
theorem cut_padding_leaves_buffer :
    ¬(OscReader.ofBytes [0, 0, 0, 1, 65]).InBounds [.blob] :=
  fun bounds => absurd bounds.1.inside (by decide)

end PairDriver.Osc
