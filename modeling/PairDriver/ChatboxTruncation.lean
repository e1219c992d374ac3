/-
This file follows `TruncateToVrchatLimit` through the characters of its text. A cut at
whitespace never splits a character, because only the first byte of a character is below
`0x80`. The ellipsis is appended after the cut, so the limit of 144 bytes is kept exactly if
the text is short or its last whitespace up to byte 144 leaves room for three bytes more.
-/

import PairDriver.RouterPublisher

namespace PairDriver.PubPipe

/-! ### UTF-8 -/

/-- The bytes are the encoding of some characters. -/
def IsUtf8 (bytes : List UInt8) : Prop :=
  ∃ characters : List Char, characters.flatMap String.utf8EncodeChar = bytes

theorem isUtf8_append {first second : List UInt8} (firstValid : IsUtf8 first)
    (secondValid : IsUtf8 second) : IsUtf8 (first ++ second) := by
  obtain ⟨before, rfl⟩ := firstValid
  obtain ⟨after, rfl⟩ := secondValid
  exact ⟨before ++ after, List.flatMap_append⟩

theorem continuation_ge (low : Nat) : (0x80 : UInt8) ≤ UInt8.ofNat (low % 0x40 + 0x80) := by
  have small : low % 0x40 < 0x40 := Nat.mod_lt _ (by decide)
  rw [UInt8.le_iff_toNat_le, UInt8.toNat_ofNat']
  show 128 ≤ _
  omega

/-- A character is encoded by a first byte and continuation bytes. -/
theorem utf8EncodeChar_shape (character : Char) :
    ∃ first later, String.utf8EncodeChar character = first :: later ∧
      ∀ byte ∈ later, (0x80 : UInt8) ≤ byte := by
  unfold String.utf8EncodeChar
  dsimp only
  by_cases one : character.val.toNat ≤ 0x7f
  · rw [if_pos one]
    exact ⟨_, _, rfl, List.forall_mem_nil _⟩
  rw [if_neg one]
  by_cases two : character.val.toNat ≤ 0x7ff
  · rw [if_pos two]
    exact ⟨_, _, rfl, List.forall_mem_singleton.mpr (continuation_ge _)⟩
  rw [if_neg two]
  by_cases three : character.val.toNat ≤ 0xffff
  · rw [if_pos three]
    exact ⟨_, _, rfl, List.forall_mem_cons.mpr ⟨continuation_ge _,
      List.forall_mem_singleton.mpr (continuation_ge _)⟩⟩
  · rw [if_neg three]
    exact ⟨_, _, rfl, List.forall_mem_cons.mpr ⟨continuation_ge _, List.forall_mem_cons.mpr
      ⟨continuation_ge _, List.forall_mem_singleton.mpr (continuation_ge _)⟩⟩⟩

/-- A cut before a byte below `0x80` falls between two characters. -/
theorem isUtf8_take_of_lt (characters : List Char) (cut : Nat) {byte : UInt8}
    (found : (characters.flatMap String.utf8EncodeChar)[cut]? = some byte) (low : byte < 0x80) :
    IsUtf8 ((characters.flatMap String.utf8EncodeChar).take cut) := by
  induction characters generalizing cut with
  | nil => exact ⟨[], List.take_nil.symm⟩
  | cons character characters inductionHypothesis =>
    obtain ⟨first, later, shape, continuation⟩ := utf8EncodeChar_shape character
    rw [List.flatMap_cons] at found ⊢
    by_cases inside : cut < (String.utf8EncodeChar character).length
    · cases cut with
      | zero => exact ⟨[], rfl⟩
      | succ place =>
        rw [List.getElem?_append_left inside, shape, List.getElem?_cons_succ] at found
        have high := continuation byte (List.mem_of_getElem? found)
        exact absurd low (UInt8.not_lt.mpr high)
    · have past := Nat.le_of_not_lt inside
      rw [List.getElem?_append_right past] at found
      rw [List.take_append, List.take_of_length_le past]
      exact isUtf8_append ⟨[character], List.flatMap_singleton _ _⟩ (inductionHypothesis _ found)

/-! ### The scan -/

/-- The scan stops at the last whitespace up to its start, or at zero. -/
theorem whitespaceCut_spec (text : List UInt8) (start : Nat) :
    whitespaceCut text start ≤ start ∧
    (whitespaceCut text start ≠ 0 →
      isWhitespace (text.getD (whitespaceCut text start) 0) = true) ∧
    ∀ later, whitespaceCut text start < later → later ≤ start →
      isWhitespace (text.getD later 0) = false := by
  induction start with
  | zero =>
    exact ⟨Nat.le_refl 0, fun found => absurd rfl found,
      fun later after within => absurd (lt_of_lt_of_le after within) (lt_irrefl _)⟩
  | succ start inductionHypothesis =>
    by_cases blank : isWhitespace (text.getD (start + 1) 0) = true
    · rw [whitespaceCut, if_pos blank]
      exact ⟨Nat.le_refl _, fun _ => blank,
        fun later after within => absurd (lt_of_lt_of_le after within) (lt_irrefl _)⟩
    · rw [whitespaceCut, if_neg blank]
      obtain ⟨below, atBlank, none⟩ := inductionHypothesis
      refine ⟨Nat.le_succ_of_le below, atBlank, fun later after within => ?_⟩
      rcases Nat.lt_succ_iff_lt_or_eq.mp (Nat.lt_succ_of_le within) with earlier | last
      · exact none later after (Nat.le_of_lt_succ earlier)
      · rw [last]
        exact Bool.eq_false_iff.mpr blank

/-- The scan finds a place after which there is no whitespace. -/
theorem whitespaceCut_eq {text : List UInt8} {start cut : Nat} (within : cut ≤ start)
    (blank : isWhitespace (text.getD cut 0) = true) (positive : 0 < cut)
    (last : ∀ later, cut < later → later ≤ start → isWhitespace (text.getD later 0) = false) :
    whitespaceCut text start = cut := by
  obtain ⟨below, atBlank, none⟩ := whitespaceCut_spec text start
  refine le_antisymm (Nat.le_of_not_lt fun after => ?_) (Nat.le_of_not_lt fun after => ?_)
  · have found := atBlank (Nat.ne_of_gt (lt_trans positive after))
    rw [last _ after below] at found
    cases found
  · rw [none cut after within] at blank
    cases blank

theorem lt_of_isWhitespace {byte : UInt8} (blank : isWhitespace byte = true) : byte < 0x80 := by
  unfold isWhitespace at blank
  rcases Bool.or_eq_true_iff.mp blank with earlier | newline
  · rcases Bool.or_eq_true_iff.mp earlier with earlier | carriageReturn
    · rcases Bool.or_eq_true_iff.mp earlier with space | tab
      · rw [beq_iff_eq.mp space]
        decide
      · rw [beq_iff_eq.mp tab]
        decide
    · rw [beq_iff_eq.mp carriageReturn]
      decide
  · rw [beq_iff_eq.mp newline]
    decide

/-! ### The limit -/

/-- What the truncation is for: valid text of at most `kLimit` bytes, the text itself if it is
that short, and otherwise a prefix with an ellipsis, cut at whitespace if there is any. -/
structure TruncatesWithinLimit (text : List UInt8) : Prop where
  valid : IsUtf8 (truncateToVrchatLimit text)
  within : (truncateToVrchatLimit text).length ≤ kLimit
  short : text.length ≤ kLimit → truncateToVrchatLimit text = text
  long : kLimit < text.length → ∃ cut, truncateToVrchatLimit text = text.take cut ++ ascii "..." ∧
    ((∃ byte ∈ text, isWhitespace byte = true) → isWhitespace (text.getD cut 0) = true)

/-- The last whitespace up to byte `kLimit` comes early enough for the ellipsis. -/
def LeavesRoom (text : List UInt8) : Prop :=
  ∃ cut, 0 < cut ∧ cut + (ascii "...").length ≤ kLimit ∧ isWhitespace (text.getD cut 0) = true ∧
    ∀ later, cut < later → later ≤ kLimit → isWhitespace (text.getD later 0) = false

theorem truncate_short {text : List UInt8} (short : text.length ≤ kLimit) :
    truncateToVrchatLimit text = text :=
  if_pos short

theorem truncate_long {text : List UInt8} (long : ¬text.length ≤ kLimit) :
    truncateToVrchatLimit text =
      text.take (if whitespaceCut text kLimit = 0 then kLimit else whitespaceCut text kLimit) ++
        ascii "..." :=
  if_neg long

/-- A long text that fits after the cut was cut at whitespace that leaves room. -/
theorem leavesRoom_of_within {text : List UInt8} (long : ¬text.length ≤ kLimit)
    (within : (truncateToVrchatLimit text).length ≤ kLimit) : LeavesRoom text := by
  obtain ⟨below, atBlank, none⟩ := whitespaceCut_spec text kLimit
  have longer := Nat.lt_of_not_le long
  rw [truncate_long long, List.length_append, List.length_take] at within
  by_cases missing : whitespaceCut text kLimit = 0
  · rw [if_pos missing, min_eq_left longer.le] at within
    exact absurd within (by decide)
  · rw [if_neg missing, min_eq_left (le_trans below longer.le)] at within
    exact ⟨whitespaceCut text kLimit, Nat.pos_of_ne_zero missing, within, atBlank missing, none⟩

/-- A long text whose last whitespace leaves room is cut there. -/
theorem truncate_of_leavesRoom {text : List UInt8} (valid : IsUtf8 text)
    (long : ¬text.length ≤ kLimit) (room : LeavesRoom text) : TruncatesWithinLimit text := by
  obtain ⟨cut, positive, fits, blank, last⟩ := room
  have longer := Nat.lt_of_not_le long
  have cutWithin : cut ≤ kLimit := le_trans (Nat.le_add_right _ _) fits
  have cutInside : cut < text.length := lt_of_le_of_lt cutWithin longer
  have result : truncateToVrchatLimit text = text.take cut ++ ascii "..." := by
    rw [truncate_long long, whitespaceCut_eq cutWithin blank positive last,
      if_neg (Nat.ne_of_gt positive)]
  refine ⟨?_, ?_, fun short => absurd short long, fun _ => ⟨cut, result, fun _ => blank⟩⟩
  · obtain ⟨characters, rfl⟩ := valid
    rw [result]
    refine isUtf8_append (isUtf8_take_of_lt characters cut (List.getElem?_eq_getElem cutInside)
      (lt_of_isWhitespace ?_)) ⟨['.', '.', '.'], by decide⟩
    rw [← List.getD_eq_getElem _ 0 cutInside]
    exact blank
  · rw [result, List.length_append, List.length_take, min_eq_left cutInside.le]
    exact fits

/-- The truncation keeps its limit exactly for the texts that are short or whose last whitespace
leaves room for the ellipsis. -/
theorem truncates_within_limit_iff (text : List UInt8) (valid : IsUtf8 text) :
    TruncatesWithinLimit text ↔ text.length ≤ kLimit ∨ LeavesRoom text := by
  by_cases short : text.length ≤ kLimit
  · refine iff_of_true ?_ (Or.inl short)
    refine ⟨?_, ?_, truncate_short, fun long => absurd short (Nat.not_le_of_gt long)⟩
    · rw [truncate_short short]
      exact valid
    · rw [truncate_short short]
      exact short
  · refine ⟨fun kept => Or.inr (leavesRoom_of_within short kept.within), ?_⟩
    rintro (fits | room)
    · exact absurd fits short
    · exact truncate_of_leavesRoom valid short room

/-- A hundred characters, a space and a hundred more. -/
def spacedText : List UInt8 :=
  List.replicate 100 0x78 ++ [0x20] ++ List.replicate 100 0x78

theorem truncates_at_space : TruncatesWithinLimit spacedText := by
  have noneLater : ∀ later ≤ kLimit, 100 < later →
      isWhitespace (spacedText.getD later 0) = false := by
    decide +kernel
  refine (truncates_within_limit_iff _ ⟨List.replicate 100 'x' ++ [' '] ++ List.replicate 100 'x',
    by decide +kernel⟩).mpr (Or.inr ⟨100, by decide, by decide, by decide +kernel, ?_⟩)
  exact fun later after within => noneLater later within after

/-- Two hundred characters without whitespace become 147 bytes. -/
theorem hard_cut_exceeds_limit :
    IsUtf8 (List.replicate 200 0x78) ∧
    (truncateToVrchatLimit (List.replicate 200 0x78)).length = 147 ∧
    ¬TruncatesWithinLimit (List.replicate 200 0x78) := by
  have size : (truncateToVrchatLimit (List.replicate 200 0x78)).length = 147 := by
    decide +kernel
  refine ⟨⟨List.replicate 200 'x', by decide +kernel⟩, size, fun kept => ?_⟩
  have within := kept.within
  rw [size] at within
  exact absurd within (by decide)

end PairDriver.PubPipe
