/-
This file is a library about the part of CBOR that consists of text strings and maps
of definite length, and about readers of it.

A document is described by the counts of items that are still to come in every open
map, with every permitted form of a length. A reader conforms if on every document
its operations give the items in their order. The file ends with a reader that does.
-/

import Mathlib

namespace PairDriver.Cbor

/-! ### Text -/

/-- The UTF-8 bytes of a text. -/
def utf8 (text : String) : List UInt8 :=
  text.toByteArray.data.toList

def fromUtf8 (bytes : List UInt8) : Option String :=
  String.fromUTF8? ⟨bytes.toArray⟩

theorem fromUtf8_utf8 (text : String) : fromUtf8 (utf8 text) = some text := by
  rw [fromUtf8, utf8, Array.toArray_toList, String.fromUTF8?]
  exact dif_pos text.isValidUTF8

/-! ### Heads -/

/-- The bytes of a number, most significant first. -/
def bigEndian : Nat → Nat → List UInt8
  | 0, _ => []
  | size + 1, value => bigEndian size (value / 256) ++ [UInt8.ofNat (value % 256)]

def ofBigEndian (bytes : List UInt8) : Nat :=
  bytes.foldl (fun value byte => 256 * value + byte.toNat) 0

theorem length_bigEndian (size value : Nat) : (bigEndian size value).length = size := by
  induction size generalizing value with
  | zero => rfl
  | succ size inductionHypothesis =>
    rw [bigEndian, List.length_append, inductionHypothesis, List.length_singleton]

theorem ofBigEndian_bigEndian {size value : Nat} (fits : value < 256 ^ size) :
    ofBigEndian (bigEndian size value) = value := by
  induction size generalizing value with
  | zero => exact (Nat.lt_one_iff.mp fits).symm
  | succ size inductionHypothesis =>
    have rest : value / 256 < 256 ^ size := Nat.div_lt_of_lt_mul (by rwa [← pow_succ'])
    have last : (UInt8.ofNat (value % 256)).toNat = value % 256 := by
      rw [UInt8.toNat_ofNat']
      omega
    have whole : ofBigEndian (bigEndian size (value / 256) ++ [UInt8.ofNat (value % 256)]) =
        256 * ofBigEndian (bigEndian size (value / 256)) +
          (UInt8.ofNat (value % 256)).toNat :=
      List.foldl_concat _ _ _ _
    rw [bigEndian, whole, inductionHypothesis rest, last]
    exact Nat.div_add_mod value 256

/-- The major types of text strings and of maps. -/
def textMajor : Nat := 3
def mapMajor : Nat := 5

/-- The first bytes of an item: its major type and its argument, in any permitted form. -/
inductive Head (major : Nat) : Nat → List UInt8 → Prop
  | short {argument : Nat} (small : argument < 24) :
      Head major argument [UInt8.ofNat (32 * major + argument)]
  | long {argument width : Nat} (permitted : width < 4) (fits : argument < 256 ^ 2 ^ width) :
      Head major argument
        (UInt8.ofNat (32 * major + (24 + width)) :: bigEndian (2 ^ width) argument)

/-! ### Documents -/

/-- The bytes give as many items as are still to come in every open map, innermost first. -/
inductive Finishes : List Nat → List UInt8 → Prop
  | done : Finishes [0] []
  | text {count : Nat} {counts : List Nat} {head rest : List UInt8} (text : String)
      (opens : Head textMajor (utf8 text).length head) (later : Finishes (count :: counts) rest) :
      Finishes ((count + 1) :: counts) (head ++ (utf8 text ++ rest))
  | map {pairs count : Nat} {counts : List Nat} {head rest : List UInt8}
      (opens : Head mapMajor pairs head)
      (later : Finishes (2 * pairs :: (count + 1) :: counts) rest) :
      Finishes ((count + 1) :: counts) (head ++ rest)
  | close {count : Nat} {counts : List Nat} {rest : List UInt8}
      (later : Finishes (count :: counts) rest) : Finishes (0 :: (count + 1) :: counts) rest

/-- One item and nothing after it. -/
def Document (data : List UInt8) : Prop :=
  Finishes [1] data

/-! ### Readers -/

/-- What a reader finds next. -/
inductive ReaderState where
  | textString
  | startMap
  | endMap
  | finished
deriving DecidableEq

/-- A reader with its operations; one that fails gives nothing. -/
structure Reader where
  State : Type
  create : List UInt8 → State
  peekState : State → Option ReaderState
  readStartMap : State → Option State
  readTextString : State → Option (String × State)
  skipValue : State → Option State
  readEndMap : State → Option State

/-- The reader gives the items of a document in their order, if `At` tells where it stands: the
counts that are still to come, and the bytes. -/
structure Reader.ConformsAt (reader : Reader)
    (At : reader.State → List Nat → List UInt8 → Prop) : Prop where
  create : ∀ data, Document data → At (reader.create data) [1] data
  peekText : ∀ state count counts head text rest, Head textMajor (utf8 text).length head →
    Finishes (count :: counts) rest →
      At state ((count + 1) :: counts) (head ++ (utf8 text ++ rest)) →
        reader.peekState state = some .textString
  peekEnd : ∀ state count counts rest, Finishes (count :: counts) rest →
    At state (0 :: (count + 1) :: counts) rest → reader.peekState state = some .endMap
  readStartMap : ∀ state pairs count counts head rest, Head mapMajor pairs head →
    Finishes (2 * pairs :: (count + 1) :: counts) rest →
      At state ((count + 1) :: counts) (head ++ rest) →
        ∃ next, reader.readStartMap state = some next ∧
          At next (2 * pairs :: (count + 1) :: counts) rest
  readTextString : ∀ state count counts head text rest, Head textMajor (utf8 text).length head →
    Finishes (count :: counts) rest →
      At state ((count + 1) :: counts) (head ++ (utf8 text ++ rest)) →
        ∃ next, reader.readTextString state = some (text, next) ∧ At next (count :: counts) rest
  readEndMap : ∀ state count counts rest, Finishes (count :: counts) rest →
    At state (0 :: (count + 1) :: counts) rest →
      ∃ next, reader.readEndMap state = some next ∧ At next (count :: counts) rest

def Reader.Conforms (reader : Reader) : Prop :=
  ∃ At, reader.ConformsAt At

/-! ### A reader that conforms -/

/-- The major type, the argument and what follows. -/
def decodeHead : List UInt8 → Option (Nat × Nat × List UInt8)
  | [] => none
  | first :: rest =>
    let major := first.toNat / 32
    let info := first.toNat % 32
    if info < 24 then some (major, info, rest)
    else if info < 28 ∧ 2 ^ (info - 24) ≤ rest.length then
      some (major, ofBigEndian (rest.take (2 ^ (info - 24))), rest.drop (2 ^ (info - 24)))
    else none

def peekPlain : List Nat × List UInt8 → Option ReaderState
  | (0 :: _ :: _, _) => some .endMap
  | ((_ + 1) :: _, bytes) =>
    (decodeHead bytes).bind fun head =>
      if head.1 = textMajor then some .textString
      else if head.1 = mapMajor then some .startMap else none
  | _ => some .finished

def startMapPlain : List Nat × List UInt8 → Option (List Nat × List UInt8)
  | ((count + 1) :: counts, bytes) =>
    (decodeHead bytes).bind fun head =>
      if head.1 = mapMajor then some (2 * head.2.1 :: (count + 1) :: counts, head.2.2) else none
  | _ => none

def textPlain : List Nat × List UInt8 → Option (String × List Nat × List UInt8)
  | ((count + 1) :: counts, bytes) =>
    (decodeHead bytes).bind fun head =>
      if head.1 = textMajor ∧ head.2.1 ≤ head.2.2.length then
        (fromUtf8 (head.2.2.take head.2.1)).map fun text =>
          (text, count :: counts, head.2.2.drop head.2.1)
      else none
  | _ => none

def endMapPlain : List Nat × List UInt8 → Option (List Nat × List UInt8)
  | (0 :: (count + 1) :: counts, bytes) => some (count :: counts, bytes)
  | _ => none

/-- The bytes after so many items, in at most `fuel` heads. -/
def skipItems : Nat → Nat → List UInt8 → Option (List UInt8)
  | _, 0, bytes => some bytes
  | 0, _ + 1, _ => none
  | fuel + 1, items + 1, bytes =>
    (decodeHead bytes).bind fun head =>
      if head.1 = textMajor then skipItems fuel items (head.2.2.drop head.2.1)
      else if head.1 = mapMajor then skipItems fuel (items + 2 * head.2.1) head.2.2
      else none

def skipPlain : List Nat × List UInt8 → Option (List Nat × List UInt8)
  | ((count + 1) :: counts, bytes) =>
    (skipItems bytes.length 1 bytes).map fun rest => (count :: counts, rest)
  | _ => none

/-- The reader that keeps the counts that are still to come, and the bytes. -/
def plainReader : Reader where
  State := List Nat × List UInt8
  create data := ([1], data)
  peekState := peekPlain
  readStartMap := startMapPlain
  readTextString := textPlain
  skipValue := skipPlain
  readEndMap := endMapPlain

theorem decodeHead_append {major argument : Nat} {head : List UInt8} (small : major < 8)
    (opens : Head major argument head) (rest : List UInt8) :
    decodeHead (head ++ rest) = some (major, argument, rest) := by
  cases opens with
  | short shortArgument =>
    have first : (UInt8.ofNat (32 * major + argument)).toNat = 32 * major + argument := by
      rw [UInt8.toNat_ofNat']
      omega
    have major' : (32 * major + argument) / 32 = major := by omega
    have info : (32 * major + argument) % 32 = argument := by omega
    simp only [List.singleton_append, decodeHead, first, major', info, if_pos shortArgument]
  | @long width permitted fits =>
    have first : (UInt8.ofNat (32 * major + (24 + width))).toNat = 32 * major + (24 + width) := by
      rw [UInt8.toNat_ofNat']
      omega
    have major' : (32 * major + (24 + width)) / 32 = major := by omega
    have info : (32 * major + (24 + width)) % 32 = 24 + width := by omega
    have size : (bigEndian (2 ^ width) argument).length = 2 ^ width := length_bigEndian _ _
    have inside : 24 + width < 28 ∧
        2 ^ width ≤ (bigEndian (2 ^ width) argument ++ rest).length := by
      rw [List.length_append, size]
      omega
    simp only [List.cons_append, decodeHead, first, major', info, Nat.add_sub_cancel_left]
    rw [if_neg (by omega), if_pos inside, List.take_left' size, List.drop_left' size,
      ofBigEndian_bigEndian fits]

section Plain

variable {pairs count : Nat} {counts : List Nat} {head : List UInt8} {text : String}

theorem peekPlain_text (count : Nat) (counts : List Nat)
    (opens : Head textMajor (utf8 text).length head) (rest : List UInt8) :
    peekPlain ((count + 1) :: counts, head ++ (utf8 text ++ rest)) = some .textString := by
  rw [peekPlain, decodeHead_append (by decide) opens]
  rfl

theorem startMapPlain_map (opens : Head mapMajor pairs head) (rest : List UInt8) :
    startMapPlain ((count + 1) :: counts, head ++ rest) =
      some (2 * pairs :: (count + 1) :: counts, rest) := by
  rw [startMapPlain, decodeHead_append (by decide) opens]
  rfl

theorem textPlain_text (opens : Head textMajor (utf8 text).length head) (rest : List UInt8) :
    textPlain ((count + 1) :: counts, head ++ (utf8 text ++ rest)) =
      some (text, count :: counts, rest) := by
  have inside : (utf8 text).length ≤ (utf8 text ++ rest).length := by
    rw [List.length_append]
    exact Nat.le_add_right _ _
  rw [textPlain, decodeHead_append (by decide) opens, Option.bind_some, if_pos ⟨rfl, inside⟩,
    List.take_left, List.drop_left, fromUtf8_utf8]
  rfl

end Plain

theorem plainReader_conforms : plainReader.Conforms := by
  refine ⟨fun state counts bytes => state = (counts, bytes), ?_, ?_, ?_, ?_, ?_, ?_⟩
  · exact fun data _ => rfl
  · rintro _ count counts head text rest opens _ rfl
    exact peekPlain_text count counts opens rest
  · rintro _ count counts rest _ rfl
    rfl
  · rintro _ pairs count counts head rest opens _ rfl
    exact ⟨_, startMapPlain_map opens rest, rfl⟩
  · rintro _ count counts head text rest opens _ rfl
    exact ⟨_, textPlain_text opens rest, rfl⟩
  · rintro _ count counts rest _ rfl
    exact ⟨_, rfl, rfl⟩

end PairDriver.Cbor
