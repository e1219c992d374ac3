/-
This file collects the byte-level vocabulary the wire formats share: ASCII
literals, NUL-terminated strings, zero padding to a multiple of four and the
little-endian length word. Nothing here is about one format; the lemmas are the
lengths and the round trips the format proofs rewrite with.
-/

import Mathlib

namespace PairDriver

instance lawfulBEqBytes : LawfulBEq (List UInt8) := inferInstance

instance lawfulBEqPaths : LawfulBEq (List (List UInt8)) := inferInstance

/-! ### Literals and C strings -/

/-- The bytes of an ASCII literal. -/
def ascii (text : String) : List UInt8 :=
  text.toList.map fun character => UInt8.ofNat character.toNat

/-- What `strlen` and `c_str` see of a byte string: everything before the first NUL. -/
def cString (text : List UInt8) : List UInt8 :=
  text.takeWhile (· ≠ 0)

theorem cString_length_le (text : List UInt8) : (cString text).length ≤ text.length :=
  (List.takeWhile_sublist _).length_le

theorem cString_plain_append (text rest : List UInt8) (plain : 0 ∉ text) :
    cString (text ++ rest) = text ++ cString rest := by
  refine List.takeWhile_append_of_pos fun byte member => ?_
  exact decide_eq_true fun zero => plain (zero ▸ member)

theorem cString_eq_nil (text : List UInt8) (byte : UInt8) :
    cString (byte :: text) = [] ↔ byte = 0 := by
  by_cases zero : byte = 0
  · rw [cString, List.takeWhile_cons_of_neg (by simpa using zero)]
    exact iff_of_true rfl zero
  · rw [cString, List.takeWhile_cons_of_pos (by simpa using zero)]
    exact iff_of_false (List.cons_ne_nil _ _) zero

theorem cString_append (text rest : List UInt8) (plain : 0 ∉ text) :
    cString (text ++ 0 :: rest) = text := by
  rw [cString_plain_append text _ plain, (cString_eq_nil rest 0).mpr rfl, List.append_nil]

theorem cString_plain (text : List UInt8) (plain : 0 ∉ text) : cString text = text := by
  refine List.takeWhile_eq_self_iff.mpr fun byte member => ?_
  exact decide_eq_true fun zero => plain (zero ▸ member)

theorem not_mem_cString (text : List UInt8) : 0 ∉ cString text := by
  intro member
  have kept : (0 : UInt8) ∈ text.takeWhile (· ≠ 0) := member
  exact absurd (List.mem_takeWhile_imp kept) (by decide)

/-! ### Padding to four bytes -/

/-- The next multiple of four. -/
def roundUp4 (size : Nat) : Nat :=
  (size + 3) / 4 * 4

theorem le_roundUp4 (size : Nat) : size ≤ roundUp4 size := by
  unfold roundUp4
  omega

theorem roundUp4_le (size bound : Nat) (small : size ≤ 4 * bound) : roundUp4 size ≤ 4 * bound := by
  unfold roundUp4
  omega

/-- Clearing the two low bits of a 32-bit value rounds it down to a multiple of four. -/
theorem and_mask4 (value : Nat) (fits : value < 2 ^ 32) :
    value &&& 0xFFFFFFFC = value / 4 * 4 := by
  have mask : (0xFFFFFFFC : Nat) = (2 ^ 30 - 1) * 2 ^ 2 := by decide
  have four : value / 4 * 4 = value / 2 ^ 2 * 2 ^ 2 := rfl
  rw [mask, four]
  refine Nat.eq_of_testBit_eq fun index => ?_
  rw [Nat.testBit_and, Nat.testBit_mul_two_pow, Nat.testBit_mul_two_pow,
    Nat.testBit_two_pow_sub_one, Nat.testBit_div_two_pow]
  by_cases low : 2 ≤ index
  · by_cases high : index - 2 < 30
    · simp [low, high, Nat.sub_add_cancel low]
    · have clear : value.testBit index = false :=
        Nat.testBit_lt_two_pow (Nat.lt_of_lt_of_le fits (Nat.pow_le_pow_right (by decide) (by omega)))
      simp [low, high, Nat.sub_add_cancel low, clear]
  · simp [low]

/-! ### The little-endian length word -/

/-- The four bytes of a 32-bit word, least significant first. -/
def littleEndian32 (value : Nat) : List UInt8 :=
  [UInt8.ofNat (value % 256), UInt8.ofNat (value / 256 % 256),
    UInt8.ofNat (value / 256 / 256 % 256), UInt8.ofNat (value / 256 / 256 / 256 % 256)]

/-- The word four little-endian bytes spell. -/
def ofLittleEndian32 : List UInt8 → Nat
  | [first, second, third, fourth] =>
      first.toNat + second.toNat * 256 + third.toNat * 256 * 256 + fourth.toNat * 256 * 256 * 256
  | _ => 0

theorem littleEndian32_length (value : Nat) : (littleEndian32 value).length = 4 := rfl

/-- A 32-bit length survives the trip through its four bytes. -/
theorem ofLittleEndian32_littleEndian32 (value : Nat) (fits : value < 2 ^ 32) :
    ofLittleEndian32 (littleEndian32 value) = value := by
  simp only [littleEndian32, ofLittleEndian32, UInt8.toNat_ofNat']
  omega

end PairDriver
