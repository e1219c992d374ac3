/-
This file models how the overlay writes an elevated command: the text of the
script as UTF-16 code units, their bytes, and the base64 text of the bytes, which
powershell.exe reads as the value of -EncodedCommand.

The content here is that the hand-written encoder is the base64 of the UTF-16LE
bytes, for a script of any length and any code units.
-/

import PairDriver.Base64
import PairDriver.PowerShellQuoting

namespace PairDriver.PowerShell

/-! ### The encoder -/

/-- `kBase64`. -/
def kBase64 : List UInt8 :=
  ascii "ABCDEFGHIJKLMNOPQRSTUVWXYZabcdefghijklmnopqrstuvwxyz0123456789+/"

/-- `(wchar_t)kBase64[index]`; behind its characters the literal has its terminator. -/
def base64At (index : UInt32) : UInt16 := (kBase64.getD index.toNat 0).toUInt16

/-- `L'='`. -/
def equalsSign : UInt16 := 0x3D

/-- The bytes of the script. -/
def utf16Bytes (script : Wide) : List UInt8 :=
  script.flatMap fun (ch : UInt16) => [(ch &&& 0xFF).toUInt8, ((ch >>> 8) &&& 0xFF).toUInt8]

/-- The loop over the groups of three bytes, and the bytes left over. -/
def encodeGroups : List UInt8 → Wide
  | first :: second :: third :: rest =>
    let v := (first.toUInt32 <<< 16) ||| (second.toUInt32 <<< 8) ||| third.toUInt32
    base64At ((v >>> 18) &&& 0x3F) :: base64At ((v >>> 12) &&& 0x3F) ::
      base64At ((v >>> 6) &&& 0x3F) :: base64At (v &&& 0x3F) :: encodeGroups rest
  | [first, second] =>
    let v := (first.toUInt32 <<< 16) ||| (second.toUInt32 <<< 8)
    [base64At ((v >>> 18) &&& 0x3F), base64At ((v >>> 12) &&& 0x3F),
      base64At ((v >>> 6) &&& 0x3F), equalsSign]
  | [first] =>
    let v := first.toUInt32 <<< 16
    [base64At ((v >>> 18) &&& 0x3F), base64At ((v >>> 12) &&& 0x3F), equalsSign, equalsSign]
  | [] => []

/-- `EncodePowerShellCommand`. -/
def encodePowerShellCommand (script : Wide) : Wide := encodeGroups (utf16Bytes script)

/-! ### What it encodes -/

/-- The value of a character of the standard alphabet. -/
def base64Value (character : UInt16) : Option (Fin 64) :=
  if 0x41 ≤ character ∧ character ≤ 0x5A then some (Base64.digit (character.toNat - 0x41))
  else if 0x61 ≤ character ∧ character ≤ 0x7A then
    some (Base64.digit (character.toNat - 0x61 + 26))
  else if 0x30 ≤ character ∧ character ≤ 0x39 then
    some (Base64.digit (character.toNat - 0x30 + 52))
  else if character = 0x2B then some (Base64.digit 62)
  else if character = 0x2F then some (Base64.digit 63)
  else none

/-- The standard alphabet, with the characters the source has for the digits. -/
def standardBase64 : Base64 UInt16 where
  symbol digit := base64At (UInt32.ofNat digit.val)
  padding := equalsSign
  value := base64Value
  value_symbol := by decide +kernel
  value_padding := by decide +kernel

/-- A script in UTF-16LE: of each code unit the low byte and then the high byte. -/
def littleEndian (script : Wide) : List UInt8 :=
  script.flatMap fun (unit : UInt16) => [UInt8.ofNat unit.toNat, UInt8.ofNat (unit.toNat / 256)]

theorem utf16Bytes_eq (script : Wide) : utf16Bytes script = littleEndian script := by
  unfold utf16Bytes littleEndian
  congr 1
  funext unit
  have low : (unit &&& 0xFF).toUInt8 = UInt8.ofNat unit.toNat := by
    rw [← UInt8.toNat_inj, UInt16.toNat_toUInt8, UInt16.toNat_and, UInt8.toNat_ofNat']
    show (unit.toNat &&& 255) % 256 = unit.toNat % 256
    rw [Nat.and_two_pow_sub_one_eq_mod unit.toNat 8, Nat.mod_mod]
  have high : ((unit >>> 8) &&& 0xFF).toUInt8 = UInt8.ofNat (unit.toNat / 256) := by
    rw [← UInt8.toNat_inj, UInt16.toNat_toUInt8, UInt16.toNat_and, UInt16.toNat_shiftRight,
      UInt8.toNat_ofNat']
    show (unit.toNat >>> 8 &&& 255) % 256 = unit.toNat / 256 % 256
    rw [Nat.and_two_pow_sub_one_eq_mod _ 8, Nat.mod_mod, Nat.shiftRight_eq_div_pow]
  rw [low, high]

theorem littleEndian_length (script : Wide) : (littleEndian script).length = 2 * script.length := by
  unfold littleEndian
  rw [List.length_flatMap]
  simp [Nat.mul_comm]

theorem littleEndian_injective : Function.Injective littleEndian := by
  intro script
  induction script with
  | nil =>
    intro other same
    cases other with
    | nil => rfl
    | cons unit rest => exact absurd same (by simp [littleEndian])
  | cons unit rest inductionHypothesis =>
    intro other same
    cases other with
    | nil => exact absurd same (by simp [littleEndian])
    | cons unit' rest' =>
      simp only [littleEndian, List.flatMap_cons, List.cons_append, List.nil_append,
        List.cons.injEq] at same
      obtain ⟨low, high, after⟩ := same
      rw [← UInt8.toNat_inj, UInt8.toNat_ofNat', UInt8.toNat_ofNat'] at low high
      have below := unit.toNat_lt
      have below' := unit'.toNat_lt
      have unitSame : unit = unit' := UInt16.toNat_inj.mp (by omega)
      rw [unitSame, inductionHypothesis after]

/-- The digit that the source reads from the six bits above a shift. -/
theorem base64At_shift (v shift : UInt32) (small : shift.toNat < 32) :
    base64At ((v >>> shift) &&& 0x3F) =
      standardBase64.symbol (Base64.digit (v.toNat / 2 ^ shift.toNat)) := by
  have same : (v >>> shift) &&& 0x3F =
      UInt32.ofNat (Base64.digit (v.toNat / 2 ^ shift.toNat)).val := by
    rw [← UInt32.toNat_inj, UInt32.toNat_and, UInt32.toNat_shiftRight, UInt32.toNat_ofNat',
      Nat.mod_eq_of_lt small, Nat.shiftRight_eq_div_pow]
    show v.toNat / 2 ^ shift.toNat &&& 63 = v.toNat / 2 ^ shift.toNat % 64 % 2 ^ 32
    rw [Nat.and_two_pow_sub_one_eq_mod _ 6]
    omega
  rw [same]
  rfl

theorem base64At_low (v : UInt32) :
    base64At (v &&& 0x3F) = standardBase64.symbol (Base64.digit v.toNat) := by
  have unshifted := base64At_shift v 0 (by decide)
  rw [UInt32.shiftRight_zero] at unshifted
  rw [unshifted]
  congr 2
  exact Nat.div_one _

theorem group_toNat (first second third : UInt8) :
    ((first.toUInt32 <<< 16) ||| (second.toUInt32 <<< 8) ||| third.toUInt32).toNat =
      Base64.group first second third := by
  have high := first.toNat_lt
  have middle := second.toNat_lt
  have low := third.toNat_lt
  have shiftedHigh : (first.toUInt32 <<< 16).toNat = first.toNat <<< 16 := by
    rw [UInt32.toNat_shiftLeft]
    show first.toNat <<< 16 % 2 ^ 32 = first.toNat <<< 16
    rw [Nat.shiftLeft_eq]
    omega
  have shiftedMiddle : (second.toUInt32 <<< 8).toNat = second.toNat <<< 8 := by
    rw [UInt32.toNat_shiftLeft]
    show second.toNat <<< 8 % 2 ^ 32 = second.toNat <<< 8
    rw [Nat.shiftLeft_eq]
    omega
  have joined : second.toNat <<< 8 ||| third.toNat = second.toNat * 256 + third.toNat := by
    rw [← Nat.shiftLeft_add_eq_or_of_lt (by omega), Nat.shiftLeft_eq]
  rw [UInt32.toNat_or, UInt32.toNat_or, shiftedHigh, shiftedMiddle, UInt8.toNat_toUInt32,
    Nat.or_assoc, joined, ← Nat.shiftLeft_add_eq_or_of_lt (by omega), Nat.shiftLeft_eq]
  unfold Base64.group
  omega

/-- The source encodes the bytes in base64. -/
theorem encodeGroups_eq (bytes : List UInt8) :
    encodeGroups bytes = standardBase64.encode bytes := by
  induction bytes using Base64.digits.induct with
  | case1 first second third rest inductionHypothesis =>
    rw [Base64.encode_cons, ← group_toNat]
    simp only [encodeGroups, inductionHypothesis]
    rw [base64At_shift _ 18 (by decide), base64At_shift _ 12 (by decide),
      base64At_shift _ 6 (by decide), base64At_low]
    rfl
  | case2 first second =>
    have whole := group_toNat first second 0
    rw [show (0 : UInt8).toUInt32 = 0 from rfl, UInt32.or_zero] at whole
    simp only [encodeGroups]
    rw [base64At_shift _ 18 (by decide), base64At_shift _ 12 (by decide),
      base64At_shift _ 6 (by decide), whole]
    rfl
  | case3 first =>
    have whole := group_toNat first 0 0
    rw [show (0 : UInt8).toUInt32 = 0 from rfl, UInt32.or_zero, UInt32.zero_shiftLeft,
      UInt32.or_zero] at whole
    simp only [encodeGroups]
    rw [base64At_shift _ 18 (by decide), base64At_shift _ 12 (by decide), whole]
    rfl
  | case4 => rfl

theorem base64Value_symbol (digit : Fin 64) :
    (base64Value (standardBase64.symbol digit)).isSome := by
  rw [show base64Value = standardBase64.value from rfl, standardBase64.value_symbol]
  rfl

/-- The encoded command is the base64 text of the script in UTF-16LE: it has the length and the
padding of such a text, it decodes to the bytes of the script, and so no two scripts share it. -/
theorem encodePowerShellCommand_base64 :
    (∀ script : Wide,
      (encodePowerShellCommand script).length = 4 * ((2 * script.length) ⌈/⌉ 3) ∧
      (∃ characters : Wide, (∀ character ∈ characters, (base64Value character).isSome) ∧
        encodePowerShellCommand script = characters ++
          List.replicate (Base64.paddingLength (2 * script.length)) equalsSign) ∧
      standardBase64.decode (encodePowerShellCommand script) = some (littleEndian script)) ∧
    Function.Injective encodePowerShellCommand := by
  have encoded : ∀ script, encodePowerShellCommand script =
      standardBase64.encode (littleEndian script) := by
    intro script
    unfold encodePowerShellCommand
    rw [encodeGroups_eq, utf16Bytes_eq]
  have decoded : ∀ script, standardBase64.decode (encodePowerShellCommand script) =
      some (littleEndian script) := by
    intro script
    rw [encoded, Base64.decode_encode]
  refine ⟨fun script => ⟨?_, ?_, decoded script⟩, ?_⟩
  · rw [encoded, Base64.length_encode, littleEndian_length]
  · refine ⟨(Base64.digits (littleEndian script)).map standardBase64.symbol, ?_, ?_⟩
    · intro character member
      obtain ⟨digit, -, rfl⟩ := List.mem_map.mp member
      exact base64Value_symbol digit
    · rw [encoded, Base64.encode, littleEndian_length]
      rfl
  · intro script other same
    have read := decoded script
    rw [same, decoded other] at read
    exact littleEndian_injective (Option.some.inj read.symm)

end PairDriver.PowerShell
