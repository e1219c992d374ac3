/-
This file is a library for base64 texts: an alphabet of sixty-four symbols and a
padding symbol, the encoder that spells three bytes with four symbols, and the
strict decoder, which refuses a text whose padding does not close its last group
or hides bits that are not zero.

The content here is that the decoder reads back what the encoder wrote, and the
length of the encoded text.
-/

import Mathlib.Algebra.Order.Floor.Div
import Mathlib.Data.List.Basic

namespace PairDriver

/-! ### Alphabets -/

/-- Sixty-four symbols that can be told from one another and from the padding. -/
structure Base64 (Symbol : Type) where
  symbol : Fin 64 → Symbol
  padding : Symbol
  value : Symbol → Option (Fin 64)
  value_symbol : ∀ digit, value (symbol digit) = some digit
  value_padding : value padding = none

namespace Base64

local instance neZeroDigits : NeZero 64 := ⟨by decide⟩

variable {Symbol : Type} (alphabet : Base64 Symbol)

/-- The digit of the six low bits of a number. -/
def digit (number : Nat) : Fin 64 := ⟨number % 64, Nat.mod_lt _ (by decide)⟩

/-- The number four digits make. -/
def number (first second third fourth : Fin 64) : Nat :=
  first.val * 262144 + second.val * 4096 + third.val * 64 + fourth.val

theorem number_digit {group : Nat} (bounded : group < 16777216) :
    number (digit (group / 262144)) (digit (group / 4096)) (digit (group / 64)) (digit group) =
      group := by
  simp only [number, digit]
  omega

/-! ### Encoding -/

/-- The number three bytes make. -/
def group (first second third : UInt8) : Nat :=
  first.toNat * 65536 + second.toNat * 256 + third.toNat

theorem group_lt (first second third : UInt8) : group first second third < 16777216 := by
  have high := first.toNat_lt
  have middle := second.toNat_lt
  have low := third.toNat_lt
  unfold group
  omega

/-- The bytes of a number, from the highest to the lowest. -/
def bytesOf (number : Nat) : List UInt8 :=
  [UInt8.ofNat (number / 65536), UInt8.ofNat (number / 256), UInt8.ofNat number]

theorem bytesOf_group (first second third : UInt8) :
    bytesOf (group first second third) = [first, second, third] := by
  have high := first.toNat_lt
  have middle := second.toNat_lt
  have low := third.toNat_lt
  have byte : ∀ (value : UInt8) (number : Nat), number % 256 = value.toNat →
      UInt8.ofNat number = value := by
    intro value number same
    rw [← UInt8.toNat_inj, UInt8.toNat_ofNat']
    exact same
  unfold bytesOf group
  rw [byte first _ (by omega), byte second _ (by omega), byte third _ (by omega)]

/-- The digits of the text: four for every three bytes, and enough for the bytes left over. -/
def digits : List UInt8 → List (Fin 64)
  | first :: second :: third :: rest =>
    let number := group first second third
    digit (number / 262144) :: digit (number / 4096) :: digit (number / 64) :: digit number ::
      digits rest
  | [first, second] =>
    let number := group first second 0
    [digit (number / 262144), digit (number / 4096), digit (number / 64)]
  | [first] =>
    let number := group first 0 0
    [digit (number / 262144), digit (number / 4096)]
  | [] => []

/-- How many symbols of padding close the text of so many bytes. -/
def paddingLength (bytes : Nat) : Nat := (3 - bytes % 3) % 3

theorem length_digits (bytes : List UInt8) :
    (digits bytes).length + paddingLength bytes.length = 4 * (bytes.length ⌈/⌉ 3) := by
  rw [Nat.ceilDiv_eq_add_pred_div]
  unfold paddingLength
  induction bytes using digits.induct with
  | case1 first second third rest inductionHypothesis =>
    simp only [digits, List.length_cons] at inductionHypothesis ⊢
    omega
  | case2 first second => simp [digits]
  | case3 first => simp [digits]
  | case4 => simp [digits]

/-- The encoded text. -/
def encode (bytes : List UInt8) : List Symbol :=
  (digits bytes).map alphabet.symbol ++
    List.replicate (paddingLength bytes.length) alphabet.padding

theorem length_encode (bytes : List UInt8) :
    (alphabet.encode bytes).length = 4 * (bytes.length ⌈/⌉ 3) := by
  rw [← length_digits]
  simp [encode]

theorem encode_cons (first second third : UInt8) (rest : List UInt8) :
    alphabet.encode (first :: second :: third :: rest) =
      alphabet.symbol (digit (group first second third / 262144)) ::
        alphabet.symbol (digit (group first second third / 4096)) ::
        alphabet.symbol (digit (group first second third / 64)) ::
        alphabet.symbol (digit (group first second third)) :: alphabet.encode rest := by
  have padded : paddingLength (first :: second :: third :: rest).length =
      paddingLength rest.length := by
    simp only [paddingLength, List.length_cons]
    omega
  unfold encode
  rw [padded]
  rfl

/-! ### Decoding -/

variable [DecidableEq Symbol]

/-- The bytes of a text, if it is a text of groups whose padding closes the last one. -/
def decode : List Symbol → Option (List UInt8)
  | first :: second :: third :: fourth :: rest =>
    match alphabet.value first, alphabet.value second, alphabet.value third,
      alphabet.value fourth with
    | some a, some b, some c, some d =>
      (decode rest).map fun bytes => bytesOf (number a b c d) ++ bytes
    | some a, some b, some c, none =>
      if fourth = alphabet.padding ∧ rest = [] ∧ c.val % 4 = 0 then
        some ((bytesOf (number a b c 0)).take 2)
      else none
    | some a, some b, none, none =>
      if third = alphabet.padding ∧ fourth = alphabet.padding ∧ rest = [] ∧ b.val % 16 = 0 then
        some ((bytesOf (number a b 0 0)).take 1)
      else none
    | _, _, _, _ => none
  | [] => some []
  | _ => none

/-- The decoder reads back what the encoder wrote. -/
theorem decode_encode (bytes : List UInt8) :
    alphabet.decode (alphabet.encode bytes) = some bytes := by
  induction bytes using digits.induct with
  | case1 first second third rest inductionHypothesis =>
    rw [encode_cons]
    simp only [decode, value_symbol, inductionHypothesis, Option.map_some,
      number_digit (group_lt first second third), bytesOf_group]
    rfl
  | case2 first second =>
    have last : digit (group first second 0) = 0 := by
      refine Fin.ext ?_
      simp only [digit, group, UInt8.toNat_zero, Fin.val_zero]
      omega
    have closed : (digit (group first second 0 / 64)).val % 4 = 0 := by
      simp only [digit, group, UInt8.toNat_zero]
      omega
    have whole := number_digit (group_lt first second 0)
    rw [last] at whole
    simp only [encode, digits, paddingLength, List.length_cons, List.length_nil, List.map_cons,
      List.map_nil, List.replicate, List.cons_append, List.nil_append, decode, value_symbol,
      value_padding, closed, whole, bytesOf_group, and_self, if_true, List.take]
  | case3 first =>
    have last : digit (group first 0 0) = 0 := by
      refine Fin.ext ?_
      simp only [digit, group, UInt8.toNat_zero, Fin.val_zero]
      omega
    have third : digit (group first 0 0 / 64) = 0 := by
      refine Fin.ext ?_
      simp only [digit, group, UInt8.toNat_zero, Fin.val_zero]
      omega
    have closed : (digit (group first 0 0 / 4096)).val % 16 = 0 := by
      simp only [digit, group, UInt8.toNat_zero]
      omega
    have whole := number_digit (group_lt first 0 0)
    rw [last, third] at whole
    simp only [encode, digits, paddingLength, List.length_cons, List.length_nil, List.map_cons,
      List.map_nil, List.replicate, List.cons_append, List.nil_append, decode, value_symbol,
      value_padding, closed, whole, bytesOf_group, and_self, if_true, List.take]
  | case4 => rfl

end Base64

end PairDriver
