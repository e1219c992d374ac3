/-
This file is the decimal text of integers: the digits `to_string` writes, and the
reader `stoi`, which skips white space, takes a sign and the longest run of
digits, and fails where there is none or the value does not fit 32 bits. The one
result is that the reader gives back what was written.
-/

import PairDriver.Bytes

namespace PairDriver

/-- The decimal digits of a number. -/
def decimalText (value : Nat) : List UInt8 :=
  if value = 0 then [48] else (Nat.digits 10 value).reverse.map fun digit => UInt8.ofNat (48 + digit)

def isSpace (character : UInt8) : Bool :=
  character = 32 || (9 ≤ character && character ≤ 13)

def isDigit (character : UInt8) : Bool :=
  48 ≤ character && character ≤ 57

/-- The number a run of digits stands for. -/
def digitsValue (digits : List UInt8) : Nat :=
  digits.foldl (fun value digit => 10 * value + (digit.toNat - 48)) 0

inductive StoiError where
  | invalidArgument
  | outOfRange
deriving DecidableEq

/-- The sign in front of a number, and the text after it. -/
def splitSign : List UInt8 → Bool × List UInt8
  | [] => (false, [])
  | character :: rest =>
    if character = 45 then (true, rest)
    else if character = 43 then (false, rest)
    else (false, character :: rest)

/-- `std::stoi`. -/
def stoi (text : List UInt8) : Except StoiError Int :=
  let signed := splitSign (text.dropWhile isSpace)
  let digits := signed.2.takeWhile isDigit
  if digits = [] then .error .invalidArgument
  else
    let value : Int := if signed.1 then -(digitsValue digits : Int) else digitsValue digits
    if value < -2 ^ 31 ∨ 2 ^ 31 ≤ value then .error .outOfRange else .ok value

/-! ### Digits -/

theorem digit_toNat {digit : Nat} (small : digit < 10) :
    (UInt8.ofNat (48 + digit)).toNat = 48 + digit := by
  rw [UInt8.toNat_ofNat']
  omega

theorem isDigit_ofNat {digit : Nat} (small : digit < 10) :
    isDigit (UInt8.ofNat (48 + digit)) = true := by
  simp only [isDigit, Bool.and_eq_true, decide_eq_true_eq, UInt8.le_iff_toNat_le, digit_toNat small]
  refine ⟨Nat.le_add_right 48 digit, ?_⟩
  show 48 + digit ≤ 57
  omega

theorem decimalText_isDigit (value : Nat) : ∀ character ∈ decimalText value, isDigit character := by
  unfold decimalText
  split
  · rw [List.forall_mem_singleton]
    rfl
  · intro character member
    obtain ⟨digit, written, rfl⟩ := List.mem_map.mp member
    exact isDigit_ofNat (Nat.digits_lt_base (by decide) (List.mem_reverse.mp written))

theorem decimalText_ne_nil (value : Nat) : decimalText value ≠ [] := by
  unfold decimalText
  split
  · exact List.cons_ne_nil _ _
  · rename_i nonzero
    rw [ne_eq, List.map_eq_nil_iff, List.reverse_eq_nil_iff]
    exact Nat.digits_ne_nil_iff_ne_zero.mpr nonzero

theorem digitsValue_map_reverse (digits : List Nat) (small : ∀ digit ∈ digits, digit < 10) :
    digitsValue (digits.reverse.map fun digit => UInt8.ofNat (48 + digit)) =
      Nat.ofDigits 10 digits := by
  unfold digitsValue
  rw [List.foldl_map, List.foldl_reverse]
  induction digits with
  | nil => rfl
  | cons digit rest inductionHypothesis =>
    rw [List.forall_mem_cons] at small
    rw [List.foldr_cons, inductionHypothesis small.2, digit_toNat small.1, Nat.ofDigits_cons]
    omega

theorem digitsValue_decimalText (value : Nat) : digitsValue (decimalText value) = value := by
  unfold decimalText
  split
  · rename_i zero
    exact zero.symm
  · rw [digitsValue_map_reverse _ fun digit member => Nat.digits_lt_base (by decide) member,
      Nat.ofDigits_digits]

/-! ### The round trip -/

theorem isDigit_range {character : UInt8} (digit : isDigit character = true) :
    48 ≤ character.toNat ∧ character.toNat ≤ 57 := by
  simpa [isDigit, UInt8.le_iff_toNat_le] using digit

theorem isSpace_of_isDigit {character : UInt8} (digit : isDigit character = true) :
    isSpace character = false := by
  obtain ⟨least, most⟩ := isDigit_range digit
  simp only [isSpace, Bool.or_eq_false_iff, decide_eq_false_iff_not, Bool.and_eq_false_iff,
    UInt8.le_iff_toNat_le, ← UInt8.toNat_inj]
  refine ⟨?_, Or.inr ?_⟩
  · show character.toNat ≠ 32
    omega
  · show ¬character.toNat ≤ 13
    omega

theorem splitSign_of_isDigit {character : UInt8} (digit : isDigit character = true)
    (rest : List UInt8) : splitSign (character :: rest) = (false, character :: rest) := by
  obtain ⟨least, most⟩ := isDigit_range digit
  have notMinus : character ≠ 45 := by
    rintro rfl
    exact absurd least (by decide)
  have notPlus : character ≠ 43 := by
    rintro rfl
    exact absurd least (by decide)
  rw [splitSign, if_neg notMinus, if_neg notPlus]

/-- No white space and no sign stand before the digits. -/
theorem splitSign_decimalText (value : Nat) :
    splitSign ((decimalText value).dropWhile isSpace) = (false, decimalText value) := by
  have digits := decimalText_isDigit value
  cases written : decimalText value with
  | nil => exact absurd written (decimalText_ne_nil value)
  | cons character rest =>
    rw [written, List.forall_mem_cons] at digits
    rw [List.dropWhile_cons_of_neg (by rw [isSpace_of_isDigit digits.1]; exact Bool.false_ne_true),
      splitSign_of_isDigit digits.1]

theorem takeWhile_decimalText (value : Nat) :
    (decimalText value).takeWhile isDigit = decimalText value :=
  List.takeWhile_eq_self_iff.mpr (decimalText_isDigit value)

/-- A number that fits is read back from its digits. -/
theorem stoi_decimalText (value : Nat) (fits : value < 2 ^ 31) :
    stoi (decimalText value) = .ok value := by
  unfold stoi
  simp only [splitSign_decimalText, takeWhile_decimalText, if_neg (decimalText_ne_nil value),
    digitsValue_decimalText, Bool.false_eq_true, if_false]
  rw [if_neg]
  omega

end PairDriver
