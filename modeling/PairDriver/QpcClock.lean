/-
This file models the clock of the debounce. A reading of the performance counter is turned
into microseconds by a product and a quotient in 64 bits. The product wraps once the reading
is past 2 ^ 64 / 10 ^ 6 ticks, and from then on the clock is wrong and starts over, so the
time between two readings is exact for readings below that and no others.
-/

import PairDriver.BooleanDebounce

namespace PairDriver.InputHealth

/-! ### The conversion -/

/-- `QpcMicros` of a reading of the counter; a frequency of zero says that there is none. -/
def qpcMicros (freq ticks : Int64) : UInt64 :=
  if freq = 0 then 0 else ticks.toUInt64 * 1000000 / freq.toUInt64

/-- The whole microseconds a reading stands for. -/
def microsOf (freq ticks : Int64) : Nat :=
  ticks.toNatClampNeg * 1000000 / freq.toNatClampNeg

/-- The clock is exact at two readings, does not go back between them, and the difference the
debounce takes is the time between them. -/
structure ExactClock (freq earlier later : Int64) : Prop where
  exactEarlier : (qpcMicros freq earlier).toNat = microsOf freq earlier
  exactLater : (qpcMicros freq later).toNat = microsOf freq later
  monotone : qpcMicros freq earlier ≤ qpcMicros freq later
  elapsed : (qpcMicros freq later - qpcMicros freq earlier).toNat =
    microsOf freq later - microsOf freq earlier

theorem pos_toNatClampNeg {freq : Int64} (positive : 0 < freq) : 0 < freq.toNatClampNeg := by
  have value := Int64.lt_iff_toInt_lt.mp positive
  rw [← Int64.cast_toNatClampNeg freq (Int64.le_of_lt positive)] at value
  exact Int.natCast_pos.mp value

/-- The quotient is that of the wrapped product. -/
theorem toNat_qpcMicros {freq ticks : Int64} (positive : 0 < freq) (reading : 0 ≤ ticks) :
    (qpcMicros freq ticks).toNat =
      ticks.toNatClampNeg * 1000000 % 2 ^ 64 / freq.toNatClampNeg := by
  have nonzero : freq ≠ 0 := fun zero => absurd (zero ▸ positive) Int64.lt_irrefl
  unfold qpcMicros
  rw [if_neg nonzero, UInt64.toNat_div, UInt64.toNat_mul, Int64.toNat_toUInt64_of_le reading,
    Int64.toNat_toUInt64_of_le (Int64.le_of_lt positive)]
  rfl

theorem toNat_qpcMicros_of_lt {freq ticks : Int64} (positive : 0 < freq) (reading : 0 ≤ ticks)
    (fits : ticks.toNatClampNeg * 1000000 < 2 ^ 64) :
    (qpcMicros freq ticks).toNat = microsOf freq ticks := by
  rw [toNat_qpcMicros positive reading, Nat.mod_eq_of_lt fits]
  rfl

/-- A wrapped product is off by more than the quotient can hide. -/
theorem lt_of_exact {freq ticks : Int64} (positive : 0 < freq) (reading : 0 ≤ ticks)
    (exact : (qpcMicros freq ticks).toNat = microsOf freq ticks) :
    ticks.toNatClampNeg * 1000000 < 2 ^ 64 := by
  have divisor := pos_toNatClampNeg positive
  have bounded : freq.toNatClampNeg < 2 ^ 63 := Int64.toNatClampNeg_lt freq
  refine Nat.lt_of_not_le fun wraps => ?_
  have remainder : ticks.toNatClampNeg * 1000000 % 2 ^ 64 + freq.toNatClampNeg ≤
      ticks.toNatClampNeg * 1000000 := by
    omega
  have larger := Nat.div_le_div_right (c := freq.toNatClampNeg) remainder
  rw [Nat.add_div_right _ divisor, ← toNat_qpcMicros positive reading, exact] at larger
  exact Nat.not_succ_le_self _ larger

theorem microsOf_mono (freq : Int64) {earlier later : Int64}
    (order : earlier.toNatClampNeg ≤ later.toNatClampNeg) :
    microsOf freq earlier ≤ microsOf freq later :=
  Nat.div_le_div_right (Nat.mul_le_mul_right _ order)

/-! ### Two readings -/

/-- For two readings in order the clock is exact, monotone and gives the time between them
exactly if the product does not wrap at the later one. -/
theorem exact_clock_iff (freq earlier later : Int64) (positive : 0 < freq)
    (reading : 0 ≤ earlier) (order : earlier ≤ later) :
    ExactClock freq earlier later ↔ later.toNatClampNeg * 1000000 < 2 ^ 64 := by
  have readingLater := Int64.le_trans reading order
  have naturals : earlier.toNatClampNeg ≤ later.toNatClampNeg := by
    have values := Int64.le_iff_toInt_le.mp order
    rw [← Int64.cast_toNatClampNeg earlier reading,
      ← Int64.cast_toNatClampNeg later readingLater] at values
    exact Int.ofNat_le.mp values
  refine ⟨fun clock => lt_of_exact positive readingLater clock.exactLater, fun fits => ?_⟩
  have exactEarlier := toNat_qpcMicros_of_lt positive reading
    (lt_of_le_of_lt (Nat.mul_le_mul_right _ naturals) fits)
  have exactLater := toNat_qpcMicros_of_lt positive readingLater fits
  have monotone : qpcMicros freq earlier ≤ qpcMicros freq later := by
    rw [UInt64.le_iff_toNat_le, exactEarlier, exactLater]
    exact microsOf_mono freq naturals
  refine ⟨exactEarlier, exactLater, monotone, ?_⟩
  rw [UInt64.toNat_sub_of_le _ _ monotone, exactEarlier, exactLater]

/-- A second at ten megahertz. -/
theorem exact_clock_one_second : ExactClock 10000000 10000000 20000000 :=
  (exact_clock_iff 10000000 10000000 20000000 (by decide) (by decide) (by decide)).mpr (by decide)

/-- After 21 days at ten megahertz the clock falls back to zero between two ticks, and the time
between them is a wrapped difference. -/
theorem clock_wraps_after_21_days :
    qpcMicros 10000000 18446744073709 = 1844674407370 ∧
    qpcMicros 10000000 18446744073710 = 0 ∧
    ¬ExactClock 10000000 18446744073709 18446744073710 := by
  have wrapped : ¬qpcMicros 10000000 18446744073709 ≤ qpcMicros 10000000 18446744073710 := by
    decide
  exact ⟨by decide, by decide, fun clock => wrapped clock.monotone⟩

/-- With an exact clock the debounce compares the time since the last forwarded edge. -/
theorem shouldSwallow_exact {Single : Type} {freq earlier later : Int64}
    (clock : ExactClock freq earlier later) {stats : ComponentStats}
    (committed : stats.lastCommittedUs = qpcMicros freq earlier)
    (entry : CompensationEntry Single) (newValue : Bool) :
    shouldSwallowBooleanUpdate stats entry newValue (qpcMicros freq later) =
      (entry.kind == .boolean && entry.debounceUs != 0 && newValue != stats.lastBoolean &&
        stats.lastCommittedUs != 0 &&
        decide (microsOf freq later - microsOf freq earlier < entry.debounceUs)) := by
  unfold shouldSwallowBooleanUpdate
  rw [committed, clock.elapsed]

end PairDriver.InputHealth
