/-
This file asks what the hold-time gate of the face calibration demands before a peak widens
the learned range.

The gate counts the accepted values above the maximum and remembers when the first of them
came. A value it commits is the one that completes such a streak: at least six accepted
values, the last ones accepted, all above the maximum before, the first of them at least
eighty milliseconds earlier. The eighty milliseconds are those of the whole streak, so the last
six values may span less. Values that the velocity gate rejects neither count nor end a
streak, and only the last value of a streak is what the maximum becomes.
-/

import PairDriver.VelocityGate

namespace PairDriver.FaceCalibration

open MovingGate
open Arithmetic (ofRat)

/-! ### What frames deliver -/

section Streams

variable (qpcFreq : Int64)

/-- The values with their counter values that a stream delivers for a place since the last
reset. -/
noncomputable def deliveredTo (index : ShapeIndex) (stream : List (Event ℝ)) :
    List (ℝ × UInt64) :=
  stream.foldl (fun calls event =>
    match event with
    | .frame now mode frame =>
      if 0 < mode ∧ frame.current qpcFreq now = true ∧ frame.validAt index = true then
        calls ++ [(frame.valueAt index, now.toUInt64)]
      else calls
    | .command op => if op.resets index then [] else calls) []

noncomputable instance (shape : ShapeCalib ℝ) (value : ℝ) : Decidable (Accepts shape value) :=
  inferInstanceAs (Decidable (¬_))

/-- The values that the velocity gate accepts, from a shape on. -/
noncomputable def acceptedFrom : ShapeCalib ℝ → List (ℝ × UInt64) → List (ℝ × UInt64)
  | _, [] => []
  | shape, call :: rest =>
    let later := acceptedFrom (updateShape qpcFreq shape call.1 call.2) rest
    if Accepts shape call.1 then call :: later else later

/-- The values of a run that the velocity gate accepts. -/
noncomputable def accepted (calls : List (ℝ × UInt64)) : List (ℝ × UInt64) :=
  acceptedFrom qpcFreq .fresh calls

/-- The last accepted values are a streak above the maximum, which the last one completes: there
are enough of them, and the first one came early enough. -/
def CompletesStreak (emaMax : ℝ) (values : List (ℝ × UInt64)) (call : ℝ × UInt64) : Prop :=
  ∃ first middle, first :: middle ++ [call] <:+ values ∧
    kHoldCountMin.toNat ≤ (first :: middle ++ [call]).length ∧
    (∀ other ∈ first :: middle ++ [call], emaMax < other.1) ∧
    first.2 < call.2 ∧ (kHoldTimeMs : ℝ) ≤ elapsedMs qpcFreq (call.2 - first.2)

end Streams

theorem learned_concat (qpcFreq : Int64) (stream : List (Event ℝ)) (event : Event ℝ) :
    learned qpcFreq (stream ++ [event]) = workerStep qpcFreq (learned qpcFreq stream) event := by
  unfold learned
  rw [List.foldl_concat]

/-- A shape is what the values delivered for it make of a new one. -/
theorem shape_learned (qpcFreq : Int64) (index : ShapeIndex) (stream : List (Event ℝ)) :
    (learned qpcFreq stream).shape index =
      afterCalls qpcFreq (deliveredTo qpcFreq index stream) := by
  induction stream using List.reverseRecOn with
  | nil => cases index <;> rfl
  | append_singleton stream event inductionHypothesis =>
    rw [learned_concat, workerStep_shape, inductionHypothesis]
    unfold deliveredTo
    rw [List.foldl_concat]
    cases event with
    | frame now mode frame =>
      dsimp only [shapeStep]
      split_ifs
      · exact (afterCalls_concat qpcFreq _ (frame.valueAt index, now.toUInt64)).symm
      · rfl
    | command op =>
      dsimp only [shapeStep]
      split_ifs <;> rfl

theorem acceptedFrom_concat (qpcFreq : Int64) (shape : ShapeCalib ℝ)
    (calls : List (ℝ × UInt64)) (call : ℝ × UInt64) :
    acceptedFrom qpcFreq shape (calls ++ [call]) = acceptedFrom qpcFreq shape calls ++
      if Accepts (calls.foldl (fun before other => updateShape qpcFreq before other.1 other.2)
        shape) call.1 then [call] else [] := by
  induction calls generalizing shape with
  | nil =>
    unfold acceptedFrom acceptedFrom
    rfl
  | cons other rest inductionHypothesis =>
    rw [List.cons_append, acceptedFrom, acceptedFrom, inductionHypothesis, List.foldl_cons]
    by_cases accepts : Accepts shape other.1
    · rw [if_pos accepts, if_pos accepts, List.cons_append]
    · rw [if_neg accepts, if_neg accepts]

theorem accepted_concat (qpcFreq : Int64) (calls : List (ℝ × UInt64)) (call : ℝ × UInt64) :
    accepted qpcFreq (calls ++ [call]) = accepted qpcFreq calls ++
      if Accepts (afterCalls qpcFreq calls) call.1 then [call] else [] :=
  acceptedFrom_concat qpcFreq .fresh calls call

/-! ### The gate on its own -/

/-- What the two gates keep of a shape. -/
structure HoldGate (Number : Type) where
  moments : Moments Number
  emaMax : Number
  holdCount : UInt32
  holdFirstQpc : UInt64

section Gate

variable {Number : Type} [Field Number] [LinearOrder Number] [IsStrictOrderedRing Number]
variable (qpcFreq : Int64)

/-- The time since the first value of a streak. -/
def sinceFirst (first now : UInt64) : Number :=
  if first < now then ((now - first).toNat : Number) * 1000.0 / (qpcFreq.toInt : Number) else 0

/-- The envelope after an accepted value. -/
def HoldGate.envelope (gate : HoldGate Number) (value : Number) (now : UInt64) :
    HoldGate Number :=
  if gate.emaMax < value then
    let first := if gate.holdCount = 0 then now else gate.holdFirstQpc
    let count := gate.holdCount + 1
    if kHoldCountMin ≤ count ∧ 80.0 ≤ (sinceFirst qpcFreq first now : Number) then
      { gate with emaMax := value, holdCount := 0, holdFirstQpc := 0 }
    else { gate with holdCount := count, holdFirstQpc := first }
  else
    { gate with
      holdCount := 0
      holdFirstQpc := 0
      emaMax := (1 - 0.0005) * gate.emaMax + 0.0005 * value }

def HoldGate.next (gate : HoldGate Number) (value : Number) (now : UInt64) : HoldGate Number :=
  if gate.moments.Passes (gateRates Number) value then
    { gate with moments := gate.moments.absorb (gateRates Number) value }.envelope qpcFreq value now
  else gate

end Gate

def holdGateOf (shape : ShapeCalib ℝ) : HoldGate ℝ :=
  ⟨momentsOf shape, shape.emaMax, shape.holdCount, shape.holdFirstQpc⟩

theorem hold_rates_eq :
    (kAlphaDown : ℝ) = 0.0005 ∧ (kHoldTimeMs : ℝ) = 80.0 ∧ (ofRat 0 : ℝ) = 0 := by
  refine ⟨?_, ?_, ?_⟩
  · show ((5 / 10000 : Rat) : ℝ) = 0.0005
    norm_num
  · show ((80 : Rat) : ℝ) = 80.0
    norm_num
  · show ((0 : Rat) : ℝ) = 0
    norm_num

theorem elapsedMs_eq (qpcFreq : Int64) (ticks : UInt64) :
    (elapsedMs qpcFreq ticks : ℝ) = (ticks.toNat : ℝ) * 1000.0 / (qpcFreq.toInt : ℝ) := by
  show (((ticks.toNat : Rat) : ℝ) * ((1000 : Rat) : ℝ) / ((qpcFreq.toInt : Rat) : ℝ)) = _
  norm_num

theorem holdGateOf_envelope (qpcFreq : Int64) (held : ShapeCalib ℝ) (value : ℝ) (now : UInt64) :
    holdGateOf (held.envelope qpcFreq value now) =
      (holdGateOf held).envelope qpcFreq value now := by
  obtain ⟨-, -, one, -, -⟩ := rates_eq
  obtain ⟨down, holdTime, zero⟩ := hold_rates_eq
  have time : ∀ first : UInt64, (if first < now then elapsedMs qpcFreq (now - first)
      else ofRat 0 : ℝ) = sinceFirst qpcFreq first now := by
    intro first
    unfold sinceFirst
    rw [elapsedMs_eq, zero]
  unfold ShapeCalib.envelope HoldGate.envelope
  dsimp only
  rw [time, holdTime, one, down]
  by_cases above : held.emaMax < value
  · have aboveGate : (holdGateOf held).emaMax < value := above
    rw [if_pos above, if_pos aboveGate]
    generalize firstIs : (if held.holdCount = 0 then now else held.holdFirstQpc) = first
    have firstGate : (if (holdGateOf held).holdCount = 0 then now
        else (holdGateOf held).holdFirstQpc) = first := firstIs
    rw [firstGate]
    by_cases complete : kHoldCountMin ≤ held.holdCount + 1 ∧
      (80.0 : ℝ) ≤ sinceFirst qpcFreq first now
    · have completeGate : kHoldCountMin ≤ (holdGateOf held).holdCount + 1 ∧
        (80.0 : ℝ) ≤ sinceFirst qpcFreq first now := complete
      rw [if_pos complete, if_pos completeGate]
      rfl
    · have openGate : ¬(kHoldCountMin ≤ (holdGateOf held).holdCount + 1 ∧
        (80.0 : ℝ) ≤ sinceFirst qpcFreq first now) := complete
      rw [if_neg complete, if_neg openGate]
      rfl
  · have belowGate : ¬(holdGateOf held).emaMax < value := above
    rw [if_neg above, if_neg belowGate]
    rfl

/-- The gates of a shape act on their own. -/
theorem holdGateOf_updateShape (qpcFreq : Int64) {shape : ShapeCalib ℝ}
    (nonneg : 0 ≤ shape.emaVar) (value : ℝ) (now : UInt64) :
    holdGateOf (updateShape qpcFreq shape value now) =
      (holdGateOf shape).next qpcFreq value now := by
  by_cases accepts : Accepts shape value
  · obtain ⟨up, var, one, -, -⟩ := rates_eq
    have passes : (holdGateOf shape).moments.Passes (gateRates ℝ) value :=
      (accepts_iff nonneg value).mp accepts
    have same := holdGateOf_envelope qpcFreq { shape with
      emaValue := shape.emaValue + 0.02 * (value - shape.emaValue)
      emaVar := (1 - 0.05) * shape.emaVar +
        0.05 * ((value - (shape.emaValue + 0.02 * (value - shape.emaValue))) *
          (value - (shape.emaValue + 0.02 * (value - shape.emaValue)))) } value now
    unfold updateShape HoldGate.next
    rw [if_neg accepts, if_pos passes, up, var, one]
    exact same
  · have rejected : ¬(momentsOf shape).Passes (gateRates ℝ) value :=
      fun passes => accepts ((accepts_iff nonneg value).mpr passes)
    rw [updateShape_rejects qpcFreq now (not_not.mp accepts)]
    exact (if_neg rejected).symm

/-! ### Streaks -/

/-- When the streak that a value continues or begins has started. -/
def firstOf (shape : ShapeCalib ℝ) (now : UInt64) : UInt64 :=
  if shape.holdCount = 0 then now else shape.holdFirstQpc

/-- An accepted value lowers the maximum, becomes the maximum, or is counted. -/
theorem updateShape_cases (qpcFreq : Int64) {shape : ShapeCalib ℝ} (nonneg : 0 ≤ shape.emaVar)
    (call : ℝ × UInt64) (accepts : Accepts shape call.1) :
    ((updateShape qpcFreq shape call.1 call.2).emaMax ≤ shape.emaMax ∧
        (updateShape qpcFreq shape call.1 call.2).holdCount = 0) ∨
      (shape.emaMax < call.1 ∧ kHoldCountMin ≤ shape.holdCount + 1 ∧
        80.0 ≤ (sinceFirst qpcFreq (firstOf shape call.2) call.2 : ℝ) ∧
        (updateShape qpcFreq shape call.1 call.2).emaMax = call.1 ∧
        (updateShape qpcFreq shape call.1 call.2).holdCount = 0) ∨
      (shape.emaMax < call.1 ∧
        (updateShape qpcFreq shape call.1 call.2).emaMax = shape.emaMax ∧
        (updateShape qpcFreq shape call.1 call.2).holdCount = shape.holdCount + 1 ∧
        (updateShape qpcFreq shape call.1 call.2).holdFirstQpc = firstOf shape call.2) := by
  have passes : (holdGateOf shape).moments.Passes (gateRates ℝ) call.1 :=
    (accepts_iff nonneg call.1).mp accepts
  have after := holdGateOf_updateShape qpcFreq nonneg call.1 call.2
  unfold HoldGate.next at after
  rw [if_pos passes] at after
  unfold HoldGate.envelope at after
  by_cases above : shape.emaMax < call.1
  · have aboveGate : (holdGateOf shape).emaMax < call.1 := above
    rw [if_pos aboveGate] at after
    by_cases complete : kHoldCountMin ≤ shape.holdCount + 1 ∧
      (80.0 : ℝ) ≤ sinceFirst qpcFreq (firstOf shape call.2) call.2
    · obtain ⟨enough, long⟩ := complete
      have committed := after.trans (if_pos ⟨enough, long⟩)
      exact Or.inr (Or.inl ⟨above, enough, long, congrArg HoldGate.emaMax committed,
        congrArg HoldGate.holdCount committed⟩)
    · have counted := after.trans (if_neg complete)
      exact Or.inr (Or.inr ⟨above, congrArg HoldGate.emaMax counted,
        congrArg HoldGate.holdCount counted, congrArg HoldGate.holdFirstQpc counted⟩)
  · have belowGate : ¬(holdGateOf shape).emaMax < call.1 := above
    rw [if_neg belowGate] at after
    refine Or.inl ⟨?_, congrArg HoldGate.holdCount after⟩
    have lowered := congrArg HoldGate.emaMax after
    have shrunk : (updateShape qpcFreq shape call.1 call.2).emaMax =
        (1 - 0.0005) * shape.emaMax + 0.0005 * call.1 := lowered
    have below := not_lt.mp above
    rw [shrunk]
    norm_num
    linarith

/-- The count of the gate is the length of a streak of values above the maximum, the last ones
accepted, and the gate remembers when its first one came. -/
def StreakCounted (qpcFreq : Int64) (calls : List (ℝ × UInt64)) : Prop :=
  ∃ streak, streak <:+ accepted qpcFreq calls ∧
    streak.length = (afterCalls qpcFreq calls).holdCount.toNat ∧
    (∀ call ∈ streak, (afterCalls qpcFreq calls).emaMax < call.1) ∧
    ∀ first ∈ streak.head?, first.2 = (afterCalls qpcFreq calls).holdFirstQpc

theorem streakCounted_zero {qpcFreq : Int64} {calls : List (ℝ × UInt64)}
    (zero : (afterCalls qpcFreq calls).holdCount = 0) : StreakCounted qpcFreq calls := by
  refine ⟨[], List.nil_suffix, ?_, fun call member => absurd member List.not_mem_nil,
    fun first member => absurd member (by simp)⟩
  rw [zero]
  rfl

/-- Eighty milliseconds since the first value are eighty milliseconds between two counter
values. -/
theorem elapsed_of_sinceFirst {qpcFreq : Int64} {first now : UInt64}
    (long : 80.0 ≤ (sinceFirst qpcFreq first now : ℝ)) :
    first < now ∧ (kHoldTimeMs : ℝ) ≤ elapsedMs qpcFreq (now - first) := by
  obtain ⟨-, holdTime, -⟩ := hold_rates_eq
  unfold sinceFirst at long
  split_ifs at long with earlier
  · rw [holdTime, elapsedMs_eq]
    exact ⟨earlier, long⟩
  · norm_num at long

theorem toNat_add_one (count : UInt32) : count + 1 = 0 ∨
    (count + 1).toNat = count.toNat + 1 := by
  have sum : (count + 1).toNat = (count.toNat + 1) % 2 ^ 32 := UInt32.toNat_add count 1
  have below := count.toNat_lt
  by_cases wraps : count.toNat + 1 = 2 ^ 32
  · left
    refine UInt32.toNat_inj.mp ?_
    rw [sum, wraps]
    rfl
  · right
    rw [sum]
    omega

/-- The streak in progress, if there is one, began when the gate says. -/
theorem head_streak {shape : ShapeCalib ℝ} {streak : List (ℝ × UInt64)} {call : ℝ × UInt64}
    (length : streak.length = shape.holdCount.toNat)
    (head : ∀ first ∈ streak.head?, first.2 = shape.holdFirstQpc) :
    ∀ first ∈ (streak ++ [call]).head?, first.2 = firstOf shape call.2 := by
  intro first member
  unfold firstOf
  cases streak with
  | nil =>
    have zero : shape.holdCount = 0 := UInt32.toNat_inj.mp length.symm
    obtain rfl := Option.some.inj member
    rw [if_pos zero]
  | cons start rest =>
    have positive : shape.holdCount ≠ 0 := by
      intro zero
      rw [zero] at length
      exact absurd length (Nat.succ_ne_zero rest.length)
    obtain rfl := Option.some.inj member
    rw [if_neg positive]
    exact head _ rfl

/-- Every value keeps the count of the streak. -/
theorem streakCounted (qpcFreq : Int64) (calls : List (ℝ × UInt64)) :
    StreakCounted qpcFreq calls := by
  induction calls using List.reverseRecOn with
  | nil => exact streakCounted_zero rfl
  | append_singleton calls call inductionHypothesis =>
    obtain ⟨streak, suffix, length, above, head⟩ := inductionHypothesis
    have nonneg := (momentsOf_afterCalls qpcFreq calls).1
    by_cases accepts : Accepts (afterCalls qpcFreq calls) call.1
    · rcases updateShape_cases qpcFreq nonneg call accepts with ⟨-, zero⟩ |
        ⟨-, -, -, -, zero⟩ | ⟨higher, same, counted, began⟩
      · exact streakCounted_zero (by rw [afterCalls_concat, zero])
      · exact streakCounted_zero (by rw [afterCalls_concat, zero])
      · rcases toNat_add_one (afterCalls qpcFreq calls).holdCount with wraps | next
        · exact streakCounted_zero (by rw [afterCalls_concat, counted, wraps])
        · refine ⟨streak ++ [call], ?_, ?_, ?_, ?_⟩
          · rw [accepted_concat, if_pos accepts]
            exact List.suffix_append_inj_of_length_eq rfl |>.mpr ⟨suffix, rfl⟩
          · rw [afterCalls_concat, counted, next, List.length_append, length,
              List.length_singleton]
          · rw [afterCalls_concat, same]
            intro other member
            rcases List.mem_append.mp member with earlier | last
            · exact above other earlier
            · rw [List.mem_singleton.mp last]
              exact higher
          · rw [afterCalls_concat, began]
            exact head_streak length head
    · refine ⟨streak, ?_, ?_, ?_, ?_⟩
      · rw [accepted_concat, if_neg accepts, List.append_nil]
        exact suffix
      all_goals rw [afterCalls_concat, updateShape_rejects qpcFreq call.2 (not_not.mp accepts)]
      · exact length
      · exact above
      · exact head

/-- A call that raises the maximum completes a streak, and its value is the new maximum. -/
theorem raise_completes {qpcFreq : Int64} {calls : List (ℝ × UInt64)} {call : ℝ × UInt64}
    (raised : (afterCalls qpcFreq calls).emaMax <
      (afterCalls qpcFreq (calls ++ [call])).emaMax) :
    (afterCalls qpcFreq (calls ++ [call])).emaMax = call.1 ∧
      CompletesStreak qpcFreq (afterCalls qpcFreq calls).emaMax
        (accepted qpcFreq (calls ++ [call])) call := by
  obtain ⟨streak, suffix, length, above, head⟩ := streakCounted qpcFreq calls
  have nonneg := (momentsOf_afterCalls qpcFreq calls).1
  rw [afterCalls_concat] at raised ⊢
  by_cases accepts : Accepts (afterCalls qpcFreq calls) call.1
  · rcases updateShape_cases qpcFreq nonneg call accepts with ⟨lower, -⟩ |
      ⟨higher, enough, long, becomes, -⟩ | ⟨-, same, -, -⟩
    · exact absurd raised (not_lt.mpr lower)
    · refine ⟨becomes, ?_⟩
      have began : ∀ first ∈ (streak ++ [call]).head?,
          first.2 = firstOf (afterCalls qpcFreq calls) call.2 := head_streak length head
      have many := UInt32.le_iff_toNat_le.mp enough
      have next : ((afterCalls qpcFreq calls).holdCount + 1).toNat =
          (afterCalls qpcFreq calls).holdCount.toNat + 1 := by
        refine (toNat_add_one _).resolve_left fun wraps => ?_
        rw [wraps] at enough
        exact absurd enough (by decide)
      cases streak with
      | nil =>
        rw [next, ← length] at many
        exact absurd many (by decide)
      | cons first middle =>
        have start : first.2 = firstOf (afterCalls qpcFreq calls) call.2 := began first rfl
        rw [← start] at long
        obtain ⟨earlier, elapsed⟩ := elapsed_of_sinceFirst long
        refine ⟨first, middle, ?_, ?_, ?_, earlier, elapsed⟩
        · rw [accepted_concat, if_pos accepts]
          exact (List.suffix_append_inj_of_length_eq rfl).mpr ⟨suffix, rfl⟩
        · rw [List.length_append, length, List.length_singleton, ← next]
          exact many
        · intro other member
          rcases List.mem_append.mp member with inside | last
          · exact above other inside
          · rw [List.mem_singleton.mp last]
            exact higher
    · rw [same] at raised
      exact absurd raised (lt_irrefl _)
  · rw [updateShape_rejects qpcFreq call.2 (not_not.mp accepts)] at raised
    exact absurd raised (lt_irrefl _)

/-- Whenever a frame raises the maximum of a shape, the value it delivers is the new maximum and
completes a streak. -/
theorem raised_maximum_completes_streak (qpcFreq : Int64) (index : ShapeIndex)
    (stream : List (Event ℝ)) (now : Int64) (mode : UInt8) (frame : Frame ℝ)
    (raised : ((learned qpcFreq stream).shape index).emaMax <
      ((learned qpcFreq (stream ++ [.frame now mode frame])).shape index).emaMax) :
    ((learned qpcFreq (stream ++ [.frame now mode frame])).shape index).emaMax =
        frame.valueAt index ∧
      CompletesStreak qpcFreq ((learned qpcFreq stream).shape index).emaMax
        (accepted qpcFreq (deliveredTo qpcFreq index (stream ++ [.frame now mode frame])))
        (frame.valueAt index, now.toUInt64) := by
  have delivered : deliveredTo qpcFreq index (stream ++ [.frame now mode frame]) =
      if 0 < mode ∧ frame.current qpcFreq now = true ∧ frame.validAt index = true then
        deliveredTo qpcFreq index stream ++ [(frame.valueAt index, now.toUInt64)]
      else deliveredTo qpcFreq index stream := by
    unfold deliveredTo
    rw [List.foldl_concat]
  rw [shape_learned, shape_learned] at raised
  rw [shape_learned, shape_learned]
  rw [delivered] at raised ⊢
  split_ifs at raised ⊢
  · exact raise_completes raised
  · exact absurd raised (lt_irrefl _)

/-! ### Rational runs -/

noncomputable def HoldGate.toReal (gate : HoldGate Rat) : HoldGate ℝ :=
  ⟨⟨gate.moments.mean, gate.moments.var⟩, gate.emaMax, gate.holdCount, gate.holdFirstQpc⟩

theorem passes_toReal (moments : Moments Rat) (value : Rat) :
    (⟨moments.mean, moments.var⟩ : Moments ℝ).Passes (gateRates ℝ) value ↔
      moments.Passes (gateRates Rat) value := by
  show ((value : ℝ) - moments.mean) * (value - moments.mean) ≤ 16.0 * (moments.var + 1e-6) ↔
    (value - moments.mean) * (value - moments.mean) ≤ 16.0 * (moments.var + 1e-6)
  rw [← Rat.cast_le (K := ℝ)]
  push_cast
  norm_num

theorem absorb_toReal (moments : Moments Rat) (value : Rat) :
    (⟨moments.mean, moments.var⟩ : Moments ℝ).absorb (gateRates ℝ) value =
      ⟨(moments.absorb (gateRates Rat) value).mean,
        (moments.absorb (gateRates Rat) value).var⟩ := by
  unfold Moments.absorb gateRates
  simp only [Moments.mk.injEq]
  push_cast
  norm_num

theorem sinceFirst_toReal (qpcFreq : Int64) (first now : UInt64) :
    (sinceFirst qpcFreq first now : ℝ) = ((sinceFirst qpcFreq first now : Rat) : ℝ) := by
  unfold sinceFirst
  split_ifs
  · push_cast
    norm_num
  · norm_num

theorem long_toReal (qpcFreq : Int64) (first now : UInt64) :
    (80.0 : ℝ) ≤ sinceFirst qpcFreq first now ↔
      (80.0 : Rat) ≤ sinceFirst qpcFreq first now := by
  have bound : (80.0 : ℝ) = ((80.0 : Rat) : ℝ) := by norm_num
  rw [sinceFirst_toReal, bound, Rat.cast_le]

theorem envelope_toReal (qpcFreq : Int64) (gate : HoldGate Rat) (value : Rat) (now : UInt64) :
    (gate.envelope qpcFreq value now).toReal = gate.toReal.envelope qpcFreq value now := by
  have aboveReal : gate.toReal.emaMax < (value : ℝ) ↔ gate.emaMax < value := Rat.cast_lt
  unfold HoldGate.envelope
  by_cases above : gate.emaMax < value
  · rw [if_pos above, if_pos (aboveReal.mpr above)]
    generalize firstIs : (if gate.holdCount = 0 then now else gate.holdFirstQpc) = first
    have firstReal : (if gate.toReal.holdCount = 0 then now else gate.toReal.holdFirstQpc) =
        first := firstIs
    rw [firstReal]
    by_cases complete : kHoldCountMin ≤ gate.holdCount + 1 ∧
      (80.0 : Rat) ≤ sinceFirst qpcFreq first now
    · have completeReal : kHoldCountMin ≤ gate.toReal.holdCount + 1 ∧
        (80.0 : ℝ) ≤ sinceFirst qpcFreq first now :=
        ⟨complete.1, (long_toReal qpcFreq first now).mpr complete.2⟩
      rw [if_pos complete, if_pos completeReal]
      rfl
    · have openReal : ¬(kHoldCountMin ≤ gate.toReal.holdCount + 1 ∧
          (80.0 : ℝ) ≤ sinceFirst qpcFreq first now) :=
        fun both => complete ⟨both.1, (long_toReal qpcFreq first now).mp both.2⟩
      rw [if_neg complete, if_neg openReal]
      rfl
  · rw [if_neg above, if_neg fun higher => above (aboveReal.mp higher)]
    have lowered : ((((1 : Rat) - 0.0005) * gate.emaMax + 0.0005 * value : Rat) : ℝ) =
        (1 - 0.0005) * (gate.emaMax : ℝ) + 0.0005 * (value : ℝ) := by
      push_cast
      norm_num
    unfold HoldGate.toReal
    simp only [lowered]

theorem next_toReal (qpcFreq : Int64) (gate : HoldGate Rat) (value : Rat) (now : UInt64) :
    (gate.next qpcFreq value now).toReal = gate.toReal.next qpcFreq value now := by
  have passesReal : gate.toReal.moments.Passes (gateRates ℝ) value ↔
      gate.moments.Passes (gateRates Rat) value := passes_toReal gate.moments value
  unfold HoldGate.next
  by_cases passes : gate.moments.Passes (gateRates Rat) value
  · rw [if_pos passes, if_pos (passesReal.mpr passes), envelope_toReal]
    have absorbed := absorb_toReal gate.moments value
    unfold HoldGate.toReal
    rw [absorbed]
  · rw [if_neg passes, if_neg fun accepted => passes (passesReal.mp accepted)]

/-- The gates after a run of rational values. -/
def gateRun (qpcFreq : Int64) (calls : List (Rat × UInt64)) : HoldGate Rat :=
  calls.foldl (fun gate call => gate.next qpcFreq call.1 call.2) ⟨⟨0.5, 0.04⟩, 1, 0, 0⟩

/-- A run of rational values as one of real ones. -/
noncomputable def realCalls (calls : List (Rat × UInt64)) : List (ℝ × UInt64) :=
  calls.map fun call => ((call.1 : ℝ), call.2)

theorem realCalls_concat (calls : List (Rat × UInt64)) (call : Rat × UInt64) :
    realCalls (calls ++ [call]) = realCalls calls ++ [((call.1 : ℝ), call.2)] :=
  List.map_append

theorem holdGateOf_realCalls (qpcFreq : Int64) (calls : List (Rat × UInt64)) :
    holdGateOf (afterCalls qpcFreq (realCalls calls)) = (gateRun qpcFreq calls).toReal := by
  induction calls using List.reverseRecOn with
  | nil =>
    show (⟨⟨((1 / 2 : Rat) : ℝ), ((4 / 100 : Rat) : ℝ)⟩, ((1 : Rat) : ℝ), 0, 0⟩ : HoldGate ℝ) =
      ⟨⟨((0.5 : Rat) : ℝ), ((0.04 : Rat) : ℝ)⟩, ((1 : Rat) : ℝ), 0, 0⟩
    norm_num
  | append_singleton calls call inductionHypothesis =>
    have nonneg := (momentsOf_afterCalls qpcFreq (realCalls calls)).1
    unfold gateRun
    rw [realCalls_concat, afterCalls_concat, holdGateOf_updateShape qpcFreq nonneg,
      inductionHypothesis, List.foldl_concat]
    exact (next_toReal qpcFreq _ call.1 call.2).symm

/-! ### Peaks that are not held by the last six values -/

/-- The last six of some values. -/
def lastSix {Value : Type} (values : List Value) : List Value :=
  values.drop (values.length - 6)

/-- The last six values are above the old maximum, reach the new one and span the hold time. -/
structure HeldByLastSix (qpcFreq : Int64) (calls : List (ℝ × UInt64)) (call : ℝ × UInt64) :
    Prop where
  above : ∀ other ∈ lastSix (calls ++ [call]), (afterCalls qpcFreq calls).emaMax < other.1
  reach : ∀ other ∈ lastSix (calls ++ [call]),
    (afterCalls qpcFreq (calls ++ [call])).emaMax ≤ other.1
  span : ∃ first ∈ (lastSix (calls ++ [call])).head?,
    (kHoldTimeMs : ℝ) ≤ elapsedMs qpcFreq (call.2 - first.2)

/-- If the value raises the maximum, the last six values held it. -/
def PeaksHeld (qpcFreq : Int64) (calls : List (ℝ × UInt64)) (call : ℝ × UInt64) : Prop :=
  (afterCalls qpcFreq calls).emaMax < (afterCalls qpcFreq (calls ++ [call])).emaMax →
    HeldByLastSix qpcFreq calls call

theorem raised_realCalls {qpcFreq : Int64} {calls : List (Rat × UInt64)} {call : Rat × UInt64}
    (raised : (gateRun qpcFreq calls).emaMax < (gateRun qpcFreq (calls ++ [call])).emaMax) :
    (afterCalls qpcFreq (realCalls calls)).emaMax <
      (afterCalls qpcFreq (realCalls calls ++ [((call.1 : ℝ), call.2)])).emaMax := by
  have before := congrArg HoldGate.emaMax (holdGateOf_realCalls qpcFreq calls)
  have after := congrArg HoldGate.emaMax (holdGateOf_realCalls qpcFreq (calls ++ [call]))
  rw [realCalls_concat] at after
  exact lt_of_eq_of_lt before (lt_of_lt_of_eq (Rat.cast_lt.mpr raised) after.symm)

theorem lastSix_realCalls (calls : List (Rat × UInt64)) :
    lastSix (realCalls calls) = realCalls (lastSix calls) := by
  unfold lastSix realCalls
  rw [List.length_map, List.map_drop]

/-- A raise after which one of the last six values is below the new maximum. -/
theorem not_held_of_lower {qpcFreq : Int64} {calls : List (Rat × UInt64)} {call : Rat × UInt64}
    (raised : (gateRun qpcFreq calls).emaMax < (gateRun qpcFreq (calls ++ [call])).emaMax)
    (lower : ∃ other ∈ lastSix (calls ++ [call]), other.1 < call.1) :
    ¬PeaksHeld qpcFreq (realCalls calls) ((call.1 : ℝ), call.2) := by
  intro held
  have raisedReal := raised_realCalls raised
  obtain ⟨other, member, below⟩ := lower
  have memberReal : ((other.1 : ℝ), other.2) ∈
      lastSix (realCalls calls ++ [((call.1 : ℝ), call.2)]) := by
    rw [← realCalls_concat, lastSix_realCalls]
    exact List.mem_map_of_mem member
  have reached := (held raisedReal).reach _ memberReal
  rw [(raise_completes raisedReal).1] at reached
  exact absurd (Rat.cast_le.mp reached) (not_le.mpr below)

/-- A raise after which the last six values span less than the hold time. -/
theorem not_held_of_short {qpcFreq : Int64} {calls : List (Rat × UInt64)} {call : Rat × UInt64}
    (raised : (gateRun qpcFreq calls).emaMax < (gateRun qpcFreq (calls ++ [call])).emaMax)
    (short : ∀ first ∈ (lastSix (calls ++ [call])).head?,
      ((call.2 - first.2).toNat : Rat) * 1000.0 / (qpcFreq.toInt : Rat) < 80.0) :
    ¬PeaksHeld qpcFreq (realCalls calls) ((call.1 : ℝ), call.2) := by
  intro held
  obtain ⟨first, member, long⟩ := (held (raised_realCalls raised)).span
  rw [← realCalls_concat, lastSix_realCalls] at member
  unfold realCalls at member
  rw [List.head?_map] at member
  obtain ⟨rational, memberRational, same⟩ := Option.map_eq_some_iff.mp member
  have less := short rational memberRational
  obtain ⟨-, holdTime, -⟩ := hold_rates_eq
  rw [← same, holdTime, elapsedMs_eq] at long
  have lessReal := (Rat.cast_lt (K := ℝ)).mpr less
  push_cast at lessReal
  norm_num at lessReal long
  exact absurd long (not_le.mpr lessReal)

/-- Values at 120 frames a second, on a clock of ten megahertz. -/
def timed (start : UInt64) : List Rat → List (Rat × UInt64)
  | [] => []
  | value :: rest => (value, start) :: timed (start + 83334) rest

/-- A peak that is held at the same value for 83 milliseconds, of which the last six values span
half; a peak that only the last value of a mild rise reaches; and one that a rejected low value
interrupts. Each raises the maximum. -/
theorem peaks_raise_unheld :
    ¬PeaksHeld 10000000 (realCalls (timed 1000000 (0.5 :: List.replicate 10 1)))
        (((1 : Rat) : ℝ), 1916674) ∧
      ¬PeaksHeld 10000000 (realCalls (timed 1000000 (0.5 :: List.replicate 10 1)))
        (((1.2 : Rat) : ℝ), 1916674) ∧
      ¬PeaksHeld 10000000
        (realCalls (timed 1000000 (0.5 :: List.replicate 7 1 ++ [-1] ++ List.replicate 2 1)))
        (((1 : Rat) : ℝ), 1916674) := by
  refine ⟨?_, ?_, ?_⟩
  · exact @not_held_of_short 10000000 _ (1, 1916674) (by decide +kernel) (by decide +kernel)
  · exact @not_held_of_lower 10000000 _ (1.2, 1916674) (by decide +kernel) (by decide +kernel)
  · exact @not_held_of_lower 10000000 _ (1, 1916674) (by decide +kernel) (by decide +kernel)

/-! ### A held peak -/

/-- A frame whose eye values are all the same, ingested as it is sampled. -/
noncomputable def eyeFrame (call : Rat × UInt64) : Frame ℝ where
  qpcSampleTime := call.2
  sourceModuleUuidHash := 0
  eyes := ⟨call.1, call.1, call.1, call.1⟩
  expressions := fun _ => 0
  flags := 1

noncomputable def eyeEvent (call : Rat × UInt64) : Event ℝ :=
  .frame call.2.toInt64 1 (eyeFrame call)

theorem eyeFrame_current (qpcFreq : Int64) (call : Rat × UInt64) :
    (eyeFrame call).current qpcFreq call.2.toInt64 = true := by
  have fresh : (eyeFrame call).ageMs qpcFreq call.2.toInt64 = 0 := by
    unfold Frame.ageMs
    rw [if_neg (show ¬(eyeFrame call).qpcSampleTime.toInt64 < call.2.toInt64 from
      fun less => Int64.lt_irrefl less)]
    show ((0 : Rat) : ℝ) = 0
    norm_num
  have limit : (kFrameAgeMaxMs : ℝ) = 33.0 := by
    show ((33 : Rat) : ℝ) = 33.0
    norm_num
  unfold Frame.current
  rw [fresh, limit]
  norm_num

theorem deliveredTo_eyeEvents (qpcFreq : Int64) (calls : List (Rat × UInt64)) :
    deliveredTo qpcFreq .opennessL (calls.map eyeEvent) = realCalls calls := by
  induction calls using List.reverseRecOn with
  | nil => rfl
  | append_singleton calls call inductionHypothesis =>
    have delivers : (0 : UInt8) < 1 ∧ (eyeFrame call).current qpcFreq call.2.toInt64 = true ∧
        (eyeFrame call).validAt .opennessL = true :=
      ⟨by decide, eyeFrame_current qpcFreq call,
        decide_eq_true (by decide : (1 : UInt32) &&& 1 ≠ 0)⟩
    rw [List.map_append, List.map_singleton, realCalls_concat, ← inductionHypothesis]
    unfold deliveredTo
    rw [List.foldl_concat]
    unfold eyeEvent
    dsimp only
    rw [if_pos delivers, UInt64.toUInt64_toInt64]
    rfl

/-- The eye opens wide for 83 milliseconds. -/
theorem raised_maximum_completes_streak_held :
    CompletesStreak 10000000
      ((learned 10000000 ((timed 1000000 (0.5 :: List.replicate 10 1)).map eyeEvent)).shape
        .opennessL).emaMax
      (accepted 10000000 (deliveredTo 10000000 .opennessL
        ((timed 1000000 (0.5 :: List.replicate 10 1)).map eyeEvent ++ [eyeEvent (1, 1916674)])))
      ((eyeFrame (1, 1916674)).valueAt .opennessL,
        (1916674 : UInt64).toInt64.toUInt64) := by
  have raised := @raised_realCalls 10000000 (timed 1000000 (0.5 :: List.replicate 10 1))
    (1, 1916674) (by decide +kernel)
  rw [← realCalls_concat, ← deliveredTo_eyeEvents, ← deliveredTo_eyeEvents, ← shape_learned,
    ← shape_learned, List.map_append] at raised
  exact (raised_maximum_completes_streak 10000000 .opennessL
    ((timed 1000000 (0.5 :: List.replicate 10 1)).map eyeEvent) (1916674 : UInt64).toInt64 1
    (eyeFrame (1, 1916674)) raised).2

end PairDriver.FaceCalibration
