/-
This file is about the nudges that anticipate the next recovery of the calibration.

The recovery events of the past predict a direction and a magnitude. The weights of
the events age together, so between two events the prediction stays the same, and
every tick applies a tenth of its magnitude anew, cut down to the rate cap. The
nudges keep to the cap over every interval. They stay within a tenth of the magnitude
exactly if the cap times the time of the ticks stays within it, or only one tick
takes any time.
-/

import PairDriver.BoundedSteps
import PairDriver.CalibrationTick

namespace PairDriver.Predictive

open BoundedSteps Calibration

/-! ### The buffer -/

structure Vec (Number : Type) where
  x : Number
  y : Number
  z : Number
deriving DecidableEq

structure RecoveryEvent (Number : Type) where
  direction : Vec Number
  magnitude : Number
  timestamp : Number

section Recovery

variable {Number : Type} [Field Number] [LinearOrder Number]

def Vec.zero : Vec Number := ⟨0, 0, 0⟩

def Vec.add (first second : Vec Number) : Vec Number :=
  ⟨first.x + second.x, first.y + second.y, first.z + second.z⟩

def Vec.scale (factor : Number) (vector : Vec Number) : Vec Number :=
  ⟨factor * vector.x, factor * vector.y, factor * vector.z⟩

def Vec.dot (first second : Vec Number) : Number :=
  first.x * second.x + first.y * second.y + first.z * second.z

def Vec.squaredNorm (vector : Vec Number) : Number :=
  vector.dot vector

def Vec.sum (vectors : List (Vec Number)) : Vec Number :=
  vectors.foldr Vec.add Vec.zero

/-- The square root and the exponential of the mathematics library. -/
structure MathFunctions (Number : Type) where
  sqrt : Number → Number
  exp : Number → Number

variable (math : MathFunctions Number)

def Vec.norm (vector : Vec Number) : Number :=
  math.sqrt vector.squaredNorm

/-- The unit vector, or the vector itself if it is zero. -/
def Vec.normalized (vector : Vec Number) : Vec Number :=
  if 0 < vector.squaredNorm then vector.scale (1 / vector.norm math) else vector

def kBufferSize : Nat := 6
def kMinEvents : Nat := 3
def kAmount : Number := 0.10
def kConsistencyCosine : Number := 0.7
def kHalfLifeSec : Number := 300.0
def kPredictiveRateCapMps : Number := 0.001

variable (Number) in
/-- The ring of events, by slot, and how many were ever pushed. -/
structure Buffer where
  events : Nat → RecoveryEvent Number := fun _ => ⟨Vec.zero, 0, 0⟩
  count : Nat := 0

def Buffer.push (buffer : Buffer Number) (deltaVec : Vec Number) (now : Number) : Buffer Number :=
  let mag := deltaVec.norm math
  { events := Function.update buffer.events (buffer.count % kBufferSize)
      { direction := if 0.000000001 < mag then deltaVec.scale (1 / mag) else Vec.zero
        magnitude := mag
        timestamp := now }
    count := buffer.count + 1 }

def Buffer.liveCount (buffer : Buffer Number) : Nat :=
  min buffer.count kBufferSize

def Buffer.live (buffer : Buffer Number) : List (RecoveryEvent Number) :=
  (List.range buffer.liveCount).map buffer.events

/-! ### The prediction -/

/-- The weight of an event, by its age. -/
def recency (now : Number) (event : RecoveryEvent Number) : Number :=
  math.exp (-max 0 (now - event.timestamp) / kHalfLifeSec)

/-- The sum of a quantity of the events, weighted. -/
def weighted (weight : RecoveryEvent Number → Number) (quantity : RecoveryEvent Number → Number)
    (events : List (RecoveryEvent Number)) : Number :=
  (events.map fun event => weight event * quantity event).sum

/-- The two passes of `PredictNext` over the events with their weights. -/
def predict (weight : RecoveryEvent Number → Number) (events : List (RecoveryEvent Number)) :
    Option (Vec Number × Number) :=
  let weightTotal := weighted weight (fun _ => 1) events
  let weightedMag := weighted weight RecoveryEvent.magnitude events
  let weightedSum : Vec Number :=
    ⟨weighted weight (fun event => event.direction.x * event.magnitude) events,
      weighted weight (fun event => event.direction.y * event.magnitude) events,
      weighted weight (fun event => event.direction.z * event.magnitude) events⟩
  if weightTotal ≤ 0 ∨ weightedMag ≤ 0 then none
  else
    let centroid := weightedSum.scale (1 / weightTotal)
    if centroid.norm math < 0.000000001 then none
    else
      let meanDir := centroid.scale (1 / centroid.norm math)
      let meanCos := weighted weight (fun event => event.direction.dot meanDir) events / weightTotal
      if meanCos < kConsistencyCosine then none else some (meanDir, weightedMag / weightTotal)

/-- `PredictNext`: a direction and a magnitude. -/
def Buffer.predictNext (buffer : Buffer Number) (now : Number) : Option (Vec Number × Number) :=
  if buffer.liveCount < kMinEvents then none else predict math (recency math now) buffer.live

/-- `ComputePerTickNudge`. -/
def Buffer.computePerTickNudge (buffer : Buffer Number) (now dtSec capMps : Number) : Vec Number :=
  match buffer.predictNext math now with
  | none => Vec.zero
  | some (dir, mag) =>
    if dtSec ≤ 0 then Vec.zero
    else
      let step := dir.scale (kAmount * mag)
      if capMps * dtSec < step.norm math then
        (step.normalized math).scale (capMps * dtSec)
      else step

/-! ### Ticks -/

variable (Number) in
/-- The buffer, the time of the last tick that counted, and the translation in centimetres. The
clock is the time of the last event of any kind, recorded for the specification only. -/
structure Recovery where
  buffer : Buffer Number := {}
  lastTickTime : Number := -1
  calibratedTranslation : Vec Number := Vec.zero
  clock : Number := 0

variable (Number) in
structure TickInputs where
  predictiveRecoveryEnabled : Bool := true
  validProfile : Bool := true
  state : CalibrationState := .continuous
  now : Number

/-- A calibration with samples of its own is under way. -/
def oneShot : CalibrationState → Bool
  | .begin | .rotation | .translation => true
  | _ => false

/-- The tick gets as far as the nudge. -/
def TickInputs.counts (inputs : TickInputs Number) : Bool :=
  inputs.predictiveRecoveryEnabled && inputs.validProfile && !oneShot inputs.state

def Recovery.elapsed (recovery : Recovery Number) (inputs : TickInputs Number) : Number :=
  if 0 < recovery.lastTickTime then inputs.now - recovery.lastTickTime else 0

/-- The nudge of a tick, in metres. -/
def Recovery.nudge (recovery : Recovery Number) (inputs : TickInputs Number) : Vec Number :=
  if inputs.counts then
    recovery.buffer.computePerTickNudge math inputs.now (recovery.elapsed inputs)
      kPredictiveRateCapMps
  else Vec.zero

/-- `TickPredictiveRecovery`. -/
def tickPredictiveRecovery (recovery : Recovery Number) (inputs : TickInputs Number) :
    Recovery Number :=
  if !inputs.predictiveRecoveryEnabled then
    { recovery with buffer := {}, lastTickTime := -1, clock := inputs.now }
  else if !inputs.validProfile then { recovery with clock := inputs.now }
  else if oneShot inputs.state then { recovery with clock := inputs.now }
  else
    let ticked := { recovery with lastTickTime := inputs.now, clock := inputs.now }
    let step := recovery.nudge math inputs
    if step.norm math ≤ 0 then ticked
    else
      { ticked with
        calibratedTranslation := recovery.calibratedTranslation.add (step.scale (-100.0)) }

variable (Number) in
/-- A jump that makes the detector recover, or a tick. -/
inductive Event where
  | recover (delta : Vec Number) (now : Number)
  | tick (inputs : TickInputs Number)

def Event.now : Event Number → Number
  | .recover _ now => now
  | .tick inputs => inputs.now

/-- A recovery also starts the calibration from no translation. -/
def step (recovery : Recovery Number) : Event Number → Option (Recovery Number)
  | .recover delta now =>
    some { recovery with
      buffer := recovery.buffer.push math delta now
      calibratedTranslation := Vec.zero
      clock := now }
  | .tick inputs => some (tickPredictiveRecovery math recovery inputs)

/-- The times do not go back. -/
def Timely (recovery : Recovery Number) (event : Event Number) : Prop :=
  recovery.clock ≤ event.now

/-- The ticks are in order, from the clock on. -/
structure Ordered (clock : Number) (ticks : List (TickInputs Number)) : Prop where
  later : ∀ inputs ∈ ticks, clock ≤ inputs.now
  ordered : ticks.Pairwise fun earlier later => earlier.now ≤ later.now

/-- The nudges of a run of ticks. -/
def nudges : Recovery Number → List (TickInputs Number) → List (Vec Number)
  | _, [] => []
  | recovery, inputs :: rest =>
    recovery.nudge math inputs :: nudges (tickPredictiveRecovery math recovery inputs) rest

/-- The times that the ticks with a prediction take. -/
def durations : Recovery Number → List (TickInputs Number) → List Number
  | _, [] => []
  | recovery, inputs :: rest =>
    (if inputs.counts && (recovery.buffer.predictNext math inputs.now).isSome then
      recovery.elapsed inputs else 0) ::
      durations (tickPredictiveRecovery math recovery inputs) rest

/-- The length of all nudges of a run together. -/
def totalNudge (recovery : Recovery Number) (ticks : List (TickInputs Number)) : Number :=
  (Vec.sum (nudges math recovery ticks)).norm math

/-- The interval holds the ticks of a run and the last tick before them that counted. -/
structure Spans (since finish : Number) (recovery : Recovery Number)
    (ticks : List (TickInputs Number)) : Prop where
  starts : recovery.lastTickTime ≤ 0 ∨ since ≤ recovery.lastTickTime
  holds : ∀ inputs ∈ ticks, since ≤ inputs.now ∧ inputs.now ≤ finish

end Recovery

/-! ### Vectors over the reals -/

noncomputable def realFunctions : MathFunctions ℝ where
  sqrt := Real.sqrt
  exp := Real.exp

theorem norm_scale (factor : ℝ) (vector : Vec ℝ) :
    (vector.scale factor).norm realFunctions = |factor| * vector.norm realFunctions := by
  have squared : (vector.scale factor).squaredNorm = factor ^ 2 * vector.squaredNorm := by
    unfold Vec.squaredNorm Vec.dot Vec.scale
    ring
  unfold Vec.norm
  rw [squared, ← Real.sqrt_sq_eq_abs]
  exact Real.sqrt_mul (sq_nonneg factor) _

theorem norm_zero : (Vec.zero : Vec ℝ).norm realFunctions = 0 := by
  simp [Vec.norm, Vec.squaredNorm, Vec.dot, Vec.zero, realFunctions]

theorem squaredNorm_of_norm {vector : Vec ℝ} (positive : 0 < vector.norm realFunctions) :
    0 < vector.squaredNorm :=
  Real.sqrt_pos.mp positive

theorem scale_scale (first second : ℝ) (vector : Vec ℝ) :
    (vector.scale first).scale second = vector.scale (second * first) := by
  unfold Vec.scale
  simp only [mul_assoc]

theorem scale_zero (vector : Vec ℝ) : vector.scale 0 = Vec.zero := by
  simp only [Vec.scale, Vec.zero, zero_mul]

/-- Vectors of one direction add up as their lengths do. -/
theorem sum_scale (dir : Vec ℝ) (lengths : List ℝ) :
    Vec.sum (lengths.map dir.scale) = dir.scale lengths.sum := by
  induction lengths with
  | nil => exact (scale_zero dir).symm
  | cons length rest inductionHypothesis =>
    unfold Vec.sum at inductionHypothesis ⊢
    rw [List.map_cons, List.foldr_cons, inductionHypothesis, List.sum_cons]
    unfold Vec.add Vec.scale
    simp only [add_mul]

/-! ### The prediction does not age -/

theorem weighted_scale (factor : ℝ) (weight quantity : RecoveryEvent ℝ → ℝ)
    (events : List (RecoveryEvent ℝ)) :
    weighted (fun event => factor * weight event) quantity events =
      factor * weighted weight quantity events := by
  unfold weighted
  rw [← List.sum_map_mul_left]
  simp only [mul_assoc]

/-- Weights that are all the same times larger predict the same. -/
theorem predict_scale {factor : ℝ} (positive : 0 < factor) (weight : RecoveryEvent ℝ → ℝ)
    (events : List (RecoveryEvent ℝ)) :
    predict realFunctions (fun event => factor * weight event) events =
      predict realFunctions weight events := by
  have sign : ∀ value : ℝ, factor * value ≤ 0 ↔ value ≤ 0 := fun value =>
    ⟨fun small => nonpos_of_mul_nonpos_right small positive,
      fun small => mul_nonpos_of_nonneg_of_nonpos positive.le small⟩
  have centroid : ∀ total x y z : ℝ,
      Vec.scale (1 / (factor * total)) ⟨factor * x, factor * y, factor * z⟩ =
        Vec.scale (1 / total) ⟨x, y, z⟩ := by
    intro total x y z
    have quotient : ∀ part : ℝ, 1 / (factor * total) * (factor * part) = 1 / total * part := by
      intro part
      rw [one_div_mul_eq_div, one_div_mul_eq_div, mul_div_mul_left _ _ positive.ne']
    unfold Vec.scale
    rw [quotient, quotient, quotient]
  unfold predict
  simp only [weighted_scale, sign, centroid, mul_div_mul_left _ _ positive.ne']

theorem predict_congr {first second : RecoveryEvent ℝ → ℝ} {events : List (RecoveryEvent ℝ)}
    (same : ∀ event ∈ events, first event = second event) :
    predict realFunctions first events = predict realFunctions second events := by
  have sums : ∀ quantity, weighted first quantity events = weighted second quantity events := by
    intro quantity
    unfold weighted
    refine congrArg List.sum (List.map_congr_left fun event among => ?_)
    rw [same event among]
  unfold predict
  simp only [sums]

/-- The weights of past events age together. -/
theorem recency_later {now later : ℝ} {event : RecoveryEvent ℝ} (past : event.timestamp ≤ now)
    (forward : now ≤ later) :
    recency realFunctions later event =
      Real.exp (-(later - now) / kHalfLifeSec) * recency realFunctions now event := by
  unfold recency realFunctions
  dsimp only
  rw [← Real.exp_add, max_eq_right (sub_nonneg.mpr past),
    max_eq_right (sub_nonneg.mpr (past.trans forward))]
  congr 1
  ring

theorem predictNext_later {buffer : Buffer ℝ} {now later : ℝ}
    (past : ∀ slot, (buffer.events slot).timestamp ≤ now) (forward : now ≤ later) :
    buffer.predictNext realFunctions later = buffer.predictNext realFunctions now := by
  unfold Buffer.predictNext
  split
  · rfl
  · rw [← predict_scale (Real.exp_pos (-(later - now) / kHalfLifeSec)) (recency realFunctions now)]
    refine predict_congr fun event among => recency_later ?_ forward
    obtain ⟨slot, -, rfl⟩ := List.mem_map.mp among
    exact past slot

/-- A prediction has a unit direction and a positive magnitude. -/
theorem predictNext_unit {buffer : Buffer ℝ} {now mag : ℝ} {dir : Vec ℝ}
    (predicted : buffer.predictNext realFunctions now = some (dir, mag)) :
    dir.norm realFunctions = 1 ∧ 0 < mag := by
  unfold Buffer.predictNext at predicted
  split at predicted
  · cases predicted
  · unfold predict at predicted
    dsimp only at predicted
    split at predicted
    · cases predicted
    · rename_i positive
      obtain ⟨total, magnitude⟩ := not_or.mp positive
      split at predicted
      · cases predicted
      · rename_i large
        split at predicted
        · cases predicted
        · obtain ⟨rfl, rfl⟩ := Prod.mk.inj (Option.some.inj predicted)
          refine ⟨?_, div_pos (not_le.mp magnitude) (not_le.mp total)⟩
          have length := (by norm_num : (0 : ℝ) < 0.000000001).trans_le (not_lt.mp large)
          rw [norm_scale, abs_of_pos (one_div_pos.mpr length), one_div_mul_cancel length.ne']

/-! ### Nudges -/

/-- What a tick of the given time applies under a prediction. -/
noncomputable def nudgeOf : Option (Vec ℝ × ℝ) → ℝ → Vec ℝ
  | none, _ => Vec.zero
  | some (dir, mag), time => dir.scale (min (kAmount * mag) (kPredictiveRateCapMps * time))

theorem amount_pos {mag : ℝ} (positive : 0 < mag) : 0 < kAmount * mag :=
  mul_pos (by norm_num [kAmount]) positive

theorem rateCap_pos : (0 : ℝ) < kPredictiveRateCapMps := by
  norm_num [kPredictiveRateCapMps]

theorem nudgeOf_zero {buffer : Buffer ℝ} {now : ℝ} :
    nudgeOf (buffer.predictNext realFunctions now) 0 = Vec.zero := by
  cases predicted : buffer.predictNext realFunctions now with
  | none => rfl
  | some prediction =>
    obtain ⟨dir, mag⟩ := prediction
    unfold nudgeOf
    dsimp only
    rw [mul_zero, min_eq_right (amount_pos (predictNext_unit predicted).2).le, scale_zero]

theorem computePerTickNudge_eq (buffer : Buffer ℝ) (now : ℝ) {time : ℝ} (nonneg : 0 ≤ time) :
    buffer.computePerTickNudge realFunctions now time kPredictiveRateCapMps =
      nudgeOf (buffer.predictNext realFunctions now) time := by
  rcases nonneg.eq_or_lt with rfl | positive
  · rw [nudgeOf_zero]
    unfold Buffer.computePerTickNudge
    split
    · rfl
    · rw [if_pos le_rfl]
  · unfold Buffer.computePerTickNudge
    cases predicted : buffer.predictNext realFunctions now with
    | none => rfl
    | some prediction =>
      obtain ⟨dir, mag⟩ := prediction
      obtain ⟨unit, large⟩ := predictNext_unit predicted
      have amount := amount_pos large
      have length : (dir.scale (kAmount * mag)).norm realFunctions = kAmount * mag := by
        rw [norm_scale, unit, mul_one, abs_of_pos amount]
      dsimp only
      rw [if_neg positive.not_ge, length]
      unfold nudgeOf
      dsimp only
      split
      · rename_i cut
        unfold Vec.normalized
        rw [if_pos (squaredNorm_of_norm (length.symm ▸ amount)), length, scale_scale, scale_scale,
          min_eq_right cut.le, mul_assoc, one_div_mul_cancel amount.ne', mul_one]
      · rename_i whole
        rw [min_eq_left (not_lt.mp whole)]

/-! ### Runs of ticks -/

/-- The events of the buffer and the last tick are past. -/
structure Dated (recovery : Recovery ℝ) : Prop where
  nonneg : 0 ≤ recovery.clock
  lastTick : recovery.lastTickTime ≤ recovery.clock
  past : ∀ slot, (recovery.buffer.events slot).timestamp ≤ recovery.clock

/-- The outcomes of a tick. -/
inductive Ticked (recovery : Recovery ℝ) (inputs : TickInputs ℝ) : Recovery ℝ → Prop
  | cleared (translation : Vec ℝ) : inputs.counts = false →
      Ticked recovery inputs
        { buffer := {}, lastTickTime := -1, calibratedTranslation := translation
          clock := inputs.now }
  | skipped : inputs.counts = false → Ticked recovery inputs { recovery with clock := inputs.now }
  | counted (translation : Vec ℝ) : inputs.counts = true →
      Ticked recovery inputs
        { recovery with
          lastTickTime := inputs.now
          clock := inputs.now
          calibratedTranslation := translation }

theorem ticked (recovery : Recovery ℝ) (inputs : TickInputs ℝ) :
    Ticked recovery inputs (tickPredictiveRecovery realFunctions recovery inputs) := by
  unfold tickPredictiveRecovery
  cases enabled : inputs.predictiveRecoveryEnabled with
  | false =>
    refine .cleared _ ?_
    unfold TickInputs.counts
    rw [enabled, Bool.false_and, Bool.false_and]
  | true =>
    cases valid : inputs.validProfile with
    | false =>
      refine .skipped ?_
      unfold TickInputs.counts
      rw [enabled, valid, Bool.true_and, Bool.false_and]
    | true =>
      cases shot : oneShot inputs.state with
      | true =>
        refine .skipped ?_
        unfold TickInputs.counts
        rw [enabled, valid, shot, Bool.not_true, Bool.and_false]
      | false =>
        have counts : inputs.counts = true := by
          unfold TickInputs.counts
          rw [enabled, valid, shot, Bool.not_false, Bool.and_self, Bool.and_self]
        simp only [Bool.not_true, Bool.false_eq_true, if_false]
        split
        · exact .counted _ counts
        · exact .counted _ counts

theorem Dated.tick {recovery : Recovery ℝ} (dated : Dated recovery) {inputs : TickInputs ℝ}
    (later : recovery.clock ≤ inputs.now) :
    Dated (tickPredictiveRecovery realFunctions recovery inputs) := by
  have forward := dated.nonneg.trans later
  have outcome := ticked recovery inputs
  generalize tickPredictiveRecovery realFunctions recovery inputs = after at outcome
  cases outcome with
  | cleared translation _ =>
    exact ⟨forward, (by norm_num : (-1 : ℝ) ≤ 0).trans forward, fun _ => forward⟩
  | skipped _ =>
    exact ⟨forward, dated.lastTick.trans later, fun slot => (dated.past slot).trans later⟩
  | counted translation _ => exact ⟨forward, le_rfl, fun slot => (dated.past slot).trans later⟩

theorem dated_of_reaches {recovery : Recovery ℝ}
    (reached : Reaches (step realFunctions) Timely {} recovery) : Dated recovery := by
  refine reached.invariant ⟨le_rfl, by norm_num, fun _ => le_rfl⟩ ?_
  intro before event after dated timely stepped
  cases event with
  | recover delta now =>
    obtain rfl := Option.some.inj stepped
    have later : before.clock ≤ now := timely
    refine ⟨dated.nonneg.trans later, dated.lastTick.trans later, fun slot => ?_⟩
    unfold Buffer.push
    dsimp only
    by_cases own : slot = before.buffer.count % kBufferSize
    · rw [own, Function.update_self]
    · rw [Function.update_of_ne own]
      exact (dated.past slot).trans later
  | tick inputs =>
    obtain rfl := Option.some.inj stepped
    exact dated.tick timely

/-- The prediction at the clock. -/
noncomputable def Recovery.prediction (recovery : Recovery ℝ) : Option (Vec ℝ × ℝ) :=
  recovery.buffer.predictNext realFunctions recovery.clock

theorem elapsed_nonneg {recovery : Recovery ℝ} (dated : Dated recovery) {inputs : TickInputs ℝ}
    (later : recovery.clock ≤ inputs.now) : 0 ≤ recovery.elapsed inputs := by
  unfold Recovery.elapsed
  split
  · exact sub_nonneg.mpr (dated.lastTick.trans later)
  · exact le_rfl

theorem predictNext_empty (now : ℝ) :
    ({} : Buffer ℝ).predictNext realFunctions now = none :=
  rfl

theorem Ordered.tail {clock : ℝ} {inputs : TickInputs ℝ} {rest : List (TickInputs ℝ)}
    (ordered : Ordered clock (inputs :: rest)) : Ordered inputs.now rest :=
  ⟨(List.pairwise_cons.mp ordered.ordered).1, (List.pairwise_cons.mp ordered.ordered).2⟩

theorem tick_clock (recovery : Recovery ℝ) (inputs : TickInputs ℝ) :
    (tickPredictiveRecovery realFunctions recovery inputs).clock = inputs.now := by
  have outcome := ticked recovery inputs
  generalize tickPredictiveRecovery realFunctions recovery inputs = after at outcome
  cases outcome with
  | cleared translation _ => rfl
  | skipped _ => rfl
  | counted translation _ => rfl

/-- A tick keeps the prediction, or clears it. -/
theorem tick_prediction {recovery : Recovery ℝ} (dated : Dated recovery) {inputs : TickInputs ℝ}
    (later : recovery.clock ≤ inputs.now) :
    (tickPredictiveRecovery realFunctions recovery inputs).prediction = recovery.prediction ∨
      (tickPredictiveRecovery realFunctions recovery inputs).prediction = none := by
  have outcome := ticked recovery inputs
  generalize tickPredictiveRecovery realFunctions recovery inputs = after at outcome
  cases outcome with
  | cleared translation _ => exact Or.inr (predictNext_empty inputs.now)
  | skipped _ => exact Or.inl (predictNext_later dated.past later)
  | counted translation _ => exact Or.inl (predictNext_later dated.past later)

/-- The nudge of a tick, under the prediction at the clock. -/
theorem nudge_eq {recovery : Recovery ℝ} (dated : Dated recovery) {inputs : TickInputs ℝ}
    (later : recovery.clock ≤ inputs.now) :
    recovery.nudge realFunctions inputs = nudgeOf recovery.prediction
      (if inputs.counts && recovery.prediction.isSome then recovery.elapsed inputs else 0) := by
  have aged := predictNext_later dated.past later
  have still : nudgeOf recovery.prediction 0 = Vec.zero := nudgeOf_zero
  unfold Recovery.nudge
  cases counts : inputs.counts with
  | false =>
    rw [if_neg Bool.false_ne_true, Bool.false_and, if_neg Bool.false_ne_true, still]
  | true =>
    rw [if_pos rfl, computePerTickNudge_eq _ _ (elapsed_nonneg dated later), aged, Bool.true_and]
    cases predicted : recovery.prediction with
    | none =>
      rw [show recovery.buffer.predictNext realFunctions recovery.clock = none from predicted]
      rfl
    | some prediction =>
      rw [show recovery.buffer.predictNext realFunctions recovery.clock = some prediction
        from predicted]
      rfl

/-- The nudges of a run, under the prediction at its start. -/
theorem nudges_eq {recovery : Recovery ℝ} {ticks : List (TickInputs ℝ)} (dated : Dated recovery)
    (ordered : Ordered recovery.clock ticks) :
    nudges realFunctions recovery ticks =
      (durations realFunctions recovery ticks).map (nudgeOf recovery.prediction) ∧
    (∀ time ∈ durations realFunctions recovery ticks, 0 ≤ time) ∧
    (recovery.prediction = none → ∀ time ∈ durations realFunctions recovery ticks, time = 0) := by
  induction ticks generalizing recovery with
  | nil => exact ⟨rfl, nofun, nofun⟩
  | cons inputs rest inductionHypothesis =>
    have later := ordered.later inputs List.mem_cons_self
    have aged := predictNext_later dated.past later
    have first := nudge_eq dated later
    have kept := tick_prediction dated later
    have still : nudgeOf recovery.prediction 0 = Vec.zero := nudgeOf_zero
    obtain ⟨same, nonneg, silent⟩ := inductionHypothesis (dated.tick later)
      ((tick_clock recovery inputs).symm ▸ ordered.tail)
    unfold nudges durations
    rw [aged, show recovery.buffer.predictNext realFunctions recovery.clock =
      recovery.prediction from rfl, List.map_cons, ← first, same, List.forall_mem_cons,
      List.forall_mem_cons]
    refine ⟨congrArg _ (List.map_congr_left fun time among => ?_), ⟨?_, nonneg⟩, fun absent => ?_⟩
    · rcases kept with kept | cleared
      · rw [kept]
      · rw [silent cleared time among, cleared, still]
        rfl
    · split
      · exact elapsed_nonneg dated later
      · exact le_rfl
    · rw [absent]
      refine ⟨if_neg (by simp), silent ?_⟩
      rcases kept with kept | cleared
      · rw [kept, absent]
      · exact cleared

/-! ### Totals -/

theorem totalNudge_of_none {recovery : Recovery ℝ} {ticks : List (TickInputs ℝ)}
    (dated : Dated recovery) (ordered : Ordered recovery.clock ticks)
    (absent : recovery.prediction = none) : totalNudge realFunctions recovery ticks = 0 := by
  obtain ⟨same, -, -⟩ := nudges_eq dated ordered
  have still : nudgeOf none = fun length => Vec.scale length (Vec.zero : Vec ℝ) := by
    funext length
    simp only [nudgeOf, Vec.scale, Vec.zero, mul_zero]
  unfold totalNudge
  rw [same, absent, still, sum_scale, norm_scale, norm_zero, mul_zero]

/-- The nudges go one way, so their lengths add up. -/
theorem totalNudge_of_some {recovery : Recovery ℝ} {ticks : List (TickInputs ℝ)} {dir : Vec ℝ}
    {mag : ℝ} (dated : Dated recovery) (ordered : Ordered recovery.clock ticks)
    (predicted : recovery.prediction = some (dir, mag)) :
    totalNudge realFunctions recovery ticks =
      (((durations realFunctions recovery ticks).map (kPredictiveRateCapMps * ·)).map
        (min (kAmount * mag))).sum := by
  obtain ⟨unit, large⟩ := predictNext_unit predicted
  obtain ⟨same, nonneg, -⟩ := nudges_eq dated ordered
  have lengths : (durations realFunctions recovery ticks).map (nudgeOf recovery.prediction) =
      (((durations realFunctions recovery ticks).map (kPredictiveRateCapMps * ·)).map
        (min (kAmount * mag))).map (fun length => dir.scale length) := by
    rw [List.map_map, List.map_map, predicted]
    rfl
  unfold totalNudge
  rw [same, lengths, sum_scale, norm_scale, unit, mul_one]
  refine abs_of_nonneg (List.sum_nonneg (List.forall_mem_map.mpr ?_))
  intro bound among
  obtain ⟨time, within, rfl⟩ := List.mem_map.mp among
  exact le_min (amount_pos large).le (mul_nonneg rateCap_pos.le (nonneg time within))

/-- The ticks of a run take no more time than the interval has. -/
theorem sum_durations_le {recovery : Recovery ℝ} {ticks : List (TickInputs ℝ)}
    (dated : Dated recovery) (ordered : Ordered recovery.clock ticks) {since finish : ℝ}
    (forward : since ≤ finish) (spans : Spans since finish recovery ticks) :
    (durations realFunctions recovery ticks).sum ≤ finish - since := by
  induction ticks generalizing recovery since with
  | nil => exact sub_nonneg.mpr forward
  | cons inputs rest inductionHypothesis =>
    obtain ⟨starts, holds⟩ := spans
    obtain ⟨⟨after, before⟩, others⟩ := List.forall_mem_cons.mp holds
    have later := ordered.later inputs List.mem_cons_self
    have following : Ordered (tickPredictiveRecovery realFunctions recovery inputs).clock rest :=
      (tick_clock recovery inputs).symm ▸ ordered.tail
    have step : ∀ since, since ≤ finish →
        Spans since finish (tickPredictiveRecovery realFunctions recovery inputs) rest →
          (durations realFunctions (tickPredictiveRecovery realFunctions recovery inputs)
            rest).sum ≤ finish - since :=
      fun since => inductionHypothesis (dated.tick later) following
    unfold durations
    rw [List.sum_cons]
    have outcome := ticked recovery inputs
    generalize tickPredictiveRecovery realFunctions recovery inputs = next at outcome step
    cases outcome with
    | cleared translation skips =>
      rw [skips, Bool.false_and, if_neg Bool.false_ne_true, zero_add]
      exact step since forward ⟨Or.inl (by norm_num), others⟩
    | skipped skips =>
      rw [skips, Bool.false_and, if_neg Bool.false_ne_true, zero_add]
      exact step since forward ⟨starts, others⟩
    | counted translation counts =>
      have remaining := step inputs.now before ⟨Or.inr le_rfl, fun other among =>
        ⟨ordered.tail.later other among, (others other among).2⟩⟩
      have own : recovery.elapsed inputs ≤ inputs.now - since := by
        unfold Recovery.elapsed
        split
        · rename_i running
          exact sub_le_sub_left (starts.resolve_left running.not_ge) inputs.now
        · exact sub_nonneg.mpr after
      split
      · linarith
      · linarith

/-- The nudges of every run of ticks keep to the rate cap over every interval, and without a
prediction there are none. With one they stay within the tenth of its magnitude exactly if the cap
times the time of the ticks does, or at most one tick takes any time. -/
theorem nudge_within_iff {recovery : Recovery ℝ} {ticks : List (TickInputs ℝ)}
    (reached : Reaches (step realFunctions) Timely {} recovery)
    (ordered : Ordered recovery.clock ticks) :
    (∀ since finish, since ≤ finish → Spans since finish recovery ticks →
      totalNudge realFunctions recovery ticks ≤ kPredictiveRateCapMps * (finish - since)) ∧
    (recovery.buffer.predictNext realFunctions recovery.clock = none →
      totalNudge realFunctions recovery ticks = 0) ∧
    ∀ dir mag, recovery.buffer.predictNext realFunctions recovery.clock = some (dir, mag) →
      (totalNudge realFunctions recovery ticks ≤ kAmount * mag ↔
        kPredictiveRateCapMps * (durations realFunctions recovery ticks).sum ≤ kAmount * mag ∨
        AtMostOne (durations realFunctions recovery ticks)) := by
  have dated := dated_of_reaches reached
  obtain ⟨-, nonneg, -⟩ := nudges_eq dated ordered
  have bounds : ∀ bound ∈ (durations realFunctions recovery ticks).map
      (kPredictiveRateCapMps * ·), 0 ≤ bound :=
    List.forall_mem_map.mpr fun time among => mul_nonneg rateCap_pos.le (nonneg time among)
  have scaled : ((durations realFunctions recovery ticks).map (kPredictiveRateCapMps * ·)).sum =
      kPredictiveRateCapMps * (durations realFunctions recovery ticks).sum := by
    rw [List.sum_map_mul_left, List.map_id']
  refine ⟨fun since finish forward spans => ?_, totalNudge_of_none dated ordered,
    fun dir mag predicted => ?_⟩
  · have time := sum_durations_le dated ordered forward spans
    cases predicted : recovery.prediction with
    | none =>
      rw [totalNudge_of_none dated ordered predicted]
      exact mul_nonneg rateCap_pos.le (sub_nonneg.mpr forward)
    | some prediction =>
      obtain ⟨dir, mag⟩ := prediction
      rw [totalNudge_of_some dated ordered predicted]
      refine (sum_min_le_sum _ _).trans ?_
      rw [scaled]
      exact mul_le_mul_of_nonneg_left time rateCap_pos.le
  · have amount := amount_pos (predictNext_unit predicted).2
    have one : AtMostOne ((durations realFunctions recovery ticks).map
        (kPredictiveRateCapMps * ·)) ↔ AtMostOne (durations realFunctions recovery ticks) := by
      unfold AtMostOne
      rw [List.countP_map]
      simp only [Function.comp_def, mul_pos_iff_of_pos_left rateCap_pos]
    rw [totalNudge_of_some dated ordered predicted, sum_min_le_iff amount.le bounds, scaled, one]
    exact or_iff_right amount.ne'

/-! ### Three jumps -/

theorem weighted_const {weight quantity : RecoveryEvent ℝ → ℝ} {events : List (RecoveryEvent ℝ)}
    {value : ℝ} (same : ∀ event ∈ events, quantity event = value) :
    weighted weight quantity events = value * weighted weight (fun _ => 1) events := by
  unfold weighted
  rw [← List.sum_map_mul_left]
  refine congrArg List.sum (List.map_congr_left fun event among => ?_)
  rw [same event among, mul_one, mul_comm]

/-- Events that are all the same predict another one. -/
theorem predict_same {weight : RecoveryEvent ℝ → ℝ} {events : List (RecoveryEvent ℝ)}
    {unit : Vec ℝ} {mag : ℝ} (length : unit.squaredNorm = 1) (large : 0.000000001 ≤ mag)
    (weighs : 0 < weighted weight (fun _ => 1) events)
    (same : ∀ event ∈ events, event.direction = unit ∧ event.magnitude = mag) :
    predict realFunctions weight events = some (unit, mag) := by
  have positive : 0 < mag := (by norm_num : (0 : ℝ) < 0.000000001).trans_le large
  have magnitude : weighted weight RecoveryEvent.magnitude events =
      mag * weighted weight (fun _ => 1) events := weighted_const fun event among =>
    (same event among).2
  have part : ∀ part : Vec ℝ → ℝ,
      weighted weight (fun event => part event.direction * event.magnitude) events =
        part unit * mag * weighted weight (fun _ => 1) events := fun part =>
    weighted_const fun event among => by rw [(same event among).1, (same event among).2]
  have cosine : weighted weight (fun event => event.direction.dot unit) events =
      weighted weight (fun _ => 1) events := by
    rw [weighted_const fun event among => by rw [(same event among).1]]
    rw [show unit.dot unit = 1 from length, one_mul]
  have unit_norm : unit.norm realFunctions = 1 := by
    unfold Vec.norm
    rw [length]
    exact Real.sqrt_one
  have centroid : Vec.scale (1 / weighted weight (fun _ => 1) events)
      ⟨weighted weight (fun event => event.direction.x * event.magnitude) events,
        weighted weight (fun event => event.direction.y * event.magnitude) events,
        weighted weight (fun event => event.direction.z * event.magnitude) events⟩ =
      unit.scale mag := by
    have quotient : ∀ part : ℝ, 1 / weighted weight (fun _ => 1) events *
        (part * mag * weighted weight (fun _ => 1) events) = mag * part := by
      intro part
      field_simp
    rw [part Vec.x, part Vec.y, part Vec.z]
    unfold Vec.scale
    rw [quotient, quotient, quotient]
  have direction : (unit.scale mag).scale (1 / mag) = unit := by
    rw [scale_scale, one_div_mul_cancel positive.ne']
    simp only [Vec.scale, one_mul]
  have norm : (unit.scale mag).norm realFunctions = mag := by
    rw [norm_scale, unit_norm, mul_one, abs_of_pos positive]
  have weighty : 0 < weighted weight RecoveryEvent.magnitude events := by
    rw [magnitude]
    exact mul_pos positive weighs
  unfold predict
  dsimp only
  rw [if_neg (not_or.mpr ⟨weighs.not_ge, weighty.not_ge⟩), centroid, norm, if_neg large.not_gt,
    direction, cosine, div_self weighs.ne', if_neg (by norm_num [kConsistencyCosine]), magnitude,
    mul_div_cancel_right₀ mag weighs.ne']

/-- A jump of 30 cm. -/
noncomputable def jump : Vec ℝ :=
  ⟨0.3, 0, 0⟩

theorem jump_norm : jump.norm realFunctions = 3 / 10 := by
  have square : jump.squaredNorm = (3 / 10) ^ 2 := by
    norm_num [jump, Vec.squaredNorm, Vec.dot]
  unfold Vec.norm
  rw [square]
  exact Real.sqrt_sq (by norm_num)

/-- The buffer after three jumps, a second apart. -/
noncomputable def jumps : Buffer ℝ :=
  ((({} : Buffer ℝ).push realFunctions jump 1).push realFunctions jump 2.0).push
    realFunctions jump 3.0

theorem jumps_eq : jumps = ((({} : Buffer ℝ).push realFunctions jump 1).push
    realFunctions jump 2).push realFunctions jump 3 := by
  norm_num [jumps]

theorem jumps_slots : jumps.live = [jumps.events 0, jumps.events 1, jumps.events 2] :=
  rfl

theorem jumps_live (event : RecoveryEvent ℝ) (among : event ∈ jumps.live) :
    event.direction = ⟨1, 0, 0⟩ ∧ event.magnitude = 3 / 10 := by
  have unit : (if 0.000000001 < jump.norm realFunctions then
      jump.scale (1 / jump.norm realFunctions) else Vec.zero) = ⟨1, 0, 0⟩ := by
    rw [jump_norm, if_pos (by norm_num)]
    norm_num [jump, Vec.scale]
  have stored : ∀ time : ℝ, ({
      direction := if 0.000000001 < jump.norm realFunctions then
        jump.scale (1 / jump.norm realFunctions) else Vec.zero
      magnitude := jump.norm realFunctions
      timestamp := time } : RecoveryEvent ℝ) = ⟨⟨1, 0, 0⟩, 3 / 10, time⟩ := by
    intro time
    rw [unit, jump_norm]
  rw [jumps_slots] at among
  simp only [jumps, Buffer.push, kBufferSize, stored, Nat.zero_mod, List.mem_cons,
    List.not_mem_nil, or_false, Function.update_apply] at among
  rcases among with rfl | rfl | rfl
  · exact ⟨rfl, rfl⟩
  · exact ⟨rfl, rfl⟩
  · exact ⟨rfl, rfl⟩

theorem jumps_predict (now : ℝ) :
    jumps.predictNext realFunctions now = some (⟨1, 0, 0⟩, 3 / 10) := by
  unfold Buffer.predictNext
  rw [if_neg (by decide)]
  refine predict_same (by norm_num [Vec.squaredNorm, Vec.dot]) (by norm_num) ?_ jumps_live
  have weights : ∀ time : ℝ, 0 < time * 1 ↔ 0 < time := fun time => by rw [mul_one]
  unfold weighted
  refine List.sum_pos _ (List.forall_mem_map.mpr fun event _ => ?_) ?_
  · rw [weights]
    exact Real.exp_pos _
  · rw [jumps_slots]
    exact List.cons_ne_nil _ _

/-- The state after the three jumps and a tick with the last one. -/
theorem jumped_reached : ∃ translation, Reaches (step realFunctions) Timely {}
    (⟨jumps, 3, translation, 3⟩ : Recovery ℝ) := by
  have recovered : Reaches (step realFunctions) Timely {}
      (⟨jumps, -1, Vec.zero, 3⟩ : Recovery ℝ) := by
    rw [jumps_eq]
    exact ((Reaches.start.next (.recover jump 1) (zero_le_one : (0 : ℝ) ≤ 1) rfl).next
      (.recover jump 2) (one_le_two : (1 : ℝ) ≤ 2) rfl).next (.recover jump 3)
        (by norm_num [Timely, Event.now]) rfl
  have timely : Timely (⟨jumps, -1, Vec.zero, 3⟩ : Recovery ℝ) (.tick { now := 3 }) :=
    le_refl (3 : ℝ)
  have outcome := ticked (⟨jumps, -1, Vec.zero, 3⟩ : Recovery ℝ) { now := 3 }
  have ticking := recovered.next (.tick { now := 3 }) timely rfl
  generalize tickPredictiveRecovery realFunctions _ _ = after at outcome ticking
  cases outcome with
  | cleared translation skips => cases skips
  | skipped skips => cases skips
  | counted translation _ => exact ⟨translation, ticking⟩

/-- Two ticks, twenty seconds apart. -/
def laterTicks : List (TickInputs ℝ) :=
  [{ now := 23 }, { now := 43 }]

theorem laterTicks_ordered : Ordered 3 laterTicks := by
  refine ⟨?_, ?_⟩
  · norm_num [laterTicks]
  · norm_num [laterTicks]

theorem laterTicks_durations (translation : Vec ℝ) :
    durations realFunctions ⟨jumps, 3, translation, 3⟩ laterTicks = [20, 20] := by
  have outcome := ticked (⟨jumps, 3, translation, 3⟩ : Recovery ℝ) { now := 23 }
  have first : (⟨jumps, 3, translation, 3⟩ : Recovery ℝ).elapsed { now := 23 } = 20 := by
    norm_num [Recovery.elapsed]
  unfold laterTicks durations
  rw [jumps_predict, first]
  generalize tickPredictiveRecovery realFunctions _ _ = after at outcome
  cases outcome with
  | cleared translation skips => cases skips
  | skipped skips => cases skips
  | counted moved _ =>
    have second : (⟨jumps, 23, moved, 23⟩ : Recovery ℝ).elapsed { now := 43 } = 20 := by
      norm_num [Recovery.elapsed]
    unfold durations durations
    dsimp only
    rw [jumps_predict, second]
    rfl

theorem nudge_within_iff_jumped : ∃ recovery : Recovery ℝ,
    recovery.buffer.predictNext realFunctions recovery.clock = some (⟨1, 0, 0⟩, 3 / 10) ∧
    (totalNudge realFunctions recovery laterTicks ≤ kAmount * (3 / 10) ↔
      kPredictiveRateCapMps * (durations realFunctions recovery laterTicks).sum ≤
        kAmount * (3 / 10) ∨ AtMostOne (durations realFunctions recovery laterTicks)) := by
  obtain ⟨translation, reached⟩ := jumped_reached
  exact ⟨_, jumps_predict 3,
    (nudge_within_iff reached laterTicks_ordered).2.2 _ _ (jumps_predict 3)⟩

/-- A tenth of 30 cm is predicted, and the two ticks nudge by 2 cm each. -/
theorem nudge_exceeds : ∃ recovery : Recovery ℝ,
    Reaches (step realFunctions) Timely {} recovery ∧ Ordered recovery.clock laterTicks ∧
    recovery.buffer.predictNext realFunctions recovery.clock = some (⟨1, 0, 0⟩, 3 / 10) ∧
    ¬totalNudge realFunctions recovery laterTicks ≤ kAmount * (3 / 10) := by
  obtain ⟨translation, reached⟩ := jumped_reached
  refine ⟨_, reached, laterTicks_ordered, jumps_predict 3, ?_⟩
  rw [totalNudge_of_some (dated_of_reaches reached) laterTicks_ordered (jumps_predict 3),
    laterTicks_durations]
  norm_num [kPredictiveRateCapMps, kAmount]

end PairDriver.Predictive
