/-
This file shows that the driver's blend gets where it is to go. While the target of a device
stays, every update takes the device a share of the rest of the way, both in place and in
angle, and never past it. The share is the elapsed time at the speed of the device's level,
times a gate if the calibration is to hide in motion; the gate never closes further than a
tenth, so that a device at rest arrives as well. The overlay repeats its push at every scan,
and a repeated push changes nothing but the clock.

The space is a parameter, with the laws of a norm and of the spherical interpolation.
-/

import PairDriver.PoseHookRace

namespace PairDriver.Provider

/-! ### Space -/

/-- Vectors and rotations, with the operations of `IsoTransform`. -/
structure Space (Vec Rot : Type) where
  one : Rot
  mul : Rot → Rot → Rot
  act : Rot → Vec → Vec
  slerp : Rot → Rat → Rot → Rot
  norm : Vec → Rat
  angle : Rot → Rot → Rat
  degrees : Rat → Rat
  motionRamp : Pose Vec Rot → Rat

section Space

variable {Vec Rot : Type} [AddCommGroup Vec] [Module Rat Vec] (space : Space Vec Rot)

/-- What the blend relies on. -/
structure Space.Lawful : Prop where
  norm_nonneg : ∀ vector, 0 ≤ space.norm vector
  norm_smul : ∀ (share : Rat) vector, 0 ≤ share →
    space.norm (share • vector) = share * space.norm vector
  angle_nonneg : ∀ first second, 0 ≤ space.angle first second
  angle_slerp : ∀ (share : Rat) source target, 0 ≤ share → share ≤ 1 →
    space.angle (space.slerp source share target) target =
      (1 - share) * space.angle source target

/-- The place of a point after a transform. -/
def Space.place (transform : IsoTransform Vec Rot) (point : Vec) : Vec :=
  transform.translation + space.act transform.rotation point

/-- `interpolateAround`: the place of the point goes along the line, and the rotation along its
arc. -/
def Space.interpolateAround (source : IsoTransform Vec Rot) (lerp : Rat)
    (target : IsoTransform Vec Rot) (localPoint : Vec) : IsoTransform Vec Rot :=
  let finalPos :=
    (1 - lerp) • space.place source localPoint + lerp • space.place target localPoint
  let newRotation := space.slerp source.rotation lerp target.rotation
  ⟨newRotation, finalPos - space.act newRotation localPoint⟩

def Space.geometry : Geometry Vec Rot where
  zero := 0
  identity := space.one
  scaleVec factor vector := factor • vector
  distance first second := space.norm (first - second)
  angularDistance := space.angle
  degrees := space.degrees
  compose first second :=
    ⟨space.mul first.rotation second.rotation, space.place first second.translation⟩
  interpolateAround := space.interpolateAround
  motionRamp := space.motionRamp

/-- How far a transform leaves a point from where another puts it. -/
def Space.gap (transform target : IsoTransform Vec Rot) (point : Vec) : Rat :=
  space.norm (space.place transform point - space.place target point)

theorem place_interpolateAround (source target : IsoTransform Vec Rot) (lerp : Rat)
    (point : Vec) :
    space.place (space.interpolateAround source lerp target point) point =
      (1 - lerp) • space.place source point + lerp • space.place target point := by
  rw [Space.place, Space.interpolateAround]
  exact sub_add_cancel _ _

variable {space}

theorem gap_interpolateAround (lawful : space.Lawful) {source target : IsoTransform Vec Rot}
    {lerp : Rat} (high : lerp ≤ 1) (point : Vec) :
    space.gap (space.interpolateAround source lerp target point) target point =
      (1 - lerp) * space.gap source target point := by
  have rest : (1 - lerp) • space.place source point + lerp • space.place target point -
      space.place target point =
        (1 - lerp) • (space.place source point - space.place target point) := by
    module
  rw [Space.gap, place_interpolateAround, rest, lawful.norm_smul _ _ (sub_nonneg.mpr high),
    Space.gap]

theorem angle_interpolateAround (lawful : space.Lawful) {source target : IsoTransform Vec Rot}
    {lerp : Rat} (low : 0 ≤ lerp) (high : lerp ≤ 1) (point : Vec) :
    space.angle (space.interpolateAround source lerp target point).rotation target.rotation =
      (1 - lerp) * space.angle source.rotation target.rotation :=
  lawful.angle_slerp lerp _ _ low high

/-! ### One update -/

variable (space) (params : AlignmentSpeedParams) (qpcFreq : Nat)

/-- The seconds that an update of a slot blends. -/
def blendedTime (now : Nat) (slot : DeviceTransform Vec Rot) : Rat :=
  if slot.recalibrateOnMovement ∧ slot.blendMotionInitialized = false then 0
  else ((now : Rat) - slot.lastPoll) / qpcFreq

/-- The gate never closes further. -/
def leastGate (slot : DeviceTransform Vec Rot) : Rat :=
  if slot.recalibrateOnMovement then 1 / 10 else 1

/-- The share of the way that an update goes. -/
def shareOf (now : Nat) (slot : DeviceTransform Vec Rot)
    (deviceWorldPose : IsoTransform Vec Rot) : Rat :=
  let rate := ((now : Rat) - slot.lastPoll) / qpcFreq * transformRate params slot.currentRate
  max 0 (min 1 (if slot.recalibrateOnMovement then
    if slot.blendMotionInitialized then rate * motionGate space.geometry slot deviceWorldPose
    else 0
    else rate))

theorem shareOf_mem (now : Nat) (slot : DeviceTransform Vec Rot)
    (deviceWorldPose : IsoTransform Vec Rot) :
    0 ≤ shareOf space params qpcFreq now slot deviceWorldPose ∧
      shareOf space params qpcFreq now slot deviceWorldPose ≤ 1 :=
  ⟨le_max_left _ _, max_le zero_le_one (min_le_left _ _)⟩

theorem stillFloor_ge (posDeltaMm rotDeltaDeg : Rat) :
    1 / 10 ≤ stillFloor posDeltaMm rotDeltaDeg := by
  rw [stillFloor]
  split_ifs <;> norm_num

/-- The speeds of all levels are at least this. -/
def SpeedsAtLeast (params : AlignmentSpeedParams) (speed : Rat) : Prop :=
  ∀ level, speed ≤ transformRate params level

variable {params}

theorem le_shareOf {speed : Rat} (nonneg : 0 ≤ speed) (speeds : SpeedsAtLeast params speed)
    {now : Nat} (slot : DeviceTransform Vec Rot) (later : slot.lastPoll ≤ now)
    (deviceWorldPose : IsoTransform Vec Rot) :
    min 1 (speed * leastGate slot * blendedTime qpcFreq now slot) ≤
      shareOf space params qpcFreq now slot deviceWorldPose := by
  have elapsed : 0 ≤ ((now : Rat) - slot.lastPoll) / qpcFreq :=
    div_nonneg (sub_nonneg.mpr (Nat.cast_le.mpr later)) (Nat.cast_nonneg _)
  have rate : ((now : Rat) - slot.lastPoll) / qpcFreq * speed ≤
      ((now : Rat) - slot.lastPoll) / qpcFreq * transformRate params slot.currentRate :=
    mul_le_mul_of_nonneg_left (speeds slot.currentRate) elapsed
  have forward : 0 ≤ ((now : Rat) - slot.lastPoll) / qpcFreq * speed := mul_nonneg elapsed nonneg
  rw [shareOf]
  refine le_max_of_le_right (min_le_min_left _ ?_)
  cases moves : slot.recalibrateOnMovement with
  | false =>
    rw [if_neg Bool.false_ne_true, leastGate, moves, if_neg Bool.false_ne_true, blendedTime, moves,
      if_neg fun both => Bool.false_ne_true both.1, mul_one, mul_comm]
    exact rate
  | true =>
    rw [if_pos rfl, leastGate, moves, if_pos rfl, blendedTime, moves]
    cases started : slot.blendMotionInitialized with
    | false =>
      rw [if_pos ⟨rfl, rfl⟩, if_neg Bool.false_ne_true, mul_zero]
    | true =>
      rw [if_neg fun both => Bool.true_eq_false.mp both.2, if_pos rfl]
      have gate : 1 / 10 ≤ motionGate space.geometry slot deviceWorldPose :=
        le_max_of_le_right (stillFloor_ge _ _)
      calc speed * (1 / 10) * (((now : Rat) - slot.lastPoll) / qpcFreq)
          = ((now : Rat) - slot.lastPoll) / qpcFreq * speed * (1 / 10) := by ring
        _ ≤ ((now : Rat) - slot.lastPoll) / qpcFreq * speed *
              motionGate space.geometry slot deviceWorldPose :=
            mul_le_mul_of_nonneg_left gate forward
        _ ≤ ((now : Rat) - slot.lastPoll) / qpcFreq * transformRate params slot.currentRate *
              motionGate space.geometry slot deviceWorldPose :=
            mul_le_mul_of_nonneg_right rate (le_trans (by norm_num) gate)

/-! ### A run of updates and pushes -/

/-- What happens to the slot of a device: a pose arrives, or the overlay pushes. -/
inductive SlotEvent (Vec Rot : Type) where
  | pose (now : Nat) (pose : Pose Vec Rot)
  | push (now : Nat) (request : SetDeviceTransform Vec Rot)

def SlotEvent.now : SlotEvent Vec Rot → Nat
  | .pose now _ | .push now _ => now

variable (params)

def slotStep (slot : DeviceTransform Vec Rot) : SlotEvent Vec Rot → DeviceTransform Vec Rot
  | .pose now pose => (applySlot space.geometry params qpcFreq now slot pose).1
  | .push now request => updateSlot now request slot

def slotAfter (slot : DeviceTransform Vec Rot) (events : List (SlotEvent Vec Rot)) :
    DeviceTransform Vec Rot :=
  events.foldl (slotStep space params qpcFreq) slot

def SlotEvent.blends (slot : DeviceTransform Vec Rot) : SlotEvent Vec Rot → Rat
  | .pose now _ => blendedTime qpcFreq now slot
  | .push _ _ => 0

/-- The seconds that a run blends. -/
def blendedTimes (slot : DeviceTransform Vec Rot) : List (SlotEvent Vec Rot) → Rat
  | [] => 0
  | event :: rest =>
    event.blends qpcFreq slot + blendedTimes (slotStep space params qpcFreq slot event) rest

variable {space params qpcFreq}

/-- The pose of a device with the scale of its slot, in the world of its driver. -/
def worldPose (space : Space Vec Rot) (slot : DeviceTransform Vec Rot) (pose : Pose Vec Rot) :
    IsoTransform Vec Rot :=
  space.geometry.compose pose.worldFromDriver
    ⟨pose.rotation, space.geometry.scaleVec slot.scale pose.position⟩

/-- A push that says again what the slot has. -/
structure Repeats (slot : DeviceTransform Vec Rot) (request : SetDeviceTransform Vec Rot) :
    Prop where
  enabled : slot.enabled = true ∧ request.enabled = true
  lerp : request.lerp = true
  rotation : request.updateRotation = true → request.rotation = slot.targetTransform.rotation
  translation : request.updateTranslation = true →
    request.translation = slot.targetTransform.translation
  scale : request.updateScale = true → request.scale = slot.scale
  moves : request.recalibrateOnMovement = slot.recalibrateOnMovement

/-- An event that leaves the target and finds the device at such a point. -/
def Stays (space : Space Vec Rot) (slot : DeviceTransform Vec Rot) (inside : Vec → Prop) :
    SlotEvent Vec Rot → Prop
  | .pose _ pose => inside (worldPose space slot pose).translation
  | .push _ request => Repeats slot request

/-- What a run does not change. -/
structure SameTask (before after : DeviceTransform Vec Rot) : Prop where
  enabled : after.enabled = before.enabled
  target : after.targetTransform = before.targetTransform
  scale : after.scale = before.scale
  moves : after.recalibrateOnMovement = before.recalibrateOnMovement

omit [AddCommGroup Vec] [Module Rat Vec] in
theorem updateSlot_repeats {slot : DeviceTransform Vec Rot}
    {request : SetDeviceTransform Vec Rot} (repeats : Repeats slot request) (now : Nat) :
    SameTask slot (updateSlot now request slot) ∧
      (updateSlot now request slot).transform = slot.transform := by
  obtain ⟨⟨enabled, enables⟩, lerp, rotation, translation, scale, moves⟩ := repeats
  have turned : (if request.updateRotation then request.rotation
      else slot.targetTransform.rotation) = slot.targetTransform.rotation := by
    split_ifs with given
    · exact rotation given
    · rfl
  have shifted : (if request.updateTranslation then request.translation
      else slot.targetTransform.translation) = slot.targetTransform.translation := by
    split_ifs with given
    · exact translation given
    · rfl
  have scaled : (if request.updateScale then request.scale else slot.scale) = slot.scale := by
    split_ifs with given
    · exact scale given
    · rfl
  refine ⟨⟨?_, ?_, scaled, moves⟩, ?_⟩
  · rw [enabled]
    exact enables
  · rw [updateSlot, enabled, enables]
    simp only [Bool.not_true, Bool.and_false, if_neg Bool.false_ne_true, turned, shifted]
  · rw [updateSlot, enabled, enables, lerp]
    simp only [Bool.not_true, Bool.false_and, if_neg Bool.false_ne_true, not_true_eq_false,
      and_false, if_false]

theorem applySlot_task (now : Nat) (slot : DeviceTransform Vec Rot) (pose : Pose Vec Rot) :
    SameTask slot (applySlot space.geometry params qpcFreq now slot pose).1 :=
  ⟨rfl, rfl, rfl, rfl⟩

theorem SameTask.stays {before after : DeviceTransform Vec Rot} (same : SameTask before after)
    {inside : Vec → Prop} {event : SlotEvent Vec Rot} (stays : Stays space before inside event) :
    Stays space after inside event := by
  cases event with
  | pose now pose =>
    change inside (worldPose space after pose).translation
    rw [worldPose, same.scale]
    exact stays
  | push now request =>
    obtain ⟨⟨enabled, enables⟩, lerp, rotation, translation, scale, moves⟩ := stays
    exact ⟨⟨same.enabled.trans enabled, enables⟩, lerp, same.target ▸ rotation,
      same.target ▸ translation, same.scale ▸ scale, moves.trans same.moves.symm⟩

/-- A share of the way that is at least a number leaves no more than its harmonic bound. -/
theorem harmonic_step {more share error : Rat} (forward : 0 ≤ more) (enough : min 1 more ≤ share)
    (nonneg : 0 ≤ error) : (1 + more) * ((1 - share) * error) ≤ error := by
  have least : (1 + more) * (1 - min 1 more) ≤ 1 := by
    rcases le_total 1 more with large | small
    · rw [min_eq_left large, sub_self, mul_zero]
      exact zero_le_one
    · rw [min_eq_right small]
      nlinarith [mul_nonneg forward forward]
  have scaled : (1 + more) * (1 - share) ≤ (1 + more) * (1 - min 1 more) :=
    mul_le_mul_of_nonneg_left (sub_le_sub_left enough 1) (add_nonneg zero_le_one forward)
  calc (1 + more) * ((1 - share) * error)
      = (1 + more) * (1 - share) * error := by ring
    _ ≤ 1 * error := mul_le_mul_of_nonneg_right (scaled.trans least) nonneg
    _ = error := one_mul error

/-- A distance to the target that an interpolation around such a point shortens by its share. -/
structure Shortens (space : Space Vec Rot) (target : IsoTransform Vec Rot) (inside : Vec → Prop)
    (error : IsoTransform Vec Rot → Rat) : Prop where
  nonneg : ∀ transform, 0 ≤ error transform
  shorter : ∀ source lerp point, inside point → 0 ≤ lerp → lerp ≤ 1 →
    error (space.interpolateAround source lerp target point) = (1 - lerp) * error source

/-- The clock goes on from the last poll of the slot. -/
def Clocked (slot : DeviceTransform Vec Rot) (events : List (SlotEvent Vec Rot)) : Prop :=
  (slot.lastPoll :: events.map SlotEvent.now).IsChain (· ≤ ·)

theorem slotStep_task {slot : DeviceTransform Vec Rot} {inside : Vec → Prop}
    {event : SlotEvent Vec Rot} (stays : Stays space slot inside event) :
    SameTask slot (slotStep space params qpcFreq slot event) ∧
      (slotStep space params qpcFreq slot event).lastPoll = event.now := by
  cases event with
  | pose now pose => exact ⟨applySlot_task now slot pose, rfl⟩
  | push now request => exact ⟨(updateSlot_repeats stays now).1, rfl⟩

theorem slotStep_shortens {speed : Rat} (nonneg : 0 ≤ speed) (speeds : SpeedsAtLeast params speed)
    {slot : DeviceTransform Vec Rot} {inside : Vec → Prop} {error : IsoTransform Vec Rot → Rat}
    (shortens : Shortens space slot.targetTransform inside error) {event : SlotEvent Vec Rot}
    (stays : Stays space slot inside event) (later : slot.lastPoll ≤ event.now) :
    0 ≤ event.blends qpcFreq slot ∧
      (1 + speed * leastGate slot * event.blends qpcFreq slot) *
        error (slotStep space params qpcFreq slot event).transform ≤ error slot.transform := by
  cases event with
  | push now request =>
    refine ⟨le_refl _, ?_⟩
    rw [SlotEvent.blends, mul_zero, add_zero, one_mul, slotStep, (updateSlot_repeats stays now).2]
  | pose now pose =>
    have elapsed : 0 ≤ blendedTime qpcFreq now slot := by
      rw [blendedTime]
      split_ifs
      · exact le_refl _
      · exact div_nonneg (sub_nonneg.mpr (Nat.cast_le.mpr later)) (Nat.cast_nonneg _)
    have gate : 0 ≤ leastGate slot := by
      rw [leastGate]
      split_ifs <;> norm_num
    refine ⟨elapsed, ?_⟩
    let rated := { slot with
      currentRate := transformDeltaSize space.geometry params slot.currentRate
        (worldPose space slot pose) slot.transform slot.targetTransform }
    have share := le_shareOf space qpcFreq nonneg speeds rated later (worldPose space slot pose)
    obtain ⟨low, high⟩ := shareOf_mem space params qpcFreq now rated (worldPose space slot pose)
    have moved : (slotStep space params qpcFreq slot (.pose now pose)).transform =
        space.interpolateAround slot.transform
          (shareOf space params qpcFreq now rated (worldPose space slot pose))
          slot.targetTransform (worldPose space slot pose).translation := rfl
    rw [moved, shortens.shorter _ _ _ stays low high]
    exact harmonic_step (mul_nonneg (mul_nonneg nonneg gate) elapsed) share
      (shortens.nonneg slot.transform)

/-- A distance to the target is divided by one more than the time that was blended, at the least
speed and gate. -/
theorem slotAfter_shortens {speed : Rat} (nonneg : 0 ≤ speed)
    (speeds : SpeedsAtLeast params speed) {slot : DeviceTransform Vec Rot} {inside : Vec → Prop}
    {error : IsoTransform Vec Rot → Rat}
    (shortens : Shortens space slot.targetTransform inside error)
    {events : List (SlotEvent Vec Rot)}
    (stays : ∀ event ∈ events, Stays space slot inside event) (clocked : Clocked slot events) :
    0 ≤ blendedTimes space params qpcFreq slot events ∧
      (1 + speed * leastGate slot * blendedTimes space params qpcFreq slot events) *
        error (slotAfter space params qpcFreq slot events).transform ≤ error slot.transform := by
  induction events generalizing slot with
  | nil =>
    refine ⟨le_refl _, ?_⟩
    rw [blendedTimes, mul_zero, add_zero, one_mul]
    exact le_refl _
  | cons event rest inductionHypothesis =>
    obtain ⟨first, others⟩ := List.forall_mem_cons.mp stays
    obtain ⟨later, clock⟩ := List.isChain_cons_cons.mp clocked
    obtain ⟨task, polled⟩ : SameTask slot (slotStep space params qpcFreq slot event) ∧
        (slotStep space params qpcFreq slot event).lastPoll = event.now := slotStep_task first
    obtain ⟨forward, short⟩ : 0 ≤ event.blends qpcFreq slot ∧
        (1 + speed * leastGate slot * event.blends qpcFreq slot) *
          error (slotStep space params qpcFreq slot event).transform ≤ error slot.transform :=
      slotStep_shortens nonneg speeds shortens first later
    have gate : leastGate (slotStep space params qpcFreq slot event) = leastGate slot := by
      rw [leastGate, leastGate, task.moves]
    have goes : Clocked (slotStep space params qpcFreq slot event) rest := by
      rw [Clocked, polled]
      exact clock
    obtain ⟨afterwards, shorter⟩ := inductionHypothesis (task.target ▸ shortens)
      (fun next member => task.stays (others next member)) goes
    rw [gate] at shorter
    have least : 0 ≤ leastGate slot := by
      rw [leastGate]
      split_ifs <;> norm_num
    have one := mul_nonneg (mul_nonneg nonneg least) forward
    have two := mul_nonneg (mul_nonneg nonneg least) afterwards
    refine ⟨add_nonneg forward afterwards, ?_⟩
    have left := mul_le_mul_of_nonneg_left shorter (add_nonneg zero_le_one one)
    have remains := shortens.nonneg (slotAfter space params qpcFreq
      (slotStep space params qpcFreq slot event) rest).transform
    rw [blendedTimes]
    change (1 + speed * leastGate slot * (event.blends qpcFreq slot +
      blendedTimes space params qpcFreq (slotStep space params qpcFreq slot event) rest)) *
        error (slotAfter space params qpcFreq (slotStep space params qpcFreq slot event)
          rest).transform ≤ error slot.transform
    nlinarith [mul_nonneg (mul_nonneg one two) remains]

theorem shortens_angle (lawful : space.Lawful) (target : IsoTransform Vec Rot) :
    Shortens space target (fun _ => True) fun transform =>
      space.angle transform.rotation target.rotation where
  nonneg := fun _ => lawful.angle_nonneg _ _
  shorter := fun _ _ point _ low high => angle_interpolateAround lawful low high point

theorem shortens_gap (lawful : space.Lawful) (target : IsoTransform Vec Rot) (point : Vec) :
    Shortens space target (fun place => place = point) fun transform =>
      space.gap transform target point where
  nonneg := fun _ => lawful.norm_nonneg _
  shorter := fun _ _ place same _ high => same ▸ gap_interpolateAround lawful high place

/-- In every run of pose updates and repeated pushes, the angle to the target falls at least as the
inverse of the time that was blended, however the device moves; and so does the distance of a
device that stays in place, be it at rest with a gate on motion or not. -/
theorem blend_arrives (lawful : space.Lawful) {speed : Rat} (nonneg : 0 ≤ speed)
    (speeds : SpeedsAtLeast params speed) (slot : DeviceTransform Vec Rot)
    {events : List (SlotEvent Vec Rot)}
    (stays : ∀ event ∈ events, Stays space slot (fun _ => True) event)
    (clocked : Clocked slot events) :
    (1 + speed * leastGate slot * blendedTimes space params qpcFreq slot events) *
        space.angle (slotAfter space params qpcFreq slot events).transform.rotation
          slot.targetTransform.rotation ≤
      space.angle slot.transform.rotation slot.targetTransform.rotation ∧
    ∀ point, (∀ event ∈ events, Stays space slot (fun place => place = point) event) →
      (1 + speed * leastGate slot * blendedTimes space params qpcFreq slot events) *
          space.gap (slotAfter space params qpcFreq slot events).transform
            slot.targetTransform point ≤
        space.gap slot.transform slot.targetTransform point :=
  ⟨(slotAfter_shortens nonneg speeds (shortens_angle lawful slot.targetTransform) stays
      clocked).2,
    fun point fixed => (slotAfter_shortens nonneg speeds
      (shortens_gap lawful slot.targetTransform point) fixed clocked).2⟩

end Space

/-! ### A device at rest -/

/-- A line with turns around it. -/
def line : Space Rat Rat where
  one := 0
  mul first second := first + second
  act _ vector := vector
  slerp source share target := source + share * (target - source)
  norm vector := |vector|
  angle first second := |first - second|
  degrees angle := angle
  motionRamp _ := 0

theorem line_lawful : line.Lawful where
  norm_nonneg := fun vector => abs_nonneg vector
  norm_smul := fun share vector nonneg => by
    change |share * vector| = share * |vector|
    rw [abs_mul, abs_of_nonneg nonneg]
  angle_nonneg := fun _ _ => abs_nonneg _
  angle_slerp := fun share source target _ high => by
    change |source + share * (target - source) - target| = (1 - share) * |source - target|
    have rest : source + share * (target - source) - target = (1 - share) * (source - target) := by
      ring
    rw [rest, abs_mul, abs_of_nonneg (sub_nonneg.mpr high)]

/-- A slot that is to move by one and to turn by one, while the user moves. -/
def turning : DeviceTransform Rat Rat where
  enabled := true
  transform := ⟨0, 0⟩
  targetTransform := ⟨1, 1⟩
  recalibrateOnMovement := true
  lastBlendWorldPos := 0
  lastBlendWorldRot := 0

def lying : Pose Rat Rat where
  position := 0
  rotation := 0
  worldFromDriver := ⟨0, 0⟩
  velocity := 0
  acceleration := 0
  angularVelocity := 0
  angularAcceleration := 0

def pushAgain : SetDeviceTransform Rat Rat where
  openVRID := 3
  enabled := true
  updateTranslation := true
  updateRotation := true
  translation := 1
  rotation := 1
  lerp := true
  recalibrateOnMovement := true

/-- The device lies still; the overlay pushes once in between. -/
def lyingStill : List (SlotEvent Rat Rat) :=
  [.pose 1000 lying, .push 1500 pushAgain, .pose 3500 lying]

theorem pushAgain_repeats : Repeats turning pushAgain :=
  ⟨⟨rfl, rfl⟩, rfl, fun _ => rfl, fun _ => rfl, fun _ => rfl, rfl⟩

theorem blend_arrives_lyingStill :
    blendedTimes line speeds 1000 turning lyingStill = 2 ∧
      (1 + 1 / 20 * leastGate turning * blendedTimes line speeds 1000 turning lyingStill) *
          line.angle (slotAfter line speeds 1000 turning lyingStill).transform.rotation 1 ≤
        line.angle 0 1 := by
  have slow : SpeedsAtLeast speeds (1 / 20) := by
    intro level
    cases level <;> decide +kernel
  have stays : ∀ event ∈ lyingStill, Stays line turning (fun _ => True) event :=
    List.forall_mem_cons.mpr ⟨trivial, List.forall_mem_cons.mpr ⟨pushAgain_repeats,
      List.forall_mem_cons.mpr ⟨trivial, List.forall_mem_nil _⟩⟩⟩
  have clocked : [0, 1000, 1500, 3500].IsChain (· ≤ ·) := by decide +kernel
  exact ⟨by decide +kernel,
    (blend_arrives line_lawful (by norm_num) slow turning stays clocked).1⟩

end PairDriver.Provider
