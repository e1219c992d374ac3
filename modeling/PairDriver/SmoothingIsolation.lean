/-
This file proves that calibration does not reach the smoothing of poses. A small
smoother, which knows only the pose updates and the prediction requests, says
what smoothing is for; the driver simulates it whatever calibration requests come
in between, because the smoothness of a fallback, which the hook still reads, is
zero in every slot of every driver that is reached. Two runs that agree on what
the smoother sees therefore apply the same factor to every pose.
-/

import PairDriver.PoseHookRace

namespace PairDriver.Provider

/-! ### The smoother -/

/-- The part of a slot that the smoothing overlay owns. -/
structure Smoothing where
  predictionSmoothness : Nat := 0
  smartEnabled : Bool := false
  smartMotionEma : Rat := 0

/-- What the smoother sees: the start of a pose update, whenever it comes, and a request. -/
inductive SmoothingEvent (Vec Rot : Type) where
  | poseUpdated (id : Nat) (pose : Pose Vec Rot)
  | setDevicePrediction (request : SetDevicePrediction)

section Isolation

variable {Vec Rot : Type} (geo : Geometry Vec Rot) (params : AlignmentSpeedParams) (qpcFreq : Nat)

/-- The motion average after a pose. -/
def Smoothing.motion (smoothing : Smoothing) (pose : Pose Vec Rot) : Rat :=
  (1 - kSmartEmaAlpha) * smoothing.smartMotionEma + kSmartEmaAlpha * geo.motionRamp pose

/-- The factor for a pose; none where the pose is left as it is. -/
def Smoothing.factor (smoothing : Smoothing) (pose : Pose Vec Rot) : Option Rat :=
  if smoothing.predictionSmoothness = 0 then none
  else
    let still : Rat := 1 - (min smoothing.predictionSmoothness 100 : Nat) / 100
    some (if smoothing.smartEnabled then still + (1 - still) * smoothing.motion geo pose else still)

/-- The state after a pose. -/
def Smoothing.update (smoothing : Smoothing) (pose : Pose Vec Rot) : Smoothing :=
  if smoothing.predictionSmoothness ≠ 0 ∧ smoothing.smartEnabled = true then
    { smoothing with smartMotionEma := smoothing.motion geo pose }
  else smoothing

/-- The state after a request. -/
def Smoothing.request (smoothing : Smoothing) (request : SetDevicePrediction) : Smoothing :=
  { predictionSmoothness := request.predictionSmoothness
    smartEnabled := request.smartEnabled
    smartMotionEma := if request.smartEnabled && !smoothing.smartEnabled then 0
      else smoothing.smartMotionEma }

def smootherStep (smoother : Nat → Smoothing) : SmoothingEvent Vec Rot → Nat → Smoothing
  | .poseUpdated id pose => Function.update smoother id ((smoother id).update geo pose)
  | .setDevicePrediction request =>
    if request.openVRID ≥ kMaxTrackedDeviceCount then smoother
    else Function.update smoother request.openVRID ((smoother request.openVRID).request request)

/-- The factors of the poses of a run of the smoother, in their order. -/
def smootherFactors : (Nat → Smoothing) → List (SmoothingEvent Vec Rot) → List (Option Rat)
  | _, [] => []
  | smoother, .poseUpdated id pose :: rest =>
    (smoother id).factor geo pose ::
      smootherFactors (smootherStep geo smoother (.poseUpdated id pose)) rest
  | smoother, .setDevicePrediction request :: rest =>
    smootherFactors (smootherStep geo smoother (.setDevicePrediction request)) rest

/-! ### The factor of the driver -/

/-- The factor the hook applies to the motion of a pose, with the smoothness it reads off the slot or
off the fallback; none where it applies none. -/
def appliedFactor (driver : Driver Vec Rot) (id : Nat) (pose : Pose Vec Rot) : Option Rat :=
  let slot := driver.transforms id
  if smoothness driver id = 0 then none
  else
    let still : Rat := 1 - (min (smoothness driver id) 100 : Nat) / 100
    let ema := if slot.smartEnabled then
      (1 - kSmartEmaAlpha) * slot.smartMotionEma + kSmartEmaAlpha * geo.motionRamp pose
      else slot.smartMotionEma
    some (if slot.smartEnabled then still + (1 - still) * ema else still)

/-- The factors of the pose updates of a run of the driver, in the order in which they start. -/
def factors (system : System Vec Rot) : List (Event Vec Rot) → List (Option Rat)
  | [] => []
  | event :: rest =>
    let later := (step geo params qpcFreq system event).elim [] fun after => factors after rest
    match event with
    | .poseUpdated _ id pose => appliedFactor geo system.driver id pose :: later
    | _ => later

def scaleBy (factor : Option Rat) (vector : Vec) : Vec :=
  factor.elim vector fun value => geo.scaleVec value vector

/-- The motion of a pose is the motion of the given one, scaled. -/
structure MotionScaled (factor : Option Rat) (given result : Pose Vec Rot) : Prop where
  velocity_eq : result.velocity = scaleBy geo factor given.velocity
  acceleration_eq : result.acceleration = scaleBy geo factor given.acceleration
  angularVelocity_eq : result.angularVelocity = scaleBy geo factor given.angularVelocity
  angularAcceleration_eq :
    result.angularAcceleration = scaleBy geo factor given.angularAcceleration
  poseTimeOffset_eq :
    result.poseTimeOffset = factor.elim given.poseTimeOffset (· * given.poseTimeOffset)

/-- What the smoother sees of an event. -/
def Event.smoothing : Event Vec Rot → Option (SmoothingEvent Vec Rot)
  | .poseUpdated _ id pose => some (.poseUpdated id pose)
  | .setDevicePrediction request => some (.setDevicePrediction request)
  | _ => none

def DeviceTransform.smoothing (slot : DeviceTransform Vec Rot) : Smoothing :=
  { predictionSmoothness := slot.predictionSmoothness
    smartEnabled := slot.smartEnabled
    smartMotionEma := slot.smartMotionEma }

/-- The smoother inside a driver. -/
def Driver.smoother (driver : Driver Vec Rot) (id : Nat) : Smoothing :=
  (driver.transforms id).smoothing

/-- No fallback carries a smoothness of its own. -/
def Quiet (driver : Driver Vec Rot) : Prop :=
  ∀ slot ∈ driver.systemFallbacks, slot.predictionSmoothness = 0

/-! ### Slots -/

theorem applySlot_smoothing (now : Nat) (slot : DeviceTransform Vec Rot) (pose : Pose Vec Rot) :
    (applySlot geo params qpcFreq now slot pose).1.smoothing = slot.smoothing :=
  rfl

theorem followFallback_smoothing (now : Nat) (fallback : FallbackSlot Vec Rot)
    (slot : DeviceTransform Vec Rot) :
    (followFallback now fallback slot).smoothing = slot.smoothing := by
  unfold followFallback
  dsimp only
  split
  · rfl
  · rfl

theorem setTransform_smoother (driver : Driver Vec Rot) (id : Nat)
    (slot : DeviceTransform Vec Rot) :
    (driver.setTransform id slot).smoother = Function.update driver.smoother id slot.smoothing := by
  funext other
  by_cases same : other = id
  · subst same
    rw [Function.update_self, Driver.smoother, setTransform_self]
  · rw [Function.update_of_ne same, Driver.smoother, setTransform_of_ne driver slot same,
      Driver.smoother]

/-- A slot with the same smoothing may be stored back. -/
theorem setTransform_smoother_self {driver : Driver Vec Rot} {id : Nat}
    {slot : DeviceTransform Vec Rot} (same : slot.smoothing = driver.smoother id) :
    (driver.setTransform id slot).smoother = driver.smoother := by
  rw [setTransform_smoother, same, Function.update_eq_self]

/-! ### Fallbacks -/

theorem quiet_modifySlot {name : Name} {change : FallbackSlot Vec Rot → FallbackSlot Vec Rot}
    (kept : ∀ slot, (change slot).predictionSmoothness = slot.predictionSmoothness)
    {slots : List (FallbackSlot Vec Rot)}
    (quiet : ∀ slot ∈ slots, slot.predictionSmoothness = 0) :
    ∀ slot ∈ modifySlot name change slots, slot.predictionSmoothness = 0 := by
  induction slots with
  | nil => exact quiet
  | cons head rest inductionHypothesis =>
    rw [List.forall_mem_cons] at quiet
    unfold modifySlot
    split
    · rw [List.forall_mem_cons, kept]
      exact quiet
    · rw [List.forall_mem_cons]
      exact ⟨quiet.1, inductionHypothesis quiet.2⟩

theorem quiet_storeFallback (request : SetTrackingSystemFallback Vec Rot)
    {slots : List (FallbackSlot Vec Rot)}
    (quiet : ∀ slot ∈ slots, slot.predictionSmoothness = 0) :
    ∀ slot ∈ storeFallback request slots, slot.predictionSmoothness = 0 := by
  unfold storeFallback
  dsimp only
  split
  · refine quiet_modifySlot ?_ quiet
    intro slot
    rfl
  · split
    · rw [List.forall_mem_append]
      refine ⟨quiet, ?_⟩
      rw [List.forall_mem_singleton]
      rfl
    · exact quiet

/-- In a quiet driver the fallback adds nothing to the smoothness of the slot. -/
theorem Quiet.smoothness_eq {driver : Driver Vec Rot} (quiet : Quiet driver) (id : Nat) :
    smoothness driver id = (driver.transforms id).predictionSmoothness := by
  unfold smoothness
  dsimp only
  split
  · rename_i unset
    rw [unset.1]
    split
    · rename_i fallback found
      unfold Driver.findFallbackSlot at found
      split at found
      · cases found
      · rw [quiet fallback (List.mem_of_find?_eq_some found), ite_self]
    · rfl
  · rfl

/-! ### Requests -/

theorem setDeviceTransform_smoother (now : Nat) (request : SetDeviceTransform Vec Rot)
    (driver : Driver Vec Rot) :
    (driver.setDeviceTransform now request).smoother = driver.smoother := by
  unfold Driver.setDeviceTransform
  split
  · rfl
  · exact setTransform_smoother_self rfl

theorem setDeviceTransform_quiet {driver : Driver Vec Rot} (quiet : Quiet driver) (now : Nat)
    (request : SetDeviceTransform Vec Rot) : Quiet (driver.setDeviceTransform now request) := by
  unfold Driver.setDeviceTransform
  split
  · exact quiet
  · exact quiet

theorem setTrackingSystemFallback_smoother (now : Nat)
    (request : SetTrackingSystemFallback Vec Rot) (driver : Driver Vec Rot) :
    (driver.setTrackingSystemFallback now request).smoother = driver.smoother := by
  unfold Driver.setTrackingSystemFallback
  dsimp only
  split
  · rfl
  · split
    · rfl
    · funext id
      unfold Driver.smoother
      dsimp only
      split
      · rfl
      · rfl

theorem setTrackingSystemFallback_quiet {driver : Driver Vec Rot} (quiet : Quiet driver)
    (now : Nat) (request : SetTrackingSystemFallback Vec Rot) :
    Quiet (driver.setTrackingSystemFallback now request) := by
  unfold Driver.setTrackingSystemFallback
  dsimp only
  split
  · exact quiet
  · split
    · exact quiet_storeFallback request quiet
    · refine quiet_modifySlot ?_ quiet
      intro slot
      rfl

theorem setDevicePrediction_smoother (request : SetDevicePrediction) (driver : Driver Vec Rot) :
    (driver.setDevicePrediction request).smoother =
      smootherStep geo driver.smoother (.setDevicePrediction request : SmoothingEvent Vec Rot) := by
  unfold Driver.setDevicePrediction smootherStep
  dsimp only
  split
  · rfl
  · exact setTransform_smoother driver request.openVRID _

theorem setDevicePrediction_quiet {driver : Driver Vec Rot} (quiet : Quiet driver)
    (request : SetDevicePrediction) : Quiet (driver.setDevicePrediction request) := by
  unfold Driver.setDevicePrediction
  split
  · exact quiet
  · exact quiet

/-! ### The pose hook -/

/-- The two outcomes of the start of a pose update: the pose that is returned, or that waits. -/
def begunPose : Pose Vec Rot ⊕ Pose Vec Rot → Pose Vec Rot :=
  Sum.elim id id

theorem MotionScaled.refl (pose : Pose Vec Rot) : MotionScaled geo none pose pose :=
  ⟨rfl, rfl, rfl, rfl, rfl⟩

theorem suppressPrediction_scaled (driver : Driver Vec Rot) (id : Nat) (pose : Pose Vec Rot) :
    MotionScaled geo (appliedFactor geo driver id pose) pose
      (suppressPrediction geo (smoothness driver id) (driver.transforms id) pose).2 := by
  unfold suppressPrediction appliedFactor
  dsimp only
  split
  · exact MotionScaled.refl geo pose
  · exact ⟨rfl, rfl, rfl, rfl, rfl⟩

theorem Quiet.suppressPrediction_smoothing {driver : Driver Vec Rot} (quiet : Quiet driver)
    (id : Nat) (pose : Pose Vec Rot) :
    (suppressPrediction geo (smoothness driver id) (driver.transforms id) pose).1.smoothing =
      (driver.smoother id).update geo pose := by
  rw [quiet.smoothness_eq]
  unfold suppressPrediction Smoothing.update Driver.smoother DeviceTransform.smoothing
  dsimp only
  by_cases unset : (driver.transforms id).predictionSmoothness = 0
  · simp only [unset, ne_eq, not_true_eq_false, false_and, if_true, if_false]
  · by_cases smart : (driver.transforms id).smartEnabled = true
    · simp only [unset, smart, ne_eq, not_false_eq_true, and_self, if_true, if_false]
      rfl
    · simp only [unset, smart, ne_eq, and_false, if_false, Bool.false_eq_true]

theorem Quiet.appliedFactor_eq {driver : Driver Vec Rot} (quiet : Quiet driver) (id : Nat)
    (pose : Pose Vec Rot) :
    appliedFactor geo driver id pose = (driver.smoother id).factor geo pose := by
  unfold appliedFactor Smoothing.factor
  dsimp only
  rw [quiet.smoothness_eq]
  by_cases smart : (driver.transforms id).smartEnabled = true
  · simp only [Driver.smoother, DeviceTransform.smoothing, Smoothing.motion, smart, if_true]
  · simp only [Driver.smoother, DeviceTransform.smoothing, smart, if_false, Bool.false_eq_true]

theorem applyFallback_smoother (now id : Nat) (pose : Pose Vec Rot) (driver : Driver Vec Rot) :
    (applyFallback geo params qpcFreq now id pose driver).1.smoother = driver.smoother := by
  unfold applyFallback
  split
  · rfl
  · dsimp only
    split
    · refine setTransform_smoother_self ?_
      rw [applySlot_smoothing, followFallback_smoothing]
      rfl
    · split
      · exact setTransform_smoother_self rfl
      · rfl

theorem applyFallback_systemFallbacks (now id : Nat) (pose : Pose Vec Rot)
    (driver : Driver Vec Rot) :
    (applyFallback geo params qpcFreq now id pose driver).1.systemFallbacks =
      driver.systemFallbacks := by
  unfold applyFallback
  split
  · rfl
  · dsimp only
    split
    · rfl
    · split
      · rfl
      · rfl

theorem applyFallback_scaled (now id : Nat) (pose : Pose Vec Rot) (driver : Driver Vec Rot) :
    MotionScaled geo none pose (applyFallback geo params qpcFreq now id pose driver).2 := by
  unfold applyFallback
  split
  · exact MotionScaled.refl geo pose
  · dsimp only
    split
    · exact ⟨rfl, rfl, rfl, rfl, rfl⟩
    · split
      · exact MotionScaled.refl geo pose
      · exact MotionScaled.refl geo pose

theorem enterHook_smoother {driver : Driver Vec Rot} (quiet : Quiet driver) (id : Nat)
    (pose : Pose Vec Rot) :
    (driver.setTransform id (enterHook geo id pose driver).1).smoother =
      smootherStep geo driver.smoother (.poseUpdated id pose) := by
  rw [setTransform_smoother]
  show _ = Function.update driver.smoother id ((driver.smoother id).update geo pose)
  rw [← quiet.suppressPrediction_smoothing geo id pose]
  rfl

theorem beginPose_smoother {driver : Driver Vec Rot} (quiet : Quiet driver) (now id : Nat)
    (pose : Pose Vec Rot) :
    (beginPose geo params qpcFreq now id pose driver).1.smoother =
      smootherStep geo driver.smoother (.poseUpdated id pose) := by
  rw [← enterHook_smoother geo quiet id pose]
  unfold beginPose
  dsimp only
  split
  · rfl
  · split
    · refine setTransform_smoother_self ?_
      rw [applySlot_smoothing, Driver.smoother, setTransform_self]
    · split
      · rfl
      · exact applyFallback_smoother geo params qpcFreq now id _ _

theorem beginPose_systemFallbacks (now id : Nat) (pose : Pose Vec Rot) (driver : Driver Vec Rot) :
    (beginPose geo params qpcFreq now id pose driver).1.systemFallbacks =
      driver.systemFallbacks := by
  unfold beginPose
  dsimp only
  split
  · rfl
  · split
    · rfl
    · split
      · rfl
      · exact applyFallback_systemFallbacks geo params qpcFreq now id _ _

/-- What follows the suppression keeps the motion of the pose. -/
theorem beginPose_scaled (now id : Nat) (pose : Pose Vec Rot) (driver : Driver Vec Rot) :
    MotionScaled geo (appliedFactor geo driver id pose) pose
      (begunPose (beginPose geo params qpcFreq now id pose driver).2) := by
  have entered := suppressPrediction_scaled geo driver id pose
  unfold beginPose
  dsimp only
  split
  · exact ⟨entered.1, entered.2, entered.3, entered.4, entered.5⟩
  · split
    · exact ⟨entered.1, entered.2, entered.3, entered.4, entered.5⟩
    · split
      · exact entered
      · have followed := applyFallback_scaled geo params qpcFreq now id
          (enterHook geo id pose driver).2
          (driver.setTransform id (enterHook geo id pose driver).1)
        exact ⟨followed.1.trans entered.1, followed.2.trans entered.2, followed.3.trans entered.3,
          followed.4.trans entered.4, followed.5.trans entered.5⟩

theorem resumePose_smoother (now id : Nat) (pose : Pose Vec Rot) (query : Option Name)
    (driver : Driver Vec Rot) :
    (resumePose geo params qpcFreq now id pose query driver).1.smoother = driver.smoother := by
  unfold resumePose
  rw [applyFallback_smoother]
  funext other
  rw [Driver.smoother, storeLookup_transforms, Driver.smoother]

theorem resumePose_systemFallbacks (now id : Nat) (pose : Pose Vec Rot) (query : Option Name)
    (driver : Driver Vec Rot) :
    (resumePose geo params qpcFreq now id pose query driver).1.systemFallbacks =
      driver.systemFallbacks := by
  unfold resumePose
  rw [applyFallback_systemFallbacks]
  unfold storeLookup
  split
  · rfl
  · split
    · rfl
    · rfl

/-! ### Runs -/

variable {geo params qpcFreq}

/-- The driver simulates its smoother: an event moves it as the smoother says, or not at all. -/
theorem step_smoother {system after : System Vec Rot} {event : Event Vec Rot}
    (quiet : Quiet system.driver)
    (stepped : step geo params qpcFreq system event = some after) :
    Quiet after.driver ∧ after.driver.smoother =
      event.smoothing.elim system.driver.smoother (smootherStep geo system.driver.smoother) := by
  cases event with
  | setDeviceTransform now request =>
    obtain rfl := Option.some.inj stepped
    exact ⟨setDeviceTransform_quiet quiet now request,
      setDeviceTransform_smoother now request system.driver⟩
  | setTrackingSystemFallback now request =>
    obtain rfl := Option.some.inj stepped
    exact ⟨setTrackingSystemFallback_quiet quiet now request,
      setTrackingSystemFallback_smoother now request system.driver⟩
  | setDevicePrediction request =>
    obtain rfl := Option.some.inj stepped
    exact ⟨setDevicePrediction_quiet quiet request,
      setDevicePrediction_smoother geo request system.driver⟩
  | poseUpdated now id pose =>
    obtain rfl := Option.some.inj stepped
    refine ⟨?_, beginPose_smoother geo params qpcFreq quiet now id pose⟩
    intro slot member
    rw [beginPose_systemFallbacks] at member
    exact quiet slot member
  | poseResumed now index query =>
    rw [step] at stepped
    split at stepped
    · cases stepped
    · split at stepped
      · cases stepped
      · rename_i id pose waiting
        obtain rfl := Option.some.inj stepped
        refine ⟨?_, resumePose_smoother geo params qpcFreq now id pose query system.driver⟩
        intro slot member
        rw [resumePose_systemFallbacks] at member
        exact quiet slot member

/-- The factors of a run are the factors of the smoother on what it sees of the run. -/
theorem factors_eq_smootherFactors {system last : System Vec Rot} {events : List (Event Vec Rot)}
    (quiet : Quiet system.driver)
    (ran : run (step geo params qpcFreq) system events = some last) :
    factors geo params qpcFreq system events =
      smootherFactors geo system.driver.smoother (events.filterMap Event.smoothing) := by
  induction events generalizing system with
  | nil => rfl
  | cons event rest inductionHypothesis =>
    obtain ⟨after, stepped, later⟩ := Option.bind_eq_some_iff.mp ran
    obtain ⟨quietAfter, moved⟩ := step_smoother quiet stepped
    have continued := inductionHypothesis quietAfter later
    unfold factors
    rw [stepped]
    dsimp only [Option.elim]
    rw [continued, moved]
    cases event with
    | setDeviceTransform now request => rfl
    | setTrackingSystemFallback now request => rfl
    | setDevicePrediction request => rfl
    | poseUpdated now id pose =>
      dsimp only
      rw [quiet.appliedFactor_eq]
      rfl
    | poseResumed now index query => rfl

/-! ### Commutation -/

/-- A calibration push and a prediction request may be taken in either order. -/
theorem setDeviceTransform_setDevicePrediction (now : Nat) (request : SetDeviceTransform Vec Rot)
    (prediction : SetDevicePrediction) (driver : Driver Vec Rot) :
    (driver.setDeviceTransform now request).setDevicePrediction prediction =
      (driver.setDevicePrediction prediction).setDeviceTransform now request := by
  by_cases pushIgnored : request.openVRID ≥ kMaxTrackedDeviceCount
  · simp only [Driver.setDeviceTransform, if_pos pushIgnored]
  · by_cases predictionIgnored : prediction.openVRID ≥ kMaxTrackedDeviceCount
    · simp only [Driver.setDevicePrediction, if_pos predictionIgnored]
    · simp only [Driver.setDeviceTransform, Driver.setDevicePrediction, if_neg pushIgnored,
        if_neg predictionIgnored, Driver.setTransform]
      by_cases same : prediction.openVRID = request.openVRID
      · simp only [same, Function.update_self, Function.update_idem]
        rfl
      · have different : request.openVRID ≠ prediction.openVRID := Ne.symm same
        simp only [Function.update_of_ne same, Function.update_of_ne different]
        rw [Function.update_comm same]

/-- Smoothing and calibration do not interfere. Two runs that agree on the starts of the pose updates
and on the prediction requests, whatever their calibration requests, answers to queries and clocks,
apply the same factor to every pose; that factor is what the velocities, the accelerations and the
time offset of the pose come out scaled by; and a push commutes with a prediction request. -/
theorem smoothing_isolated (geo : Geometry Vec Rot) (params : AlignmentSpeedParams)
    (qpcFreq : Nat) :
    (∀ firstEvents secondEvents first second,
      run (step geo params qpcFreq) { driver := initialDriver geo } firstEvents = some first →
      run (step geo params qpcFreq) { driver := initialDriver geo } secondEvents = some second →
      firstEvents.filterMap Event.smoothing = secondEvents.filterMap Event.smoothing →
      factors geo params qpcFreq { driver := initialDriver geo } firstEvents =
        factors geo params qpcFreq { driver := initialDriver geo } secondEvents) ∧
    (∀ now id pose driver, MotionScaled geo (appliedFactor geo driver id pose) pose
      (begunPose (beginPose geo params qpcFreq now id pose driver).2)) ∧
    (∀ now id pose query driver, MotionScaled geo none pose
      (resumePose geo params qpcFreq now id pose query driver).2) ∧
    ∀ now request prediction (driver : Driver Vec Rot),
      (driver.setDeviceTransform now request).setDevicePrediction prediction =
        (driver.setDevicePrediction prediction).setDeviceTransform now request := by
  have quiet : Quiet (initialDriver geo) := by
    intro slot member
    cases member
  refine ⟨?_, beginPose_scaled geo params qpcFreq, ?_, setDeviceTransform_setDevicePrediction⟩
  · intro firstEvents secondEvents first second firstRan secondRan same
    rw [factors_eq_smootherFactors quiet firstRan, factors_eq_smootherFactors quiet secondRan, same]
  · intro now id pose query driver
    exact applyFallback_scaled geo params qpcFreq now id pose _

end Isolation

/-! ### Two runs -/

def moving : Pose Rat Unit :=
  { atRest with velocity := 1, poseTimeOffset := 2 }

/-- The device is smoothed by half. One run calibrates it, the other gives its tracking system a
fallback; both halve the motion of the pose. -/
theorem smoothing_isolated_half :
    factors axis speeds 1000 { driver := initialDriver axis }
      [.setDevicePrediction ⟨3, 50, false⟩, .setDeviceTransform 0 push, .poseUpdated 1 3 moving] =
        [some (1 / 2)] ∧
    factors axis speeds 1000 { driver := initialDriver axis }
      [.setDevicePrediction ⟨3, 50, false⟩, .setTrackingSystemFallback 0 fallback,
        .poseUpdated 5 3 moving, .poseResumed 6 0 (some (ascii "lighthouse"))] =
        [some (1 / 2)] := by
  have same := (smoothing_isolated axis speeds 1000).1
    [.setDevicePrediction ⟨3, 50, false⟩, .setDeviceTransform 0 push, .poseUpdated 1 3 moving]
    [.setDevicePrediction ⟨3, 50, false⟩, .setTrackingSystemFallback 0 fallback,
      .poseUpdated 5 3 moving, .poseResumed 6 0 (some (ascii "lighthouse"))] _ _ rfl rfl rfl
  have calibrated : factors axis speeds 1000 { driver := initialDriver axis }
      [.setDevicePrediction ⟨3, 50, false⟩, .setDeviceTransform 0 push, .poseUpdated 1 3 moving] =
        [some (1 / 2)] := by decide +kernel
  exact ⟨calibrated, same.symm.trans calibrated⟩

end PairDriver.Provider
