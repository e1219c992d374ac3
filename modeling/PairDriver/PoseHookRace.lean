/-
This file proves when a per-device calibration push survives the pose hook. The
second critical section of the hook goes on as for a disabled slot without
looking at the slot again. In runs where, whenever it does so, the slot is still
disabled or its tracking system has no enabled fallback, an enabled slot never
follows a fallback and no pose update writes what the overlay pushed. A push that
lands between the two sections is overwritten; the last section runs this.
-/

import PairDriver.PoseDriver

namespace PairDriver.Provider

section Race

variable {Vec Rot : Type} (geo : Geometry Vec Rot) (params : AlignmentSpeedParams) (qpcFreq : Nat)

/-! ### Slots -/

/-- What the overlay pushes per device is the same in both slots. -/
structure SamePush (before after : DeviceTransform Vec Rot) : Prop where
  targetTransform_eq : after.targetTransform = before.targetTransform
  scale_eq : after.scale = before.scale
  recalibrateOnMovement_eq : after.recalibrateOnMovement = before.recalibrateOnMovement

/-- The push and the two flags that say where it comes from are the same in both slots. -/
structure SameControl (before after : DeviceTransform Vec Rot) : Prop extends
    SamePush before after where
  enabled_eq : after.enabled = before.enabled
  fallbackActive_eq : after.fallbackActive = before.fallbackActive

theorem SamePush.refl (slot : DeviceTransform Vec Rot) : SamePush slot slot :=
  ⟨rfl, rfl, rfl⟩

theorem SameControl.trans {first second third : DeviceTransform Vec Rot}
    (left : SameControl first second) (right : SameControl second third) :
    SameControl first third where
  targetTransform_eq := right.targetTransform_eq.trans left.targetTransform_eq
  scale_eq := right.scale_eq.trans left.scale_eq
  recalibrateOnMovement_eq := right.recalibrateOnMovement_eq.trans left.recalibrateOnMovement_eq
  enabled_eq := right.enabled_eq.trans left.enabled_eq
  fallbackActive_eq := right.fallbackActive_eq.trans left.fallbackActive_eq

theorem suppressPrediction_sameControl (strength : Nat) (slot : DeviceTransform Vec Rot)
    (pose : Pose Vec Rot) : SameControl slot (suppressPrediction geo strength slot pose).1 := by
  unfold suppressPrediction
  split
  · exact ⟨⟨rfl, rfl, rfl⟩, rfl, rfl⟩
  · exact ⟨⟨rfl, rfl, rfl⟩, rfl, rfl⟩

theorem enterHook_sameControl (id : Nat) (pose : Pose Vec Rot) (driver : Driver Vec Rot) :
    SameControl (driver.transforms id) (enterHook geo id pose driver).1 :=
  (suppressPrediction_sameControl geo (smoothness driver id) (driver.transforms id) pose).trans
    ⟨⟨rfl, rfl, rfl⟩, rfl, rfl⟩

theorem applySlot_sameControl (now : Nat) (slot : DeviceTransform Vec Rot) (pose : Pose Vec Rot) :
    SameControl slot (applySlot geo params qpcFreq now slot pose).1 :=
  ⟨⟨rfl, rfl, rfl⟩, rfl, rfl⟩

theorem followFallback_enabled (now : Nat) (fallback : FallbackSlot Vec Rot)
    (slot : DeviceTransform Vec Rot) :
    (followFallback now fallback slot).enabled = slot.enabled := by
  unfold followFallback
  dsimp only
  split
  · rfl
  · rfl

/-! ### Drivers -/

@[simp]
theorem setTransform_self (driver : Driver Vec Rot) (id : Nat) (slot : DeviceTransform Vec Rot) :
    (driver.setTransform id slot).transforms id = slot := by
  simp only [Driver.setTransform, Function.update_self]

theorem setTransform_of_ne (driver : Driver Vec Rot) {id other : Nat}
    (slot : DeviceTransform Vec Rot) (different : other ≠ id) :
    (driver.setTransform id slot).transforms other = driver.transforms other := by
  simp only [Driver.setTransform, Function.update_of_ne different]

/-- An enabled slot does not follow a fallback. -/
def Exclusive (driver : Driver Vec Rot) : Prop :=
  ∀ id, (driver.transforms id).enabled = true → (driver.transforms id).fallbackActive = false

/-- The push of every slot that is enabled before is kept. -/
def KeepsPushes (before after : Driver Vec Rot) : Prop :=
  ∀ id, (before.transforms id).enabled = true →
    SamePush (before.transforms id) (after.transforms id)

theorem Exclusive.setTransform {driver : Driver Vec Rot} (exclusive : Exclusive driver) {id : Nat}
    {slot : DeviceTransform Vec Rot} (own : slot.enabled = true → slot.fallbackActive = false) :
    Exclusive (driver.setTransform id slot) := by
  intro other
  by_cases same : other = id
  · subst same
    rw [setTransform_self]
    exact own
  · rw [setTransform_of_ne driver slot same]
    exact exclusive other

theorem keepsPushes_setTransform {driver : Driver Vec Rot} {id : Nat}
    {slot : DeviceTransform Vec Rot}
    (own : (driver.transforms id).enabled = true → SamePush (driver.transforms id) slot) :
    KeepsPushes driver (driver.setTransform id slot) := by
  intro other enabled
  by_cases same : other = id
  · subst same
    rw [setTransform_self]
    exact own enabled
  · rw [setTransform_of_ne driver slot same]
    exact SamePush.refl _

theorem KeepsPushes.trans {first second third : Driver Vec Rot}
    (left : KeepsPushes first second) (right : KeepsPushes second third)
    (enabled_eq : ∀ id, (second.transforms id).enabled = (first.transforms id).enabled) :
    KeepsPushes first third := by
  intro id enabled
  have one := left id enabled
  have two := right id ((enabled_eq id).trans enabled)
  exact ⟨two.targetTransform_eq.trans one.targetTransform_eq, two.scale_eq.trans one.scale_eq,
    two.recalibrateOnMovement_eq.trans one.recalibrateOnMovement_eq⟩

/-- A slot whose control stays the same may be stored back. -/
theorem Exclusive.store {driver : Driver Vec Rot} (exclusive : Exclusive driver) {id : Nat}
    {slot : DeviceTransform Vec Rot} (control : SameControl (driver.transforms id) slot) :
    Exclusive (driver.setTransform id slot) ∧ KeepsPushes driver (driver.setTransform id slot) := by
  refine ⟨exclusive.setTransform ?_, keepsPushes_setTransform fun _ => control.toSamePush⟩
  intro enabled
  rw [control.fallbackActive_eq]
  exact exclusive id (control.enabled_eq.symm.trans enabled)

/-! ### Requests -/

theorem updateSlot_fallbackActive (now : Nat) (request : SetDeviceTransform Vec Rot)
    (slot : DeviceTransform Vec Rot) : (updateSlot now request slot).fallbackActive = false :=
  rfl

theorem exclusive_setDeviceTransform {driver : Driver Vec Rot} (exclusive : Exclusive driver)
    (now : Nat) (request : SetDeviceTransform Vec Rot) :
    Exclusive (driver.setDeviceTransform now request) := by
  unfold Driver.setDeviceTransform
  split
  · exact exclusive
  · exact exclusive.setTransform fun _ => updateSlot_fallbackActive now request _

theorem exclusive_setDevicePrediction {driver : Driver Vec Rot} (exclusive : Exclusive driver)
    (request : SetDevicePrediction) : Exclusive (driver.setDevicePrediction request) := by
  unfold Driver.setDevicePrediction
  split
  · exact exclusive
  · exact exclusive.setTransform (exclusive request.openVRID)

theorem exclusive_setTrackingSystemFallback {driver : Driver Vec Rot}
    (exclusive : Exclusive driver) (now : Nat) (request : SetTrackingSystemFallback Vec Rot) :
    Exclusive (driver.setTrackingSystemFallback now request) := by
  unfold Driver.setTrackingSystemFallback
  dsimp only
  split
  · exact exclusive
  · split
    · exact exclusive
    · intro id enabled
      dsimp only at enabled ⊢
      split at enabled
      · rename_i follows
        rw [if_pos follows]
        rfl
      · rename_i kept
        rw [if_neg kept]
        exact exclusive id enabled

/-! ### The pose hook -/

theorem applyFallback_of_disabled {driver : Driver Vec Rot} (exclusive : Exclusive driver)
    {id : Nat} (disabled : (driver.transforms id).enabled = false) (now : Nat)
    (pose : Pose Vec Rot) :
    Exclusive (applyFallback geo params qpcFreq now id pose driver).1 ∧
      KeepsPushes driver (applyFallback geo params qpcFreq now id pose driver).1 := by
  have refuted : (driver.transforms id).enabled = true → False := by
    rw [disabled]
    exact Bool.false_ne_true
  unfold applyFallback
  split
  · exact ⟨exclusive, fun other _ => SamePush.refl _⟩
  · dsimp only
    split
    · rename_i fallback _
      refine ⟨exclusive.setTransform ?_, keepsPushes_setTransform fun enabled => (refuted enabled).elim⟩
      intro enabled
      have applied := applySlot_sameControl geo params qpcFreq now
        (followFallback now fallback (driver.transforms id)) pose
      rw [applied.enabled_eq, followFallback_enabled] at enabled
      exact (refuted enabled).elim
    · split
      · exact ⟨exclusive.setTransform fun _ => rfl,
          keepsPushes_setTransform fun enabled => (refuted enabled).elim⟩
      · exact ⟨exclusive, fun other _ => SamePush.refl _⟩

theorem applyFallback_of_none {driver : Driver Vec Rot} (exclusive : Exclusive driver) {id : Nat}
    (enabled : (driver.transforms id).enabled = true)
    (absent : driver.enabledFallback id = none) (now : Nat) (pose : Pose Vec Rot) :
    (applyFallback geo params qpcFreq now id pose driver).1 = driver := by
  unfold applyFallback
  split
  · rfl
  · simp only [absent, exclusive id enabled, Bool.false_eq_true, if_false]

theorem setTransform_enabled {driver : Driver Vec Rot} {id : Nat} {slot : DeviceTransform Vec Rot}
    (control : SameControl (driver.transforms id) slot) (other : Nat) :
    ((driver.setTransform id slot).transforms other).enabled =
      (driver.transforms other).enabled := by
  by_cases same : other = id
  · subst same
    rw [setTransform_self]
    exact control.enabled_eq
  · rw [setTransform_of_ne driver slot same]

theorem beginPose_exclusive {driver : Driver Vec Rot} (exclusive : Exclusive driver)
    (now id : Nat) (pose : Pose Vec Rot) :
    Exclusive (beginPose geo params qpcFreq now id pose driver).1 ∧
      KeepsPushes driver (beginPose geo params qpcFreq now id pose driver).1 := by
  have control := enterHook_sameControl geo id pose driver
  have entered := exclusive.store control
  unfold beginPose
  dsimp only
  split
  · exact entered
  · split
    · have blended : SameControl
          ((driver.setTransform id (enterHook geo id pose driver).1).transforms id)
          (applySlot geo params qpcFreq now (enterHook geo id pose driver).1
            (enterHook geo id pose driver).2).1 := by
        rw [setTransform_self]
        exact applySlot_sameControl geo params qpcFreq now _ _
      have stored := entered.1.store blended
      exact ⟨stored.1, entered.2.trans stored.2 (setTransform_enabled control)⟩
    · rename_i disabled
      split
      · exact entered
      · have off : ((driver.setTransform id (enterHook geo id pose driver).1).transforms id).enabled =
            false := by
          rw [setTransform_self]
          exact Bool.eq_false_iff.mpr disabled
        have followed := applyFallback_of_disabled geo params qpcFreq entered.1 off now
          (enterHook geo id pose driver).2
        exact ⟨followed.1, entered.2.trans followed.2 (setTransform_enabled control)⟩

@[simp]
theorem storeLookup_transforms (now id : Nat) (query : Option Name) (driver : Driver Vec Rot) :
    (storeLookup now id query driver).transforms = driver.transforms := by
  unfold storeLookup
  split
  · rfl
  · split
    · rfl
    · rfl

theorem resumePose_exclusive {driver : Driver Vec Rot} (exclusive : Exclusive driver) {now id : Nat}
    {query : Option Name}
    (untouched : (driver.transforms id).enabled = false ∨
      (storeLookup now id query driver).enabledFallback id = none) (pose : Pose Vec Rot) :
    Exclusive (resumePose geo params qpcFreq now id pose query driver).1 ∧
      KeepsPushes driver (resumePose geo params qpcFreq now id pose query driver).1 := by
  have stored : Exclusive (storeLookup now id query driver) := by
    intro other
    rw [storeLookup_transforms]
    exact exclusive other
  have same : KeepsPushes driver = KeepsPushes (storeLookup now id query driver) := by
    funext after
    rw [KeepsPushes, KeepsPushes, storeLookup_transforms]
  unfold resumePose
  rw [same]
  by_cases disabled : (driver.transforms id).enabled = false
  · exact applyFallback_of_disabled geo params qpcFreq stored
      (by rw [storeLookup_transforms]; exact disabled) now pose
  · have enabled : ((storeLookup now id query driver).transforms id).enabled = true := by
      rw [storeLookup_transforms]
      exact Bool.not_eq_false _ ▸ disabled
    rw [applyFallback_of_none geo params qpcFreq stored enabled (untouched.resolve_left disabled)]
    exact ⟨stored, fun other _ => SamePush.refl _⟩

/-! ### Runs -/

variable {geo params qpcFreq}

/-- The condition on a step: a pose update that goes on after its query finds its slot still
disabled, or no enabled fallback for the tracking system of the device. -/
def unraced (system : System Vec Rot) : Event Vec Rot → Bool
  | .poseResumed now index query =>
    match system.inFlight[index]? with
    | some (id, _) => !(system.driver.transforms id).enabled ||
        ((storeLookup now id query system.driver).enabledFallback id).isNone
    | none => true
  | _ => true

def Unraced (system : System Vec Rot) (event : Event Vec Rot) : Prop :=
  unraced system event = true

instance (system : System Vec Rot) (event : Event Vec Rot) : Decidable (Unraced system event) :=
  inferInstanceAs (Decidable (_ = _))

theorem Unraced.untouched {system : System Vec Rot} {now index id : Nat} {query : Option Name}
    {pose : Pose Vec Rot} (met : Unraced system (.poseResumed now index query))
    (waiting : system.inFlight[index]? = some (id, pose)) :
    (system.driver.transforms id).enabled = false ∨
      (storeLookup now id query system.driver).enabledFallback id = none := by
  simpa [Unraced, unraced, waiting] using met

theorem exclusive_step {system after : System Vec Rot} {event : Event Vec Rot}
    (exclusive : Exclusive system.driver) (met : Unraced system event)
    (stepped : step geo params qpcFreq system event = some after) :
    Exclusive after.driver ∧ (event.isPose = true → KeepsPushes system.driver after.driver) := by
  cases event with
  | setDeviceTransform now request =>
    obtain rfl := Option.some.inj stepped
    exact ⟨exclusive_setDeviceTransform exclusive now request, fun pose => by cases pose⟩
  | setTrackingSystemFallback now request =>
    obtain rfl := Option.some.inj stepped
    exact ⟨exclusive_setTrackingSystemFallback exclusive now request, fun pose => by cases pose⟩
  | setDevicePrediction request =>
    obtain rfl := Option.some.inj stepped
    exact ⟨exclusive_setDevicePrediction exclusive request, fun pose => by cases pose⟩
  | poseUpdated now id pose =>
    obtain rfl := Option.some.inj stepped
    obtain ⟨kept, pushes⟩ := beginPose_exclusive geo params qpcFreq exclusive now id pose
    exact ⟨kept, fun _ => pushes⟩
  | poseResumed now index query =>
    rw [step] at stepped
    split at stepped
    · cases stepped
    · split at stepped
      · cases stepped
      · rename_i id pose waiting
        obtain rfl := Option.some.inj stepped
        obtain ⟨kept, pushes⟩ := resumePose_exclusive geo params qpcFreq exclusive
          (met.untouched waiting) pose
        exact ⟨kept, fun _ => pushes⟩

theorem exclusive_of_reaches {system : System Vec Rot}
    (reached : Reaches (step geo params qpcFreq) Unraced { driver := initialDriver geo } system) :
    Exclusive system.driver :=
  reached.invariant (fun _ enabled => absurd enabled Bool.false_ne_true)
    fun _ _ _ exclusive met stepped => (exclusive_step exclusive met stepped).1

/-- No lost push. In every state reached by unraced steps, an enabled slot follows no fallback, and
no unraced pose-update step writes the target, the scale or the motion flag of an enabled slot. -/
theorem pushes_survive {system : System Vec Rot}
    (reached : Reaches (step geo params qpcFreq) Unraced { driver := initialDriver geo } system) :
    (∀ id, (system.driver.transforms id).enabled = true →
      (system.driver.transforms id).fallbackActive = false) ∧
    ∀ event after, event.isPose = true → Unraced system event →
      step geo params qpcFreq system event = some after →
      ∀ id, (system.driver.transforms id).enabled = true →
        SamePush (system.driver.transforms id) (after.driver.transforms id) := by
  have exclusive := exclusive_of_reaches reached
  refine ⟨exclusive, ?_⟩
  intro event after pose met stepped
  exact (exclusive_step exclusive met stepped).2 pose

end Race

/-! ### A push inside the window -/

/-- The geometry of one axis. -/
def axis : Geometry Rat Unit where
  zero := 0
  identity := ()
  scaleVec factor vector := factor * vector
  distance first second := max (first - second) (second - first)
  angularDistance _ _ := 0
  degrees angle := angle
  compose first second := ⟨(), first.translation + second.translation⟩
  interpolateAround source lerp target _ :=
    ⟨(), source.translation + lerp * (target.translation - source.translation)⟩
  motionRamp pose := min 1 (max pose.velocity (-pose.velocity))

def speeds : AlignmentSpeedParams :=
  ⟨1 / 1000, 2 / 100, 1 / 10, 1 / 100, 1 / 20, 1 / 4, 1 / 20, 1 / 5, 2⟩

def atRest : Pose Rat Unit :=
  { position := 1
    rotation := ()
    worldFromDriver := ⟨(), 0⟩
    velocity := 0
    acceleration := 0
    angularVelocity := 0
    angularAcceleration := 0 }

/-- The fallback of the lighthouse system, and a push for the device with number 3. -/
def fallback : SetTrackingSystemFallback Rat Unit :=
  { systemName := ascii "lighthouse", enabled := true, translation := 9, rotation := () }

def push : SetDeviceTransform Rat Unit :=
  { openVRID := 3
    enabled := true
    updateTranslation := true
    updateRotation := true
    updateScale := true
    translation := 7
    rotation := ()
    targetSystem := ascii "lighthouse" }

theorem pushes_survive_update : ∃ system after,
    Reaches (step axis speeds 1000) Unraced { driver := initialDriver axis } system ∧
    (system.driver.transforms 3).enabled = true ∧
    step axis speeds 1000 system (.poseUpdated 4 3 atRest) = some after ∧
    SamePush (system.driver.transforms 3) (after.driver.transforms 3) := by
  obtain ⟨system, reached, enabled⟩ : ∃ system,
      Reaches (step axis speeds 1000) Unraced { driver := initialDriver axis } system ∧
      (system.driver.transforms 3).enabled = true :=
    reaches_evaluates [.setTrackingSystemFallback 0 fallback, .poseUpdated 1 3 atRest,
      .poseResumed 2 0 (some (ascii "lighthouse")), .setDeviceTransform 3 push] (by decide +kernel)
  exact ⟨system, _, reached, enabled, rfl,
    (pushes_survive reached).2 (.poseUpdated 4 3 atRest) _ rfl rfl rfl 3 enabled⟩

/-- The device's first pose update waits for the query, the push arrives, and the update goes on: the
enabled slot follows the fallback, and blends towards 9 instead of the 7 that was pushed. -/
theorem push_in_window_lost : ∃ system,
    run (step axis speeds 1000) { driver := initialDriver axis }
      [.setTrackingSystemFallback 0 fallback, .poseUpdated 1 3 atRest, .setDeviceTransform 2 push,
        .poseResumed 3 0 (some (ascii "lighthouse"))] = some system ∧
    (system.driver.transforms 3).enabled = true ∧
    (system.driver.transforms 3).fallbackActive = true ∧
    (system.driver.transforms 3).targetTransform = ⟨(), 9⟩ := by
  exact run_evaluates (by decide +kernel)

end PairDriver.Provider
