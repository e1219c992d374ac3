/-
This file is about the yaw correction that a tracker at rest gives rise to.

A tracker that rests for a second has its rotation locked, and every later tick turns
the calibration against the yaw between the locked rotation and the present one. Both
are raw rotations, so the error stays when the calibration is turned, and every tick
turns it again. The turns keep to the rate cap over every interval. They stay within
the error exactly if it is zero, or the cap times the time stays within it, or only
one tick takes any time.
-/

import PairDriver.BoundedSteps
import PairDriver.CalibrationTick

namespace PairDriver.RestYaw

open BoundedSteps Calibration

/-! ### Rotations -/

structure Rotation (Number : Type) where
  w : Number
  x : Number
  y : Number
  z : Number
deriving DecidableEq

/-- The functions of the mathematics library. -/
structure MathFunctions (Number : Type) where
  pi : Number
  sin : Number → Number
  cos : Number → Number
  acos : Number → Number
  atan2 : Number → Number → Number
  exp : Number → Number

section Correction

variable {Number : Type} [Field Number] [LinearOrder Number] (math : MathFunctions Number)

def Rotation.identity : Rotation Number := ⟨1, 0, 0, 0⟩

def Rotation.mul (first second : Rotation Number) : Rotation Number :=
  ⟨first.w * second.w - first.x * second.x - first.y * second.y - first.z * second.z,
    first.w * second.x + first.x * second.w + first.y * second.z - first.z * second.y,
    first.w * second.y + first.y * second.w + first.z * second.x - first.x * second.z,
    first.w * second.z + first.z * second.w + first.x * second.y - first.y * second.x⟩

def Rotation.conjugate (rotation : Rotation Number) : Rotation Number :=
  ⟨rotation.w, -rotation.x, -rotation.y, -rotation.z⟩

def Rotation.dot (first second : Rotation Number) : Number :=
  first.w * second.w + first.x * second.x + first.y * second.y + first.z * second.z

/-! ### Phases -/

inductive TrackingSystemClass where
  | unknown
  | lighthouse
  | quest
  | slimeVR
deriving DecidableEq

inductive RestPhase where
  | moving
  | recentlyAtRest
  | atRest
deriving DecidableEq

variable (Number) in
structure RestState where
  phase : RestPhase := .moving
  lastRot : Rotation Number := Rotation.identity
  phaseEnteredAt : Number := 0
  lockedRot : Rotation Number := Rotation.identity
  haveLock : Bool := false
  initialized : Bool := false
deriving DecidableEq

def kRestEnterDegPerSec : Number := 120.0
def kRestEnterSec : Number := 1.0

/-- The degrees per second between two rotations. -/
def angularVelDegPerSec (prior newRot : Rotation Number) (dtSec : Number) : Number :=
  let dotProd := max 0 (min 1 |prior.dot newRot|)
  let angleRad := 2.0 * math.acos dotProd
  angleRad * (180.0 / math.pi) / max dtSec 0.0001

def updatePhase (prior : RestState Number) (newRot : Rotation Number) (now dtSec : Number) :
    RestState Number :=
  if prior.initialized = false then
    { prior with
      phase := .moving
      lastRot := newRot
      phaseEnteredAt := now
      haveLock := false
      initialized := true }
  else
    let turned := { prior with lastRot := newRot }
    if kRestEnterDegPerSec < angularVelDegPerSec math prior.lastRot newRot dtSec then
      { turned with phase := .moving, phaseEnteredAt := now, haveLock := false }
    else
      match turned.phase with
      | .moving => { turned with phase := .recentlyAtRest, phaseEnteredAt := now }
      | .recentlyAtRest =>
        if kRestEnterSec ≤ now - turned.phaseEnteredAt then
          { turned with phase := .atRest, lockedRot := newRot, haveLock := true }
        else turned
      | .atRest => turned

/-- The yaw from the first rotation to the second, in radians. -/
def signedYawDeltaRad (fromQ toQ : Rotation Number) : Number :=
  let delta := toQ.mul fromQ.conjugate
  math.atan2 (2.0 * (delta.w * delta.y + delta.z * delta.x))
    (1 - 2.0 * (delta.x * delta.x + delta.y * delta.y))

/-! ### Steps -/

def applyBoundedYawStep (meanYawErrRad dtSec capDegPerSec : Number) : Number :=
  clampTo (capDegPerSec * (math.pi / 180.0) * dtSec) meanYawErrRad

def globalCeilingDegPerSec : Number := 0.50

/-- The caps of `RateCaps`. -/
def classCapDegPerSec : TrackingSystemClass → Number
  | .lighthouse => 0.05
  | .quest => 0.15
  | .slimeVR => 0.30
  | .unknown => 0.15

def capForClass (cls : TrackingSystemClass) : Number :=
  min (classCapDegPerSec cls) globalCeilingDegPerSec

variable (Number) in
structure YawContribution where
  yawErrRad : Number
  weight : Number
  cls : TrackingSystemClass

def classWeight : TrackingSystemClass → Number
  | .lighthouse => 1.0
  | .quest => 0.6
  | .slimeVR => 0.3
  | .unknown => 0.5

def ageWeight (secondsSinceLock : Number) : Number :=
  if secondsSinceLock ≤ 0 then 1 else math.exp (-secondsSinceLock / 120.0)

def qualityWeight (sigmaYawRad : Number) : Number :=
  1 / (1 + sigmaYawRad * sigmaYawRad)

def fuseYawContributionsRad (contributions : List (YawContribution Number)) : Number :=
  let sumSin := (contributions.map fun one => one.weight * math.sin one.yawErrRad).sum
  let sumCos := (contributions.map fun one => one.weight * math.cos one.yawErrRad).sum
  if (contributions.map YawContribution.weight).sum ≤ 0 then 0 else math.atan2 sumSin sumCos

/-- The cap of a tick: the least of the classes that contribute, and the ceiling. -/
def capDegPerSec (contributions : List (YawContribution Number)) : Number :=
  contributions.foldl
    (fun cap one => if capForClass one.cls < cap then capForClass one.cls else cap)
    globalCeilingDegPerSec

/-! ### Devices -/

variable (Number) in
structure DevicePose where
  poseIsValid : Bool := true
  deviceIsConnected : Bool := true
  runningOk : Bool := true
  worldFromDriverRotation : Rotation Number := Rotation.identity
  rotation : Rotation Number

/-- `WorldRotationFromPose`. -/
def DevicePose.worldRotation (pose : DevicePose Number) : Rotation Number :=
  pose.worldFromDriverRotation.mul pose.rotation

def classifyTrackingSystem (name : String) : TrackingSystemClass :=
  let lower := name.toList.map Char.toLower
  if lower = [] then .unknown
  else if "lighthouse".toList <:+: lower then .lighthouse
  else if "oculus".toList <:+: lower then .quest
  else if "quest".toList <:+: lower then .quest
  else if "slime".toList <:+: lower then .slimeVR
  else .unknown

structure ExtraTarget where
  enabled : Bool := true
  valid : Bool := true
  targetID : Int
  trackingSystem : String

variable (Number) in
/-- What a tick reads of the context and of the poses. -/
structure TickInputs where
  restLockedYawEnabled : Bool := true
  useUpstreamMath : Bool := false
  state : CalibrationState := .none
  validProfile : Bool := true
  targetID : Int := 0
  targetTrackingSystem : String := ""
  extras : List ExtraTarget := []
  devicePoses : Nat → DevicePose Number
  now : Number

variable (Number) in
/-- The static variables of the correction, and the yaw of the calibration in degrees. -/
structure YawState where
  restStates : Nat → Option (RestState Number) := fun _ => none
  lastTickTime : Number := -1
  calibratedYaw : Number := 0

variable (Number) in
/-- The rest states while the devices are walked, and the contributions with their devices. -/
structure Scan where
  restStates : Nat → Option (RestState Number)
  contributions : List (Nat × YawContribution Number) := []

/-- The contribution of a device at rest. -/
def contribute (rest : RestState Number) (worldRot : Rotation Number) (cls : TrackingSystemClass)
    (now : Number) : YawContribution Number :=
  { yawErrRad := -signedYawDeltaRad math rest.lockedRot worldRot
    weight := classWeight cls * ageWeight math (max 0 (now - rest.phaseEnteredAt)) * qualityWeight 0
    cls := cls }

def considerDevice (inputs : TickInputs Number) (dtSec : Number) (id : Nat)
    (trackingSystem : String) (scan : Scan Number) : Scan Number :=
  let pose := inputs.devicePoses id
  if pose.poseIsValid && pose.deviceIsConnected && pose.runningOk then
    let prior := (scan.restStates id).getD {}
    let rest := updatePhase math prior pose.worldRotation inputs.now dtSec
    if rest.phase = .atRest ∧ rest.haveLock = true then
      let stamped := if prior.haveLock then rest else { rest with phaseEnteredAt := inputs.now }
      { restStates := Function.update scan.restStates id (some stamped)
        contributions := scan.contributions ++ [(id, contribute math stamped pose.worldRotation
          (classifyTrackingSystem trackingSystem) inputs.now)] }
    else { scan with restStates := Function.update scan.restStates id (some rest) }
  else { scan with restStates := Function.update scan.restStates id none }

/-- An extra is considered if its device is not one that contributed. -/
def considerExtra (inputs : TickInputs Number) (dtSec : Number) (scan : Scan Number)
    (extra : ExtraTarget) : Scan Number :=
  if extra.enabled && extra.valid && decide (0 ≤ extra.targetID) &&
      decide (extra.targetID < 64) &&
      !scan.contributions.any (fun one => one.1 == extra.targetID.toNat) then
    considerDevice math inputs dtSec extra.targetID.toNat extra.trackingSystem scan
  else scan

def scanDevices (inputs : TickInputs Number) (dtSec : Number)
    (restStates : Nat → Option (RestState Number)) : Scan Number :=
  let target :=
    if 0 ≤ inputs.targetID ∧ inputs.targetID < 64 then
      considerDevice math inputs dtSec inputs.targetID.toNat inputs.targetTrackingSystem
        { restStates := restStates }
    else { restStates := restStates }
  inputs.extras.foldl (considerExtra math inputs dtSec) target

/-- The correction is on, and no calibration is under way. -/
def TickInputs.allowed (inputs : TickInputs Number) : Bool :=
  inputs.restLockedYawEnabled && !inputs.useUpstreamMath &&
    match inputs.state with
    | .continuous | .begin | .rotation | .translation => false
    | _ => true

/-- The time since the last tick. -/
def YawState.elapsed (state : YawState Number) (inputs : TickInputs Number) : Number :=
  if 0 < state.lastTickTime then inputs.now - state.lastTickTime else 0

/-- What the walk over the devices finds. -/
def YawState.scan (state : YawState Number) (inputs : TickInputs Number) : Scan Number :=
  scanDevices math inputs (state.elapsed inputs) state.restStates

def YawState.contributions (state : YawState Number) (inputs : TickInputs Number) :
    List (YawContribution Number) :=
  (state.scan math inputs).contributions.map Prod.snd

/-- `TickRestLockedYaw`. -/
def tickRestLockedYaw (state : YawState Number) (inputs : TickInputs Number) : YawState Number :=
  if !inputs.allowed then { state with restStates := fun _ => none, lastTickTime := -1 }
  else if !inputs.validProfile then state
  else
    let scanned := { state with
      restStates := (state.scan math inputs).restStates
      lastTickTime := inputs.now }
    let contributions := state.contributions math inputs
    if contributions = [] ∨ state.elapsed inputs ≤ 0 then scanned
    else
      let stepRad := applyBoundedYawStep math (fuseYawContributionsRad math contributions)
        (state.elapsed inputs) (capDegPerSec contributions)
      { scanned with calibratedYaw := state.calibratedYaw + stepRad * (180.0 / math.pi) }

/-! ### Runs -/

def step (state : YawState Number) (inputs : TickInputs Number) : Option (YawState Number) :=
  some (tickRestLockedYaw math state inputs)

/-- The time is not negative, and not before that of the last tick. -/
def Timely (state : YawState Number) (inputs : TickInputs Number) : Prop :=
  0 ≤ inputs.now ∧ state.lastTickTime ≤ inputs.now

def runTicks (state : YawState Number) (ticks : List (TickInputs Number)) : YawState Number :=
  ticks.foldl (tickRestLockedYaw math) state

/-- The steps of a run, in degrees. -/
def changes : YawState Number → List (TickInputs Number) → List Number
  | _, [] => []
  | state, inputs :: rest =>
    ((tickRestLockedYaw math state inputs).calibratedYaw - state.calibratedYaw) ::
      changes (tickRestLockedYaw math state inputs) rest

/-- The times that the ticks of a run take. -/
def durations : YawState Number → List (TickInputs Number) → List Number
  | _, [] => []
  | state, inputs :: rest =>
    (if inputs.allowed && inputs.validProfile then state.elapsed inputs else 0) ::
      durations (tickRestLockedYaw math state inputs) rest

/-- No tick of the run has a cap above the given one. -/
def CapsBelow (cap : Number) : YawState Number → List (TickInputs Number) → Prop
  | _, [] => True
  | state, inputs :: rest =>
    capDegPerSec (state.contributions math inputs) ≤ cap ∧
      CapsBelow cap (tickRestLockedYaw math state inputs) rest

/-- The interval holds the ticks of a run, in order, and the last tick before them that counted. -/
structure Spans (since finish : Number) (state : YawState Number)
    (ticks : List (TickInputs Number)) : Prop where
  starts : state.lastTickTime ≤ 0 ∨ since ≤ state.lastTickTime
  holds : ∀ inputs ∈ ticks, since ≤ inputs.now ∧ inputs.now ≤ finish
  ordered : ticks.Pairwise fun earlier later => earlier.now ≤ later.now

/-- Over every interval that holds the run, the steps keep to the cap times the length. -/
def RateBounded (state : YawState Number) (ticks : List (TickInputs Number)) : Prop :=
  ∀ since finish cap : Number, since ≤ finish → 0 ≤ cap → Spans since finish state ticks →
    CapsBelow math cap state ticks →
      ((changes math state ticks).map abs).sum ≤ cap * (finish - since)

/-- The device has a lock on the rotation. -/
def YawState.Locked (state : YawState Number) (id : Nat) (locked : Rotation Number) : Prop :=
  ∃ rest, state.restStates id = some rest ∧ rest.phase = .atRest ∧ rest.haveLock = true ∧
    rest.lockedRot = locked

/-- The tick finds the device, alone of all, at rest with the lock, and in the raw rotation. -/
structure Rests (id : Nat) (cls : TrackingSystemClass) (locked raw : Rotation Number)
    (state : YawState Number) (inputs : TickInputs Number) : Prop where
  allowed : inputs.allowed = true
  later : state.lastTickTime ≤ inputs.now
  alone : inputs.validProfile = true →
    (state.scan math inputs).contributions.map (fun one => (one.1, one.2.cls)) = [(id, cls)]
  turned : inputs.validProfile = true → (inputs.devicePoses id).worldRotation = raw
  keeps : (tickRestLockedYaw math state inputs).Locked id locked

/-- Every tick of the run finds the device so. -/
def RestsThrough (id : Nat) (cls : TrackingSystemClass) (locked raw : Rotation Number) :
    YawState Number → List (TickInputs Number) → Prop
  | _, [] => True
  | state, inputs :: rest =>
    Rests math id cls locked raw state inputs ∧
      RestsThrough id cls locked raw (tickRestLockedYaw math state inputs) rest

/-- The error against the locked rotation, in degrees. -/
def yawErrorDeg (locked raw : Rotation Number) : Number :=
  signedYawDeltaRad math locked raw * (180.0 / math.pi)

/-- What the run applied stays within the error. -/
def WithinError (locked raw : Rotation Number) (state : YawState Number)
    (ticks : List (TickInputs Number)) : Prop :=
  |(runTicks math state ticks).calibratedYaw - state.calibratedYaw| ≤ |yawErrorDeg math locked raw|

end Correction

/-! ### Real arithmetic -/

noncomputable def realFunctions : MathFunctions ℝ where
  pi := Real.pi
  sin := Real.sin
  cos := Real.cos
  acos := Real.arccos
  atan2 := fun y x => Complex.arg ⟨x, y⟩
  exp := Real.exp

theorem globalCeiling_pos : (0 : ℝ) < globalCeilingDegPerSec := by
  norm_num [globalCeilingDegPerSec]

theorem capForClass_pos (cls : TrackingSystemClass) : (0 : ℝ) < capForClass cls := by
  refine lt_min ?_ globalCeiling_pos
  cases cls <;> norm_num [classCapDegPerSec]

theorem capDegPerSec_nonneg (contributions : List (YawContribution ℝ)) :
    0 ≤ capDegPerSec contributions := by
  unfold capDegPerSec
  refine List.foldlRecOn contributions _ globalCeiling_pos.le fun cap nonneg one _ => ?_
  split
  · exact (capForClass_pos one.cls).le
  · exact nonneg

/-- A class alone gives its cap. -/
theorem capDegPerSec_single (one : YawContribution ℝ) :
    capDegPerSec [one] = capForClass one.cls := by
  unfold capDegPerSec
  rw [List.foldl_cons, List.foldl_nil]
  split
  · rfl
  · rename_i above
    exact le_antisymm (not_lt.mp above) (min_le_right _ _)

/-- A step in degrees. -/
theorem stepDeg_eq (error dtSec cap : ℝ) :
    applyBoundedYawStep realFunctions error dtSec cap * (180.0 / realFunctions.pi) =
      clampTo (cap * dtSec) (error * (180.0 / realFunctions.pi)) := by
  have positive : 0 < 180.0 / realFunctions.pi := div_pos (by norm_num) Real.pi_pos
  unfold applyBoundedYawStep
  rw [← clampTo_mul positive]
  congr 1
  have nonzero : realFunctions.pi ≠ 0 := Real.pi_ne_zero
  field_simp

/-! ### What a tick can do -/

/-- The outcomes of a tick. -/
inductive Ticked (state : YawState ℝ) (inputs : TickInputs ℝ) : YawState ℝ → Prop
  | closed : inputs.allowed = false →
      Ticked state inputs { state with restStates := fun _ => none, lastTickTime := -1 }
  | skipped : inputs.allowed = true → inputs.validProfile = false → Ticked state inputs state
  | counted : inputs.allowed = true → inputs.validProfile = true →
      ∀ change, |change| ≤ capDegPerSec (state.contributions realFunctions inputs) *
          max 0 (state.elapsed inputs) →
        (∀ one, state.contributions realFunctions inputs = [one] → 0 ≤ state.elapsed inputs →
          change = clampTo (capForClass one.cls * state.elapsed inputs)
            (fuseYawContributionsRad realFunctions [one] * (180.0 / realFunctions.pi))) →
        Ticked state inputs
          { restStates := (state.scan realFunctions inputs).restStates
            lastTickTime := inputs.now
            calibratedYaw := state.calibratedYaw + change }

theorem ticked (state : YawState ℝ) (inputs : TickInputs ℝ) :
    Ticked state inputs (tickRestLockedYaw realFunctions state inputs) := by
  unfold tickRestLockedYaw
  cases allowed : inputs.allowed with
  | false => exact .closed allowed
  | true =>
    cases valid : inputs.validProfile with
    | false => exact .skipped allowed valid
    | true =>
      simp only [Bool.not_true, Bool.false_eq_true, if_false]
      have cap := capDegPerSec_nonneg (state.contributions realFunctions inputs)
      split
      · rename_i nothing
        have counted := Ticked.counted allowed valid 0
          (abs_zero.trans_le (mul_nonneg cap (le_max_left _ _))) fun one single positive => ?_
        · rw [add_zero] at counted
          exact counted
        · rcases nothing with empty | still
          · exact absurd (empty.symm.trans single) nofun
          · rw [le_antisymm still positive, mul_zero, clampTo_zero]
      · rename_i busy
        have moves : 0 < state.elapsed inputs := not_le.mp fun still => busy (Or.inr still)
        rw [stepDeg_eq]
        refine .counted allowed valid _ ?_ fun one single _ => ?_
        · rw [abs_clampTo (mul_nonneg cap moves.le), max_eq_right moves.le]
          exact min_le_right _ _
        · rw [single, capDegPerSec_single]

/-! ### Intervals -/

theorem elapsed_le {state : YawState ℝ} {inputs : TickInputs ℝ} {since : ℝ}
    (starts : state.lastTickTime ≤ 0 ∨ since ≤ state.lastTickTime) (later : since ≤ inputs.now) :
    state.elapsed inputs ≤ inputs.now - since := by
  unfold YawState.elapsed
  split
  · rename_i running
    exact sub_le_sub_left (starts.resolve_left running.not_ge) inputs.now
  · exact sub_nonneg.mpr later

/-- The steps of every run keep to the rate cap. -/
theorem rateBounded (state : YawState ℝ) (ticks : List (TickInputs ℝ)) :
    RateBounded realFunctions state ticks := by
  intro since finish cap ordered nonneg spans below
  induction ticks generalizing state since with
  | nil => exact mul_nonneg nonneg (sub_nonneg.mpr ordered)
  | cons inputs rest inductionHypothesis =>
    obtain ⟨starts, holds, sorted⟩ := spans
    obtain ⟨⟨later, earlier⟩, others⟩ := List.forall_mem_cons.mp holds
    obtain ⟨first, sorted⟩ := List.pairwise_cons.mp sorted
    obtain ⟨capped, below⟩ := below
    unfold changes
    rw [List.map_cons, List.sum_cons]
    have outcome := ticked state inputs
    generalize tickRestLockedYaw realFunctions state inputs = after at outcome below
    cases outcome with
    | closed _ =>
      rw [sub_self, abs_zero, zero_add]
      exact inductionHypothesis _ since ordered ⟨Or.inl (by norm_num), others, sorted⟩ below
    | skipped _ _ =>
      rw [sub_self, abs_zero, zero_add]
      exact inductionHypothesis _ since ordered ⟨starts, others, sorted⟩ below
    | counted _ _ change bounded _ =>
      have steps := inductionHypothesis _ inputs.now earlier ⟨Or.inr le_rfl,
        fun other among => ⟨first other among, (others other among).2⟩, sorted⟩ below
      have within : max 0 (state.elapsed inputs) ≤ inputs.now - since :=
        max_le (sub_nonneg.mpr later) (elapsed_le starts later)
      have step : |change| ≤ cap * (inputs.now - since) :=
        bounded.trans (mul_le_mul capped within (le_max_left _ _) nonneg)
      rw [add_sub_cancel_left]
      refine (add_le_add step steps).trans (le_of_eq ?_)
      ring

/-! ### Locks -/

/-- A device that rests has rested for a second. -/
def Settled (time : ℝ) (restStates : Nat → Option (RestState ℝ)) : Prop :=
  ∀ id rest, restStates id = some rest →
    0 ≤ rest.phaseEnteredAt ∧ (rest.phase = .atRest → 1 ≤ time)

theorem Settled.update {time : ℝ} {restStates : Nat → Option (RestState ℝ)}
    (settled : Settled time restStates) (id : Nat) {entry : Option (RestState ℝ)}
    (own : ∀ rest, entry = some rest →
      0 ≤ rest.phaseEnteredAt ∧ (rest.phase = .atRest → 1 ≤ time)) :
    Settled time (Function.update restStates id entry) := by
  intro other rest found
  by_cases same : other = id
  · subst same
    rw [Function.update_self] at found
    exact own rest found
  · rw [Function.update_of_ne same] at found
    exact settled other rest found

theorem updatePhase_settled {prior : RestState ℝ} {now : ℝ} (nonneg : 0 ≤ now)
    (entered : 0 ≤ prior.phaseEnteredAt) (rested : prior.phase = .atRest → 1 ≤ now)
    (newRot : Rotation ℝ) (dtSec : ℝ) :
    let rest := updatePhase realFunctions prior newRot now dtSec
    0 ≤ rest.phaseEnteredAt ∧ (rest.phase = .atRest → 1 ≤ now) := by
  unfold updatePhase
  dsimp only
  split
  · exact ⟨nonneg, nofun⟩
  · split
    · exact ⟨nonneg, nofun⟩
    · split
      · exact ⟨nonneg, nofun⟩
      · split
        · rename_i long
          refine ⟨entered, fun _ => ?_⟩
          have second : (kRestEnterSec : ℝ) = 1 := by norm_num [kRestEnterSec]
          rw [second] at long
          linarith
        · rename_i recently _
          exact ⟨entered, fun rest => absurd (recently.symm.trans rest) nofun⟩
      · exact ⟨entered, rested⟩

/-- What the walk keeps: rest states that are settled, and a rest state behind every
contribution. -/
structure Walked (inputs : TickInputs ℝ) (scan : Scan ℝ) : Prop where
  settled : Settled inputs.now scan.restStates
  behind : ∀ one ∈ scan.contributions, ∃ rest cls, scan.restStates one.1 = some rest ∧
    one.2 = contribute realFunctions rest (inputs.devicePoses one.1).worldRotation cls inputs.now

theorem Walked.consider {inputs : TickInputs ℝ} {scan : Scan ℝ} (walked : Walked inputs scan)
    (nonneg : 0 ≤ inputs.now) {id : Nat} (fresh : ∀ one ∈ scan.contributions, one.1 ≠ id)
    (dtSec : ℝ) (system : String) :
    Walked inputs (considerDevice realFunctions inputs dtSec id system scan) := by
  have kept : ∀ entry, ∀ one ∈ scan.contributions, ∃ rest cls,
      Function.update scan.restStates id entry one.1 = some rest ∧
      one.2 = contribute realFunctions rest (inputs.devicePoses one.1).worldRotation cls
        inputs.now := by
    intro entry one among
    rw [Function.update_of_ne (fresh one among)]
    exact walked.behind one among
  have prior : 0 ≤ ((scan.restStates id).getD {}).phaseEnteredAt ∧
      (((scan.restStates id).getD {}).phase = .atRest → 1 ≤ inputs.now) := by
    cases found : scan.restStates id with
    | none => exact ⟨le_rfl, nofun⟩
    | some rest => exact walked.settled id rest found
  have updated := updatePhase_settled nonneg prior.1 prior.2
    (inputs.devicePoses id).worldRotation dtSec
  unfold considerDevice
  dsimp only at updated ⊢
  split
  · split
    · have stamped : ∀ rest : RestState ℝ, some (if ((scan.restStates id).getD {}).haveLock = true
            then updatePhase realFunctions ((scan.restStates id).getD {})
              (inputs.devicePoses id).worldRotation inputs.now dtSec
            else { updatePhase realFunctions ((scan.restStates id).getD {})
              (inputs.devicePoses id).worldRotation inputs.now dtSec with
                phaseEnteredAt := inputs.now }) = some rest →
          0 ≤ rest.phaseEnteredAt ∧ (rest.phase = .atRest → 1 ≤ inputs.now) := by
        intro rest same
        obtain rfl := Option.some.inj same
        split
        · exact updated
        · exact ⟨nonneg, updated.2⟩
      refine ⟨walked.settled.update id stamped, ?_⟩
      refine List.forall_mem_append.mpr ⟨kept _, List.forall_mem_singleton.mpr ?_⟩
      exact ⟨_, _, Function.update_self .., rfl⟩
    · refine ⟨walked.settled.update id fun rest same => ?_, kept _⟩
      obtain rfl := Option.some.inj same
      exact updated
  · exact ⟨walked.settled.update id nofun, kept _⟩

theorem Walked.considerExtra {inputs : TickInputs ℝ} {scan : Scan ℝ} (walked : Walked inputs scan)
    (nonneg : 0 ≤ inputs.now) (dtSec : ℝ) (extra : ExtraTarget) :
    Walked inputs (considerExtra realFunctions inputs dtSec scan extra) := by
  unfold RestYaw.considerExtra
  split
  · rename_i considered
    refine walked.consider nonneg (fun one among same => ?_) dtSec extra.trackingSystem
    have already : scan.contributions.any (fun one => one.1 == extra.targetID.toNat) = true :=
      List.any_eq_true.mpr ⟨one, among, beq_iff_eq.mpr same⟩
    rw [already, Bool.not_true, Bool.and_false] at considered
    exact Bool.false_ne_true considered
  · exact walked

theorem walked_scan {state : YawState ℝ} {inputs : TickInputs ℝ}
    (settled : Settled state.lastTickTime state.restStates) (timely : Timely state inputs) :
    Walked inputs (state.scan realFunctions inputs) := by
  have start : Walked inputs { restStates := state.restStates } :=
    ⟨fun id rest found => (settled id rest found).imp_right
      fun rested resting => (rested resting).trans timely.2, nofun⟩
  unfold YawState.scan scanDevices
  dsimp only
  refine List.foldlRecOn inputs.extras _ ?_ fun scan walked extra _ =>
    walked.considerExtra timely.1 _ extra
  split
  · exact start.consider timely.1 nofun _ _
  · exact start

/-- In every state reached, a device at rest has rested for a second. -/
theorem settled_of_reaches {state : YawState ℝ}
    (reached : Reaches (step realFunctions) Timely {} state) :
    Settled state.lastTickTime state.restStates := by
  refine @Reaches.invariant _ _ _ _ _ _
    (fun state => Settled state.lastTickTime state.restStates) reached ?_ ?_
  · intro id rest found
    cases found
  · intro before inputs after settled timely stepped
    obtain rfl := Option.some.inj stepped
    have outcome := ticked before inputs
    generalize tickRestLockedYaw realFunctions before inputs = after at outcome
    cases outcome with
    | closed _ => exact nofun
    | skipped _ _ => exact settled
    | counted _ _ _ _ _ => exact (walked_scan settled timely).settled

/-! ### A device at rest -/

/-- The direction opposite to a yaw. -/
noncomputable def opposite (yaw : ℝ) : ℝ :=
  Complex.arg ⟨Real.cos (-yaw), Real.sin (-yaw)⟩

theorem arg_direction {yaw : ℝ} (within : yaw ∈ Set.Ioc (-Real.pi) Real.pi) :
    Complex.arg ⟨Real.cos yaw, Real.sin yaw⟩ = yaw := by
  rw [Complex.mk_eq_add_mul_I, Complex.ofReal_cos, Complex.ofReal_sin,
    Complex.arg_cos_add_sin_mul_I within]

theorem abs_opposite {yaw : ℝ} (within : yaw ∈ Set.Ioc (-Real.pi) Real.pi) :
    |opposite yaw| = |yaw| := by
  unfold opposite
  rcases within.2.eq_or_lt with rfl | less
  · rw [Real.cos_neg, Real.sin_neg, Real.sin_pi, neg_zero, ← Real.sin_pi, arg_direction within]
  · rw [arg_direction ⟨neg_lt_neg less, neg_le.mp within.1.le⟩, abs_neg]

/-- One contribution alone is the mean, whatever its weight. -/
theorem fuse_single {one : YawContribution ℝ} (positive : 0 < one.weight) :
    fuseYawContributionsRad realFunctions [one] = opposite (-one.yawErrRad) := by
  unfold fuseYawContributionsRad opposite
  simp only [List.map_cons, List.map_nil, List.sum_singleton]
  rw [if_neg positive.not_ge, neg_neg, ← Complex.arg_real_mul _ positive]
  exact congrArg Complex.arg (Complex.ext (by simp [realFunctions]) (by simp [realFunctions]))

theorem contribute_weight_pos (rest : RestState ℝ) (worldRot : Rotation ℝ)
    (cls : TrackingSystemClass) (now : ℝ) :
    0 < (contribute realFunctions rest worldRot cls now).weight := by
  unfold contribute
  refine mul_pos (mul_pos ?_ ?_) (by norm_num [qualityWeight])
  · cases cls <;> norm_num [classWeight]
  · unfold ageWeight
    split
    · exact one_pos
    · exact Real.exp_pos _

/-- The yaw is that of a complex number. -/
theorem signedYaw_mem (fromQ toQ : Rotation ℝ) :
    signedYawDeltaRad realFunctions fromQ toQ ∈ Set.Ioc (-Real.pi) Real.pi :=
  Complex.arg_mem_Ioc _

/-- The error that every tick of a device at rest goes against, in degrees. -/
noncomputable def correctionDeg (locked raw : Rotation ℝ) : ℝ :=
  opposite (signedYawDeltaRad realFunctions locked raw) * (180.0 / realFunctions.pi)

theorem abs_correctionDeg (locked raw : Rotation ℝ) :
    |correctionDeg locked raw| = |yawErrorDeg realFunctions locked raw| := by
  unfold correctionDeg yawErrorDeg
  rw [abs_mul, abs_mul, abs_opposite (signedYaw_mem locked raw)]

section AtRest

variable {id : Nat} {cls : TrackingSystemClass} {locked raw : Rotation ℝ}

/-- While it has a lock, a device has rested for a second. -/
theorem one_le_of_locked {state : YawState ℝ}
    (settled : Settled state.lastTickTime state.restStates) (lock : state.Locked id locked) :
    1 ≤ state.lastTickTime := by
  obtain ⟨rest, found, resting, -, -⟩ := lock
  exact (settled id rest found).2 resting

/-- The contribution of the device is against the error. -/
theorem Rests.single {state : YawState ℝ} {inputs : TickInputs ℝ}
    (rests : Rests realFunctions id cls locked raw state inputs)
    (valid : inputs.validProfile = true)
    (walked : Walked inputs (state.scan realFunctions inputs))
    (lock : ∀ rest, (state.scan realFunctions inputs).restStates id = some rest →
      rest.lockedRot = locked) :
    ∃ one, state.contributions realFunctions inputs = [one] ∧ one.cls = cls ∧
      fuseYawContributionsRad realFunctions [one] =
        opposite (signedYawDeltaRad realFunctions locked raw) := by
  have alone := rests.alone valid
  obtain ⟨found, contributions, named⟩ := List.map_eq_singleton_iff.mp alone
  obtain ⟨rfl, rfl⟩ := Prod.mk.inj named
  obtain ⟨rest, system, stored, contributed⟩ := walked.behind found
    (contributions ▸ List.mem_singleton_self found)
  have weighs : 0 < found.2.weight := by
    rw [contributed]
    exact contribute_weight_pos _ _ _ _
  refine ⟨found.2, ?_, rfl, ?_⟩
  · unfold YawState.contributions
    rw [contributions]
    rfl
  · rw [fuse_single weighs, contributed]
    unfold contribute
    dsimp only
    rw [neg_neg, lock rest stored, rests.turned valid]

/-- Every tick of the device goes against the error, as far as its time allows. -/
theorem rests_steps {state : YawState ℝ} {ticks : List (TickInputs ℝ)}
    (settled : Settled state.lastTickTime state.restStates) (lock : state.Locked id locked)
    (rests : RestsThrough realFunctions id cls locked raw state ticks) :
    (∀ time ∈ durations realFunctions state ticks, 0 ≤ time) ∧
    (durations realFunctions state ticks).sum =
      (runTicks realFunctions state ticks).lastTickTime - state.lastTickTime ∧
    (runTicks realFunctions state ticks).calibratedYaw - state.calibratedYaw =
      ((durations realFunctions state ticks).map fun time =>
        clampTo (capForClass cls * time) (correctionDeg locked raw)).sum := by
  induction ticks generalizing state with
  | nil => exact ⟨nofun, (sub_self _).symm, sub_self _⟩
  | cons inputs rest inductionHypothesis =>
    obtain ⟨own, others⟩ := rests
    have second := one_le_of_locked settled lock
    have running : 0 < state.lastTickTime := one_pos.trans_le second
    have timely : Timely state inputs := ⟨running.le.trans own.later, own.later⟩
    have walked := walked_scan settled timely
    have elapsed : state.elapsed inputs = inputs.now - state.lastTickTime := if_pos running
    have kept := own.keeps
    have outcome := ticked state inputs
    unfold durations
    rw [show runTicks realFunctions state (inputs :: rest) =
      runTicks realFunctions (tickRestLockedYaw realFunctions state inputs) rest from rfl]
    generalize tickRestLockedYaw realFunctions state inputs = after at outcome kept others
    cases outcome with
    | closed shut => exact absurd (own.allowed.symm.trans shut) nofun
    | skipped allowed invalid =>
      obtain ⟨nonneg, total, steps⟩ := inductionHypothesis settled kept others
      rw [invalid, Bool.and_false, if_neg Bool.false_ne_true, List.forall_mem_cons,
        List.sum_cons, List.map_cons, List.sum_cons, mul_zero, clampTo_zero, zero_add, zero_add]
      exact ⟨⟨le_rfl, nonneg⟩, total, steps⟩
    | counted allowed valid change bounded exactly =>
      obtain ⟨nonneg, total, steps⟩ := inductionHypothesis walked.settled kept others
      obtain ⟨stored, found, -, -, same⟩ := kept
      obtain ⟨one, single, cls_eq, mean⟩ := own.single valid walked fun other lookup =>
        Option.some.inj (lookup.symm.trans found) ▸ same
      have forward : 0 ≤ state.elapsed inputs := by
        rw [elapsed]
        exact sub_nonneg.mpr own.later
      have moved : change = clampTo (capForClass cls * (inputs.now - state.lastTickTime))
          (correctionDeg locked raw) := by
        rw [← elapsed, ← cls_eq, exactly one single forward, mean]
        rfl
      rw [allowed, valid, Bool.and_self, if_pos rfl, List.forall_mem_cons, List.sum_cons,
        List.map_cons, List.sum_cons, total, elapsed, ← steps]
      refine ⟨⟨sub_nonneg.mpr own.later, nonneg⟩, ?_, ?_⟩
      · dsimp only
        ring
      · rw [← moved]
        ring

/-- The steps of every run keep to the rate cap. While one device rests with a lock and in another
rotation, what is applied stays within the error exactly if the error is zero, or the cap times the
time stays within it, or at most one tick takes any time. -/
theorem rest_yaw_within_iff {start : YawState ℝ}
    (reached : Reaches (step realFunctions) Timely {} start) (ticks : List (TickInputs ℝ)) :
    RateBounded realFunctions start ticks ∧
    (start.Locked id locked → RestsThrough realFunctions id cls locked raw start ticks →
      (WithinError realFunctions locked raw start ticks ↔
        yawErrorDeg realFunctions locked raw = 0 ∨
        capForClass cls * ((runTicks realFunctions start ticks).lastTickTime -
          start.lastTickTime) ≤ |yawErrorDeg realFunctions locked raw| ∨
        AtMostOne (durations realFunctions start ticks))) := by
  refine ⟨rateBounded start ticks, fun lock rests => ?_⟩
  obtain ⟨nonneg, total, steps⟩ := rests_steps (settled_of_reaches reached) lock rests
  have cap := capForClass_pos cls
  have bounds : ∀ bound ∈ (durations realFunctions start ticks).map (capForClass cls * ·),
      0 ≤ bound :=
    List.forall_mem_map.mpr fun time among => mul_nonneg cap.le (nonneg time among)
  have one : AtMostOne ((durations realFunctions start ticks).map (capForClass cls * ·)) ↔
      AtMostOne (durations realFunctions start ticks) := by
    unfold AtMostOne
    rw [List.countP_map]
    simp only [Function.comp_def, mul_pos_iff_of_pos_left cap]
  have scaled : capForClass cls * (durations realFunctions start ticks).sum =
      ((durations realFunctions start ticks).map (capForClass cls * ·)).sum := by
    rw [List.sum_map_mul_left, List.map_id']
  have sum := abs_sum_clampTo (correctionDeg locked raw) bounds
  rw [List.map_map] at sum
  unfold WithinError
  rw [steps, ← total, ← abs_eq_zero, ← abs_correctionDeg, ← one, scaled,
    ← sum_min_le_iff (abs_nonneg _) bounds, ← sum]
  rfl

end AtRest

/-! ### A tracker that turns by two fifths of a degree -/

/-- The rotation by a yaw. -/
noncomputable def turned (yaw : ℝ) : Rotation ℝ :=
  ⟨Real.cos (yaw / 2.0), 0, Real.sin (yaw / 2.0), 0⟩

theorem turned_eq (yaw : ℝ) : turned yaw = ⟨Real.cos (yaw / 2), 0, Real.sin (yaw / 2), 0⟩ := by
  norm_num [turned]

/-- A tick with one device. -/
noncomputable def showing (time : ℝ) (rotation : Rotation ℝ) : TickInputs ℝ :=
  { devicePoses := fun _ => { rotation := rotation }, now := time }

theorem worldRotation_showing (time : ℝ) (rotation : Rotation ℝ) :
    ((showing time rotation).devicePoses 0).worldRotation = rotation := by
  simp [showing, DevicePose.worldRotation, Rotation.mul, Rotation.identity]

theorem turned_dot (yaw : ℝ) : (turned yaw).dot (turned yaw) = 1 := by
  have circle := Real.cos_sq_add_sin_sq (yaw / 2)
  simp only [turned_eq, Rotation.dot, mul_zero, add_zero]
  linarith [sq (Real.cos (yaw / 2)), sq (Real.sin (yaw / 2))]

theorem identity_eq_turned : (Rotation.identity : Rotation ℝ) = turned 0 := by
  simp [turned_eq, Rotation.identity]

theorem angularVel_still (yaw dtSec : ℝ) :
    angularVelDegPerSec realFunctions (turned yaw) (turned yaw) dtSec = 0 := by
  unfold angularVelDegPerSec
  rw [turned_dot]
  simp [realFunctions]

theorem angularVel_turned {yaw : ℝ} (positive : 0 ≤ yaw) (small : yaw ≤ Real.pi) (dtSec : ℝ) :
    angularVelDegPerSec realFunctions Rotation.identity (turned yaw) dtSec =
      yaw * (180.0 / Real.pi) / max dtSec 0.0001 := by
  have dot : Rotation.identity.dot (turned yaw) = Real.cos (yaw / 2) := by
    simp [turned_eq, Rotation.identity, Rotation.dot]
  have cosine : 0 ≤ Real.cos (yaw / 2) :=
    Real.cos_nonneg_of_mem_Icc ⟨by linarith [Real.pi_pos], by linarith⟩
  unfold angularVelDegPerSec
  dsimp only
  rw [dot, abs_of_nonneg cosine, min_eq_right (Real.cos_le_one _), max_eq_right cosine]
  have angle : realFunctions.acos (Real.cos (yaw / 2)) = yaw / 2 :=
    Real.arccos_cos (by linarith) (by linarith)
  rw [angle]
  norm_num [realFunctions]

theorem signedYaw_turned {yaw : ℝ} (within : yaw ∈ Set.Ioc (-Real.pi) Real.pi) :
    signedYawDeltaRad realFunctions Rotation.identity (turned yaw) = yaw := by
  have same : (turned yaw).mul (Rotation.conjugate Rotation.identity) = turned yaw := by
    simp [turned_eq, Rotation.mul, Rotation.conjugate, Rotation.identity]
  unfold signedYawDeltaRad
  dsimp only
  rw [same]
  have sine : 2.0 * ((turned yaw).w * (turned yaw).y + (turned yaw).z * (turned yaw).x) =
      Real.sin yaw := by
    have double := Real.sin_two_mul (yaw / 2)
    rw [mul_div_cancel₀ yaw two_ne_zero] at double
    simp only [turned_eq, mul_zero, add_zero]
    linarith
  have cosine : 1 - 2.0 * ((turned yaw).x * (turned yaw).x + (turned yaw).y * (turned yaw).y) =
      Real.cos yaw := by
    have double := Real.cos_two_mul_eq_one_sub (yaw / 2)
    rw [mul_div_cancel₀ yaw two_ne_zero] at double
    simp only [turned_eq, mul_zero, zero_add]
    linarith [sq (Real.sin (yaw / 2))]
  rw [sine, cosine]
  exact arg_direction within

theorem tick_showing (state : YawState ℝ) (time : ℝ) (rotation : Rotation ℝ) :
    (tickRestLockedYaw realFunctions state (showing time rotation)).restStates =
        (state.scan realFunctions (showing time rotation)).restStates ∧
      (tickRestLockedYaw realFunctions state (showing time rotation)).lastTickTime = time := by
  have outcome := ticked state (showing time rotation)
  generalize tickRestLockedYaw realFunctions state (showing time rotation) = after at outcome
  cases outcome with
  | closed shut => cases shut
  | skipped _ invalid => cases invalid
  | counted _ _ _ _ _ => exact ⟨rfl, rfl⟩

theorem scan_showing (state : YawState ℝ) (time : ℝ) (rotation : Rotation ℝ) :
    state.scan realFunctions (showing time rotation) =
      considerDevice realFunctions (showing time rotation)
        (state.elapsed (showing time rotation)) 0 "" { restStates := state.restStates } :=
  rfl

/-- The device is stored so after a tick at the time. -/
structure Stored (state : YawState ℝ) (time : ℝ) (rest : RestState ℝ) : Prop where
  last : state.lastTickTime = time
  found : state.restStates 0 = some rest

theorem Stored.getD {state : YawState ℝ} {time : ℝ} {rest : RestState ℝ}
    (stored : Stored state time rest) : (state.restStates 0).getD {} = rest := by
  rw [stored.found]
  rfl

/-- A device that has no lock yet is stored as its phase goes. -/
theorem stored_moving {state : YawState ℝ} {prior rest : RestState ℝ} {time : ℝ}
    {rotation : Rotation ℝ} (found : (state.restStates 0).getD {} = prior)
    (updated : updatePhase realFunctions prior rotation time
      (state.elapsed (showing time rotation)) = rest) (unlocked : rest.haveLock = false) :
    Stored (tickRestLockedYaw realFunctions state (showing time rotation)) time rest := by
  obtain ⟨restStates, last⟩ := tick_showing state time rotation
  refine ⟨last, ?_⟩
  rw [restStates, scan_showing]
  unfold considerDevice
  dsimp only
  rw [worldRotation_showing, found, show (showing time rotation).now = time from rfl, updated,
    unlocked]
  simp [showing]

/-- A device at rest contributes, and keeps what its phase gives but for the time of its lock. -/
theorem stored_resting {state : YawState ℝ} {prior rest : RestState ℝ} {time : ℝ}
    {rotation : Rotation ℝ} (found : (state.restStates 0).getD {} = prior)
    (updated : updatePhase realFunctions prior rotation time
      (state.elapsed (showing time rotation)) = rest) (resting : rest.phase = .atRest)
    (lock : rest.haveLock = true) :
    (state.scan realFunctions (showing time rotation)).contributions.map
        (fun one => (one.1, one.2.cls)) = [(0, .unknown)] ∧
      ∃ entered, Stored (tickRestLockedYaw realFunctions state (showing time rotation)) time
        { rest with phaseEnteredAt := entered } := by
  obtain ⟨restStates, last⟩ := tick_showing state time rotation
  have considered : considerDevice realFunctions (showing time rotation)
      (state.elapsed (showing time rotation)) 0 "" { restStates := state.restStates } =
      let stamped := if prior.haveLock then rest else { rest with phaseEnteredAt := time }
      { restStates := Function.update state.restStates 0 (some stamped)
        contributions := [(0, contribute realFunctions stamped rotation .unknown time)] } := by
    unfold considerDevice
    dsimp only
    rw [worldRotation_showing, found, show (showing time rotation).now = time from rfl, updated,
      resting, lock]
    rfl
  rw [scan_showing, considered]
  refine ⟨rfl, ?_⟩
  by_cases before : prior.haveLock = true
  · refine ⟨rest.phaseEnteredAt, last, ?_⟩
    rw [restStates, scan_showing, considered]
    simp [before]
  · refine ⟨time, last, ?_⟩
    rw [restStates, scan_showing, considered]
    simp [before]

/-- The phase of a device that turns slowly. -/
theorem updatePhase_slow {prior : RestState ℝ} {newRot : Rotation ℝ} {dtSec : ℝ}
    (initialized : prior.initialized = true)
    (slow : angularVelDegPerSec realFunctions prior.lastRot newRot dtSec ≤ 120.0) (now : ℝ) :
    updatePhase realFunctions prior newRot now dtSec =
      match prior.phase with
      | .moving =>
        { prior with phase := .recentlyAtRest, phaseEnteredAt := now, lastRot := newRot }
      | .recentlyAtRest =>
        if kRestEnterSec ≤ now - prior.phaseEnteredAt then
          { prior with phase := .atRest, lastRot := newRot, lockedRot := newRot, haveLock := true }
        else { prior with lastRot := newRot }
      | .atRest => { prior with lastRot := newRot } := by
  unfold updatePhase kRestEnterDegPerSec
  dsimp only
  rw [initialized, if_neg nofun, if_neg slow.not_gt]

theorem slow_identity (dtSec : ℝ) :
    angularVelDegPerSec realFunctions Rotation.identity Rotation.identity dtSec ≤ 120.0 := by
  rw [identity_eq_turned, angularVel_still]
  norm_num

/-- The rest state of a device with a lock on no rotation. -/
noncomputable def restingAt (lastRot : Rotation ℝ) (entered : ℝ) : RestState ℝ :=
  { phase := .atRest
    lastRot := lastRot
    phaseEnteredAt := entered
    haveLock := true
    initialized := true }

/-- Three ticks, a second apart, lock the device. -/
theorem locked_reached : ∃ start entered, Reaches (step realFunctions) Timely {} start ∧
    Stored start 3 (restingAt Rotation.identity entered) := by
  have first : Stored (tickRestLockedYaw realFunctions {} (showing 1 Rotation.identity)) 1
      { phaseEnteredAt := 1, initialized := true } := stored_moving rfl rfl rfl
  have second : Stored (tickRestLockedYaw realFunctions
      (tickRestLockedYaw realFunctions {} (showing 1 Rotation.identity))
      (showing 2 Rotation.identity)) 2
      { phase := .recentlyAtRest, phaseEnteredAt := 2, initialized := true } := by
    refine stored_moving first.getD ?_ rfl
    exact @updatePhase_slow { phaseEnteredAt := 1, initialized := true } _ _ rfl
      (slow_identity _) 2
  have third : ∃ entered, Stored (tickRestLockedYaw realFunctions
      (tickRestLockedYaw realFunctions
        (tickRestLockedYaw realFunctions {} (showing 1 Rotation.identity))
        (showing 2 Rotation.identity)) (showing 3 Rotation.identity)) 3
      (restingAt Rotation.identity entered) := by
    have slow := @updatePhase_slow
      { phase := .recentlyAtRest, phaseEnteredAt := 2, initialized := true } _ _ rfl
      (slow_identity ((tickRestLockedYaw realFunctions
        (tickRestLockedYaw realFunctions {} (showing 1 Rotation.identity))
        (showing 2 Rotation.identity)).elapsed (showing 3 Rotation.identity))) 3
    exact (stored_resting second.getD
      (slow.trans (if_pos (by norm_num [kRestEnterSec]))) rfl rfl).2
  obtain ⟨entered, third⟩ := third
  refine ⟨_, entered, ?_, third⟩
  refine ((Reaches.start.next (showing 1 Rotation.identity) ?_ rfl).next
    (showing 2 Rotation.identity) ?_ rfl).next (showing 3 Rotation.identity) ?_ rfl
  · exact ⟨zero_le_one, by norm_num [showing]⟩
  · exact ⟨zero_le_two, first.last.trans_le one_le_two⟩
  · exact ⟨zero_le_three, second.last.trans_le (by norm_num [showing])⟩

/-- The two ticks after the lock, by which the device has turned. -/
noncomputable def drifted : List (TickInputs ℝ) :=
  [showing 5.0 (turned (Real.pi / 450)), showing 7.0 (turned (Real.pi / 450))]

theorem drifted_eq :
    drifted = [showing 5 (turned (Real.pi / 450)), showing 7 (turned (Real.pi / 450))] := by
  norm_num [drifted]

theorem slow_drifted {dtSec : ℝ} (second : 1 ≤ dtSec) :
    angularVelDegPerSec realFunctions Rotation.identity (turned (Real.pi / 450)) dtSec ≤
      120.0 := by
  have positive := Real.pi_pos
  rw [angularVel_turned (by positivity) (by linarith)]
  have degrees : Real.pi / 450 * (180.0 / Real.pi) = 0.4 := by
    field_simp
    norm_num
  have most : 1 ≤ max dtSec 0.0001 := second.trans (le_max_left _ _)
  rw [degrees, div_le_iff₀ (one_pos.trans_le most)]
  exact (by norm_num : (0.4 : ℝ) ≤ 120.0 * 1).trans
    (mul_le_mul_of_nonneg_left most (by norm_num))

theorem restingAt_locked {state : YawState ℝ} {time entered : ℝ} {lastRot : Rotation ℝ}
    (stored : Stored state time (restingAt lastRot entered)) :
    state.Locked 0 Rotation.identity :=
  ⟨_, stored.found, rfl, rfl, rfl⟩

/-- A tick of a locked device that turns slowly. -/
theorem rests_showing {state : YawState ℝ} {last entered time : ℝ} {lastRot rotation : Rotation ℝ}
    (stored : Stored state last (restingAt lastRot entered)) (later : last ≤ time)
    (slow : angularVelDegPerSec realFunctions lastRot rotation
      (state.elapsed (showing time rotation)) ≤ 120.0) :
    Rests realFunctions 0 .unknown Rotation.identity rotation state (showing time rotation) ∧
      ∃ entered, Stored (tickRestLockedYaw realFunctions state (showing time rotation)) time
        (restingAt rotation entered) := by
  obtain ⟨alone, entered, kept⟩ := stored_resting stored.getD
    (@updatePhase_slow (restingAt lastRot entered) _ _ rfl slow time) rfl rfl
  exact ⟨⟨rfl, stored.last.trans_le later, fun _ => alone,
    fun _ => worldRotation_showing time rotation, restingAt_locked kept⟩, entered, kept⟩

theorem rests_drifted {start : YawState ℝ} {entered : ℝ}
    (stored : Stored start 3 (restingAt Rotation.identity entered)) :
    RestsThrough realFunctions 0 .unknown Rotation.identity (turned (Real.pi / 450)) start
        drifted ∧ durations realFunctions start drifted = [2, 2] := by
  rw [drifted_eq]
  have first : start.elapsed (showing 5 (turned (Real.pi / 450))) = 2 := by
    unfold YawState.elapsed
    rw [stored.last]
    norm_num [showing]
  have slow := slow_drifted one_le_two
  rw [← first] at slow
  obtain ⟨own, _, kept⟩ := rests_showing stored (by norm_num : (3 : ℝ) ≤ 5) slow
  have second : (tickRestLockedYaw realFunctions start
      (showing 5 (turned (Real.pi / 450)))).elapsed (showing 7 (turned (Real.pi / 450))) = 2 := by
    unfold YawState.elapsed
    rw [kept.last]
    norm_num [showing]
  obtain ⟨other, -, -⟩ := rests_showing kept (by norm_num : (5 : ℝ) ≤ 7)
    ((angularVel_still _ _).trans_le (by norm_num))
  refine ⟨⟨own, other, trivial⟩, ?_⟩
  unfold durations durations durations
  rw [first, second]
  rfl

theorem rest_yaw_within_iff_drifted : ∃ start,
    start.Locked 0 Rotation.identity ∧
    (WithinError realFunctions Rotation.identity (turned (Real.pi / 450)) start drifted ↔
      yawErrorDeg realFunctions Rotation.identity (turned (Real.pi / 450)) = 0 ∨
      capForClass .unknown * ((runTicks realFunctions start drifted).lastTickTime -
        start.lastTickTime) ≤
          |yawErrorDeg realFunctions Rotation.identity (turned (Real.pi / 450))| ∨
      AtMostOne (durations realFunctions start drifted)) := by
  obtain ⟨start, entered, reached, stored⟩ := locked_reached
  have lock := restingAt_locked stored
  exact ⟨start, lock, (rest_yaw_within_iff reached drifted).2 lock (rests_drifted stored).1⟩

/-- An error of 0.4 degrees is corrected by 0.3 degrees twice. -/
theorem drift_overcorrected : ∃ start, Reaches (step realFunctions) Timely {} start ∧
    start.Locked 0 Rotation.identity ∧
    RestsThrough realFunctions 0 .unknown Rotation.identity (turned (Real.pi / 450)) start
      drifted ∧
    ¬WithinError realFunctions Rotation.identity (turned (Real.pi / 450)) start drifted := by
  obtain ⟨start, entered, reached, stored⟩ := locked_reached
  have lock := restingAt_locked stored
  obtain ⟨rests, times⟩ := rests_drifted stored
  refine ⟨start, reached, lock, rests, fun within => ?_⟩
  obtain ⟨-, -, steps⟩ := rests_steps (settled_of_reaches reached) lock rests
  have positive := Real.pi_pos
  have degrees : yawErrorDeg realFunctions Rotation.identity (turned (Real.pi / 450)) = 0.4 := by
    unfold yawErrorDeg
    rw [signedYaw_turned ⟨by linarith, by linarith⟩]
    unfold realFunctions
    dsimp only
    field_simp
    norm_num
  have cap : (capForClass .unknown : ℝ) = 0.15 := by
    norm_num [capForClass, classCapDegPerSec, globalCeilingDegPerSec]
  have size := abs_correctionDeg Rotation.identity (turned (Real.pi / 450))
  have sum := @abs_sum_clampTo ℝ _ _ _ [0.15 * 2, 0.15 * 2]
    (correctionDeg Rotation.identity (turned (Real.pi / 450))) (by norm_num)
  unfold WithinError at within
  rw [steps, times, cap] at within
  rw [size, degrees] at sum
  simp only [List.map_cons, List.map_nil] at within sum
  rw [sum, degrees] at within
  norm_num at within

end PairDriver.RestYaw
