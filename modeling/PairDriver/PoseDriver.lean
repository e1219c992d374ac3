/-
This file models the part of the driver that moves tracked devices: the transform
slots of the devices, the table of tracking-system fallbacks, the requests that
write both, and the pose hook `HandleDevicePoseUpdated`.

The hook releases its mutex around the query of a device's tracking system, so it
is two critical sections here, and a pose update can be in flight between them.
The geometry is a parameter; numbers are exact rationals. The offset that the
debug command adds to a pose beforehand is part of the pose given, and what the
hook publishes to shared memory is left out.
-/

import PairDriver.Bytes
import PairDriver.Machine

namespace PairDriver.Provider

def kMaxTrackedDeviceCount : Nat := 64
def maxTrackingSystemNameLen : Nat := 32
def maxFallbackSlots : Nat := 8

/-- The name of a tracking system, as the bytes of a string. -/
abbrev Name := List UInt8

/-- The name in a fixed-size buffer that may not be terminated. -/
def bufferName (buffer : List UInt8) : Name :=
  cString (buffer.take maxTrackingSystemNameLen)

/-! ### Geometry -/

structure IsoTransform (Vec Rot : Type) where
  rotation : Rot
  translation : Vec
deriving DecidableEq

/-- The fields of a driver pose the hook reads and writes. -/
structure Pose (Vec Rot : Type) where
  position : Vec
  rotation : Rot
  worldFromDriver : IsoTransform Vec Rot
  velocity : Vec
  acceleration : Vec
  angularVelocity : Vec
  angularAcceleration : Vec
  poseTimeOffset : Rat := 0
  poseIsValid : Bool := true
  deviceIsConnected : Bool := true
deriving DecidableEq

/-- The operations on vectors and rotations. `distance` is the norm of a difference, `compose` the
product of transforms, `motionRamp` the ramp `ComputeSmartMotionRamp` reads off the velocities. -/
structure Geometry (Vec Rot : Type) where
  zero : Vec
  identity : Rot
  scaleVec : Rat → Vec → Vec
  distance : Vec → Vec → Rat
  angularDistance : Rot → Rot → Rat
  degrees : Rat → Rat
  compose : IsoTransform Vec Rot → IsoTransform Vec Rot → IsoTransform Vec Rot
  interpolateAround : IsoTransform Vec Rot → Rat → IsoTransform Vec Rot → Vec → IsoTransform Vec Rot
  motionRamp : Pose Vec Rot → Rat

inductive DeltaSize where
  | tiny
  | small
  | large
deriving DecidableEq

def DeltaSize.max : DeltaSize → DeltaSize → DeltaSize
  | .large, _ | _, .large => .large
  | .small, _ | _, .small => .small
  | .tiny, .tiny => .tiny

structure AlignmentSpeedParams where
  thrTransTiny : Rat
  thrTransSmall : Rat
  thrTransLarge : Rat
  thrRotTiny : Rat
  thrRotSmall : Rat
  thrRotLarge : Rat
  alignSpeedTiny : Rat
  alignSpeedSmall : Rat
  alignSpeedLarge : Rat
deriving DecidableEq

/-! ### State -/

section State

variable (Vec Rot : Type)

/-- The slot of a device. -/
structure DeviceTransform where
  enabled : Bool := false
  quash : Bool := false
  prevQuash : Bool := false
  transform : IsoTransform Vec Rot
  targetTransform : IsoTransform Vec Rot
  scale : Rat := 1
  lastPoll : Nat := 0
  currentRate : DeltaSize := .tiny
  fallbackActive : Bool := false
  predictionSmoothness : Nat := 0
  smartEnabled : Bool := false
  smartMotionEma : Rat := 0
  recalibrateOnMovement : Bool := false
  lastBlendWorldPos : Vec
  lastBlendWorldRot : Rot
  blendMotionInitialized : Bool := false

/-- The fallback of a tracking system. Slots are never freed, so the table is the list of the
occupied ones, and two names are the same when the padded buffers are. -/
structure FallbackSlot where
  systemName : Name
  enabled : Bool := false
  transform : IsoTransform Vec Rot
  scale : Rat := 1
  predictionSmoothness : Nat := 0
  recalibrateOnMovement : Bool := false

inductive LookupState where
  | notTried
  | cached
  | failed
deriving DecidableEq

structure Driver where
  transforms : Nat → DeviceTransform Vec Rot
  deviceSystem : Nat → Name := fun _ => []
  lookupState : Nat → LookupState := fun _ => .notTried
  lastLookupAttempt : Nat → Nat := fun _ => 0
  systemFallbacks : List (FallbackSlot Vec Rot) := []

end State

section Operations

variable {Vec Rot : Type} (geo : Geometry Vec Rot) (params : AlignmentSpeedParams) (qpcFreq : Nat)

def Geometry.iso : IsoTransform Vec Rot := ⟨geo.identity, geo.zero⟩

def initialTransform : DeviceTransform Vec Rot :=
  { transform := geo.iso
    targetTransform := geo.iso
    lastBlendWorldPos := geo.zero
    lastBlendWorldRot := geo.identity }

/-- The driver as it starts: every slot disabled, no fallbacks. -/
def initialDriver : Driver Vec Rot :=
  { transforms := fun _ => initialTransform geo }

def Driver.setTransform (driver : Driver Vec Rot) (id : Nat) (slot : DeviceTransform Vec Rot) :
    Driver Vec Rot :=
  { driver with transforms := Function.update driver.transforms id slot }

/-! ### Requests -/

/-- The fields of a `SetDeviceTransform` request the driver uses. -/
structure SetDeviceTransform (Vec Rot : Type) where
  openVRID : Nat
  enabled : Bool
  updateTranslation : Bool := false
  updateRotation : Bool := false
  updateScale : Bool := false
  translation : Vec
  rotation : Rot
  scale : Rat := 1
  lerp : Bool := false
  quash : Bool := false
  targetSystem : List UInt8 := []
  recalibrateOnMovement : Bool := false
deriving DecidableEq

/-- What `SetDeviceTransform` makes of the slot. -/
def updateSlot (now : Nat) (request : SetDeviceTransform Vec Rot)
    (slot : DeviceTransform Vec Rot) : DeviceTransform Vec Rot :=
  let target : IsoTransform Vec Rot :=
    ⟨if request.updateRotation then request.rotation else slot.targetTransform.rotation,
      if request.updateTranslation then request.translation else slot.targetTransform.translation⟩
  let snapped : IsoTransform Vec Rot :=
    ⟨if request.updateRotation ∧ ¬request.lerp then target.rotation else slot.transform.rotation,
      if request.updateTranslation ∧ ¬request.lerp then target.translation
      else slot.transform.translation⟩
  let transform := if !slot.enabled && request.enabled then target else snapped
  { slot with
    enabled := request.enabled
    fallbackActive := false
    blendMotionInitialized := if slot.recalibrateOnMovement ∧ ¬request.recalibrateOnMovement
      then false else slot.blendMotionInitialized
    recalibrateOnMovement := request.recalibrateOnMovement
    transform := transform
    targetTransform := if slot.enabled && !request.enabled then transform else target
    scale := if request.updateScale then request.scale else slot.scale
    quash := request.quash
    lastPoll := now
    currentRate := .tiny }

def Driver.setDeviceTransform (now : Nat) (request : SetDeviceTransform Vec Rot)
    (driver : Driver Vec Rot) : Driver Vec Rot :=
  if request.openVRID ≥ kMaxTrackedDeviceCount then driver
  else
    let name := bufferName request.targetSystem
    let updated := driver.setTransform request.openVRID
      (updateSlot now request (driver.transforms request.openVRID))
    { updated with
      deviceSystem := Function.update driver.deviceSystem request.openVRID name
      lookupState := Function.update driver.lookupState request.openVRID
        (if name = [] then .notTried else .cached) }

structure SetDevicePrediction where
  openVRID : Nat
  predictionSmoothness : Nat
  smartEnabled : Bool

def Driver.setDevicePrediction (request : SetDevicePrediction) (driver : Driver Vec Rot) :
    Driver Vec Rot :=
  if request.openVRID ≥ kMaxTrackedDeviceCount then driver
  else
    let slot := driver.transforms request.openVRID
    driver.setTransform request.openVRID { slot with
      predictionSmoothness := request.predictionSmoothness
      smartEnabled := request.smartEnabled
      smartMotionEma := if request.smartEnabled && !slot.smartEnabled then 0
        else slot.smartMotionEma }

/-- The fields of a `SetTrackingSystemFallback` request the driver uses. -/
structure SetTrackingSystemFallback (Vec Rot : Type) where
  systemName : List UInt8
  enabled : Bool
  translation : Vec
  rotation : Rot
  scale : Rat := 1
  recalibrateOnMovement : Bool := false
deriving DecidableEq

/-- `FindFallbackSlot`. -/
def Driver.findFallbackSlot (driver : Driver Vec Rot) (name : Name) :
    Option (FallbackSlot Vec Rot) :=
  if name.length = 0 ∨ name.length > maxTrackingSystemNameLen then none
  else driver.systemFallbacks.find? fun slot => slot.systemName == name

/-- Changes the slot of a name, the first that matches. -/
def modifySlot (name : Name) (change : FallbackSlot Vec Rot → FallbackSlot Vec Rot) :
    List (FallbackSlot Vec Rot) → List (FallbackSlot Vec Rot)
  | [] => []
  | slot :: rest =>
    if slot.systemName = name then change slot :: rest else slot :: modifySlot name change rest

/-- What an enabling request makes of the slot that had the given smoothness. -/
def requestedSlot (request : SetTrackingSystemFallback Vec Rot) (predictionSmoothness : Nat) :
    FallbackSlot Vec Rot :=
  { systemName := bufferName request.systemName
    enabled := true
    transform := ⟨request.rotation, request.translation⟩
    scale := request.scale
    predictionSmoothness := predictionSmoothness
    recalibrateOnMovement := request.recalibrateOnMovement }

/-- `AcquireFallbackSlot` together with the writes to the slot it returns: the slot of the name, or
a free one, takes the values; a full table ignores them. -/
def storeFallback (request : SetTrackingSystemFallback Vec Rot)
    (slots : List (FallbackSlot Vec Rot)) : List (FallbackSlot Vec Rot) :=
  let name := bufferName request.systemName
  if slots.any fun slot => slot.systemName == name then
    modifySlot name (fun slot => requestedSlot request slot.predictionSmoothness) slots
  else if slots.length < maxFallbackSlots then slots ++ [requestedSlot request 0]
  else slots

/-- A slot that followed a fallback which is now disabled. -/
def dropFallback (now : Nat) (slot : DeviceTransform Vec Rot) : DeviceTransform Vec Rot :=
  { slot with
    fallbackActive := false
    targetTransform := slot.transform
    currentRate := .tiny
    lastPoll := now }

def Driver.setTrackingSystemFallback (now : Nat) (request : SetTrackingSystemFallback Vec Rot)
    (driver : Driver Vec Rot) : Driver Vec Rot :=
  let name := bufferName request.systemName
  if name = [] then driver
  else if request.enabled then
    { driver with systemFallbacks := storeFallback request driver.systemFallbacks }
  else
    { driver with
      systemFallbacks :=
        modifySlot name (fun slot => { slot with enabled := false }) driver.systemFallbacks
      transforms := fun id =>
        if (driver.transforms id).fallbackActive ∧ driver.deviceSystem id = name then
          dropFallback now (driver.transforms id)
        else driver.transforms id }

/-! ### Blending -/

/-- `GetTransformDeltaSize`. -/
def transformDeltaSize (prior : DeltaSize) (deviceWorldPose src target : IsoTransform Vec Rot) :
    DeltaSize :=
  let srcPose := geo.compose src deviceWorldPose
  let targetPose := geo.compose target deviceWorldPose
  let transDelta := geo.distance srcPose.translation targetPose.translation
  let rotDelta := geo.angularDistance srcPose.rotation targetPose.rotation
  let transLevel : DeltaSize := if params.thrTransLarge < transDelta then .large
    else if params.thrTransSmall < transDelta then .small else .tiny
  let rotLevel : DeltaSize := if params.thrRotLarge < rotDelta then .large
    else if params.thrRotSmall < rotDelta then .small else .tiny
  if transLevel = .tiny ∧ rotLevel = .tiny then .tiny
  else prior.max (transLevel.max rotLevel)

/-- `GetTransformRate`. -/
def transformRate : DeltaSize → Rat
  | .tiny => params.alignSpeedTiny
  | .small => params.alignSpeedSmall
  | .large => params.alignSpeedLarge

/-- `StillFloor` of the regime `ClassifyCorrection` puts a correction in. -/
def stillFloor (posDeltaMm rotDeltaDeg : Rat) : Rat :=
  if 5 < posDeltaMm ∨ 1 / 2 < rotDeltaDeg then 9 / 10
  else if posDeltaMm ≤ 1 ∧ rotDeltaDeg ≤ 1 / 20 then 1 / 10
  else 1 / 2

/-- The gate that motion puts on the blend of a slot. -/
def motionGate (slot : DeviceTransform Vec Rot) (deviceWorldPose : IsoTransform Vec Rot) : Rat :=
  let posDelta := geo.distance deviceWorldPose.translation slot.lastBlendWorldPos
  let rotDelta := geo.angularDistance deviceWorldPose.rotation slot.lastBlendWorldRot
  let moving := min 1 (max (posDelta / (5 / 1000)) (rotDelta / (175 / 10000)))
  max moving (stillFloor
    (geo.distance slot.targetTransform.translation slot.transform.translation * 1000)
    (geo.degrees (geo.angularDistance slot.targetTransform.rotation slot.transform.rotation)))

/-- `BlendTransform`: the active transform moves towards the target. -/
def blendTransform (now : Nat) (slot : DeviceTransform Vec Rot)
    (deviceWorldPose : IsoTransform Vec Rot) : DeviceTransform Vec Rot :=
  let rate := ((now : Rat) - slot.lastPoll) / qpcFreq * transformRate params slot.currentRate
  let lerp :=
    if slot.recalibrateOnMovement then
      if slot.blendMotionInitialized then rate * motionGate geo slot deviceWorldPose else 0
    else rate
  { slot with
    lastPoll := now
    lastBlendWorldPos :=
      if slot.recalibrateOnMovement then deviceWorldPose.translation else slot.lastBlendWorldPos
    lastBlendWorldRot :=
      if slot.recalibrateOnMovement then deviceWorldPose.rotation else slot.lastBlendWorldRot
    blendMotionInitialized := slot.recalibrateOnMovement
    transform := geo.interpolateAround slot.transform (max 0 (min 1 lerp)) slot.targetTransform
      deviceWorldPose.translation }

/-- Scale, blend and apply: the part of the hook that moves a device by the transform of its slot. -/
def applySlot (now : Nat) (slot : DeviceTransform Vec Rot) (pose : Pose Vec Rot) :
    DeviceTransform Vec Rot × Pose Vec Rot :=
  let scaled := { pose with position := geo.scaleVec slot.scale pose.position }
  let deviceWorldPose :=
    geo.compose scaled.worldFromDriver ⟨scaled.rotation, scaled.position⟩
  let rated := { slot with
    currentRate := transformDeltaSize geo params slot.currentRate deviceWorldPose slot.transform
      slot.targetTransform }
  let blended := blendTransform geo params qpcFreq now rated deviceWorldPose
  (blended, { scaled with
    worldFromDriver := geo.compose blended.transform scaled.worldFromDriver })

/-! ### The pose hook -/

def kSmartEmaAlpha : Rat := 15 / 100

/-- The smoothness the hook applies: that of the slot, or that of the fallback of a disabled slot. -/
def smoothness (driver : Driver Vec Rot) (id : Nat) : Nat :=
  let slot := driver.transforms id
  if slot.predictionSmoothness = 0 ∧ ¬slot.enabled ∧ driver.deviceSystem id ≠ [] then
    match driver.findFallbackSlot (driver.deviceSystem id) with
    | some fallback => if fallback.enabled then fallback.predictionSmoothness else 0
    | none => 0
  else slot.predictionSmoothness

/-- Prediction suppression: the slot with its motion average, and the pose with its velocities
scaled. -/
def suppressPrediction (strength : Nat) (slot : DeviceTransform Vec Rot) (pose : Pose Vec Rot) :
    DeviceTransform Vec Rot × Pose Vec Rot :=
  if strength = 0 then (slot, pose)
  else
    let still : Rat := 1 - (min strength 100 : Nat) / 100
    let ema := if slot.smartEnabled then
      (1 - kSmartEmaAlpha) * slot.smartMotionEma + kSmartEmaAlpha * geo.motionRamp pose
      else slot.smartMotionEma
    let factor := if slot.smartEnabled then still + (1 - still) * ema else still
    ({ slot with smartMotionEma := ema }, { pose with
      velocity := geo.scaleVec factor pose.velocity
      acceleration := geo.scaleVec factor pose.acceleration
      angularVelocity := geo.scaleVec factor pose.angularVelocity
      angularAcceleration := geo.scaleVec factor pose.angularAcceleration
      poseTimeOffset := factor * pose.poseTimeOffset })

/-- A disabled slot starts or goes on to follow a fallback. -/
def followFallback (now : Nat) (fallback : FallbackSlot Vec Rot) (slot : DeviceTransform Vec Rot) :
    DeviceTransform Vec Rot :=
  let targeted := { slot with
    targetTransform := fallback.transform
    scale := fallback.scale
    blendMotionInitialized := if slot.recalibrateOnMovement ∧ ¬fallback.recalibrateOnMovement
      then false else slot.blendMotionInitialized
    recalibrateOnMovement := fallback.recalibrateOnMovement }
  if slot.fallbackActive then targeted
  else { targeted with
    transform := fallback.transform
    fallbackActive := true
    currentRate := .tiny
    lastPoll := now }

/-- The enabled fallback of a device's tracking system. -/
def Driver.enabledFallback (driver : Driver Vec Rot) (id : Nat) : Option (FallbackSlot Vec Rot) :=
  (driver.findFallbackSlot (driver.deviceSystem id)).filter FallbackSlot.enabled

/-- The end of the hook for a slot it has found disabled. -/
def applyFallback (now id : Nat) (pose : Pose Vec Rot) (driver : Driver Vec Rot) :
    Driver Vec Rot × Pose Vec Rot :=
  if driver.deviceSystem id = [] then (driver, pose)
  else
    let slot := driver.transforms id
    match driver.enabledFallback id with
    | some fallback =>
      let applied := applySlot geo params qpcFreq now (followFallback now fallback slot) pose
      (driver.setTransform id applied.1, applied.2)
    | none =>
      if slot.fallbackActive then (driver.setTransform id (dropFallback now slot), pose)
      else (driver, pose)

/-- Whether the hook asks for the tracking system of a device: it is not known, and a failed query
is a second old. -/
def needsLookup (now id : Nat) (driver : Driver Vec Rot) : Bool :=
  driver.deviceSystem id = [] && driver.lookupState id ≠ .cached &&
    !(driver.lookupState id = .failed && 0 < qpcFreq &&
      (now : Int) - driver.lastLookupAttempt id < qpcFreq)

/-- The start of the hook: suppression, and the edge of hiding the device. -/
def enterHook (id : Nat) (pose : Pose Vec Rot) (driver : Driver Vec Rot) :
    DeviceTransform Vec Rot × Pose Vec Rot :=
  let suppressed :=
    suppressPrediction geo (smoothness driver id) (driver.transforms id) pose
  ({ suppressed.1 with prevQuash := suppressed.1.quash }, suppressed.2)

/-- The first critical section of `HandleDevicePoseUpdated`. It ends with a pose, or with the pose
so far and the query of the tracking system. -/
def beginPose (now id : Nat) (pose : Pose Vec Rot) (driver : Driver Vec Rot) :
    Driver Vec Rot × (Pose Vec Rot ⊕ Pose Vec Rot) :=
  let entered := enterHook geo id pose driver
  let current := driver.setTransform id entered.1
  if entered.1.quash then
    (current, .inl { entered.2 with poseIsValid := false, deviceIsConnected := false })
  else if entered.1.enabled then
    let applied := applySlot geo params qpcFreq now entered.1 entered.2
    (current.setTransform id applied.1, .inl applied.2)
  else if needsLookup qpcFreq now id current then (current, .inr entered.2)
  else
    let applied := applyFallback geo params qpcFreq now id entered.2 current
    (applied.1, .inl applied.2)

/-- The result of the query is stored, unless a request has told the tracking system meanwhile. -/
def storeLookup (now id : Nat) (query : Option Name) (driver : Driver Vec Rot) :
    Driver Vec Rot :=
  if driver.lookupState id = .cached then driver
  else match query with
    | some name => { driver with
        deviceSystem := Function.update driver.deviceSystem id name
        lookupState := Function.update driver.lookupState id .cached }
    | none => { driver with
        lookupState := Function.update driver.lookupState id .failed
        lastLookupAttempt := Function.update driver.lastLookupAttempt id now }

/-- The second critical section: it goes on as for a disabled slot without looking again. -/
def resumePose (now id : Nat) (pose : Pose Vec Rot) (query : Option Name)
    (driver : Driver Vec Rot) : Driver Vec Rot × Pose Vec Rot :=
  applyFallback geo params qpcFreq now id pose (storeLookup now id query driver)

end Operations

/-! ### The system -/

section System

variable {Vec Rot : Type} (geo : Geometry Vec Rot) (params : AlignmentSpeedParams) (qpcFreq : Nat)

/-- The driver and the pose updates that are waiting for the answer to a query. -/
structure System (Vec Rot : Type) where
  driver : Driver Vec Rot
  inFlight : List (Nat × Pose Vec Rot) := []

/-- Requests, and the two halves of a pose update. A query answers with a non-empty name or fails;
any of the updates in flight may go on next. -/
inductive Event (Vec Rot : Type) where
  | setDeviceTransform (now : Nat) (request : SetDeviceTransform Vec Rot)
  | setTrackingSystemFallback (now : Nat) (request : SetTrackingSystemFallback Vec Rot)
  | setDevicePrediction (request : SetDevicePrediction)
  | poseUpdated (now id : Nat) (pose : Pose Vec Rot)
  | poseResumed (now index : Nat) (query : Option Name)

/-- The event is a half of a pose update. -/
def Event.isPose : Event Vec Rot → Bool
  | .poseUpdated _ _ _ | .poseResumed _ _ _ => true
  | _ => false

def step (system : System Vec Rot) : Event Vec Rot → Option (System Vec Rot)
  | .setDeviceTransform now request =>
    some { system with driver := system.driver.setDeviceTransform now request }
  | .setTrackingSystemFallback now request =>
    some { system with driver := system.driver.setTrackingSystemFallback now request }
  | .setDevicePrediction request =>
    some { system with driver := system.driver.setDevicePrediction request }
  | .poseUpdated now id pose =>
    let result := beginPose geo params qpcFreq now id pose system.driver
    some { driver := result.1, inFlight := match result.2 with
      | .inl _ => system.inFlight
      | .inr waiting => (id, waiting) :: system.inFlight }
  | .poseResumed now index query =>
    if query = some [] then none
    else match system.inFlight[index]? with
      | none => none
      | some (id, pose) => some {
          driver := (resumePose geo params qpcFreq now id pose query system.driver).1
          inFlight := system.inFlight.eraseIdx index }

end System

end PairDriver.Provider
