/-
This file models `ScanAndApplyProfile`: how the overlay brings the calibrated
profile to the driver. It keeps a cache of what it last sent, per device and per
tracking system, and sends only what differs from the cache. Requests go through
`SendBlocking`, which reconnects when the pipe is broken.

A scan is a sequence of steps here, each with at most one request, so that the
driver process can be replaced between any two requests. The scan runs on the
overlay's main thread: the context, the devices as OpenVR reports them and the
caches change between scans only.

What a scan logs and the chaperone bounds it restores are left out.
-/

import PairDriver.PoseDriver

namespace PairDriver.ProfileScan

open Provider

/-! ### The calibration context -/

/-- The geometry with the rotation the overlay makes of Euler angles in degrees. -/
structure OverlayGeometry (Vec Rot : Type) extends Geometry Vec Rot where
  eulerRotation : Vec → Rot

/-- The calibration of a further tracking system. Translations are in centimetres. -/
structure AdditionalCalibration (Vec : Type) where
  targetTrackingSystem : Name
  calibratedRotation : Vec
  calibratedTranslation : Vec
  calibratedScale : Rat := 1
  valid : Bool := false
  enabled : Bool := true

/-- The fields of the context a scan reads, with the one-shot flag of the automatic recovery. -/
structure Context (Vec : Type) where
  enabled : Bool := false
  validProfile : Bool := false
  referenceTrackingSystem : Name := []
  targetTrackingSystem : Name := []
  calibratedRotation : Vec
  calibratedTranslation : Vec
  calibratedScale : Rat := 1
  recalibrateOnMovement : Bool := true
  additionalCalibrations : List (AdditionalCalibration Vec) := []
  alignmentSpeedParams : AlignmentSpeedParams
  continuous : Bool := false
  targetID : Int := -1
  quashTargetInContinuous : Bool := true
  snapNextProfileApply : Bool := false

/-! ### Devices -/

inductive DeviceClass where
  | hmd
  | controller
  | genericTracker
  | trackingReference
  | displayRedirect
deriving DecidableEq

/-- What OpenVR reports of a device. A property that cannot be read is `none`; `crystalEyes` is the
test of the eye-to-head matrix for a constant projection. -/
structure Device where
  deviceClass : DeviceClass
  serial : Option Name
  trackingSystem : Option Name
  renderModelName : Name := []
  connectedWirelessDongle : Name := []
  crystalEyes : Bool := false

def textContains (text pattern : Name) : Bool :=
  text.tails.any fun rest => pattern.isPrefixOf rest

/-- The system a scan takes the headset for: a Crystal is moved out of its vendor's system. -/
def hmdSystem (device : Device) (reported : Name) : Name :=
  if reported = ascii "aapvr" ∧ device.crystalEyes then ascii "Pimax Crystal HMD" else reported

/-- The system a scan takes another device for. -/
def controllerSystem (device : Device) (reported : Name) : Name :=
  if device.deviceClass = .controller ∧ reported = ascii "oculus" ∧
      textContains device.renderModelName (ascii "\x7baapvr\x7d") ∧
      textContains device.renderModelName (ascii "crystal") ∧
      textContains device.connectedWirelessDongle (ascii "lighthouse") then
    ascii "Pimax Crystal Controllers"
  else reported

/-- The tracking system of the device with the given number. -/
def Device.system (device : Device) (id : Nat) : Option Name :=
  device.trackingSystem.map (if id = 0 then hmdSystem device else controllerSystem device)

/-! ### Payloads -/

section Payloads

variable {Vec Rot : Type} (geo : OverlayGeometry Vec Rot)

/-- A name in a request: at most 31 bytes, padded with zeros. -/
def wireName (name : Name) : List UInt8 :=
  name.take (maxTrackingSystemNameLen - 1) ++
    List.replicate (maxTrackingSystemNameLen - min name.length (maxTrackingSystemNameLen - 1)) 0

/-- What a call of `SendFallbackIfChanged` is given; every call enables and sends no smoothness. -/
structure Submission (Vec : Type) where
  systemName : Name
  translationCm : Vec
  rotation : Vec
  scale : Rat
  recalibrateOnMovement : Bool
deriving DecidableEq

def Submission.payload (submission : Submission Vec) : SetTrackingSystemFallback Vec Rot :=
  { systemName := wireName submission.systemName
    enabled := true
    translation := geo.scaleVec (1 / 100) submission.translationCm
    rotation := geo.eulerRotation submission.rotation
    scale := submission.scale
    recalibrateOnMovement := submission.recalibrateOnMovement }

/-- The payload that withdraws the fallback of a system. -/
def disablePayload (name : Name) : SetTrackingSystemFallback Vec Rot :=
  { systemName := wireName name
    enabled := false
    translation := geo.zero
    rotation := geo.identity }

/-- The fallback of the calibrated target system. -/
def Context.primary (context : Context Vec) : Submission Vec :=
  ⟨context.targetTrackingSystem, context.calibratedTranslation, context.calibratedRotation,
    context.calibratedScale, context.recalibrateOnMovement⟩

def Context.extra (context : Context Vec) (extra : AdditionalCalibration Vec) : Submission Vec :=
  ⟨extra.targetTrackingSystem, extra.calibratedTranslation, extra.calibratedRotation,
    extra.calibratedScale, context.recalibrateOnMovement⟩

/-- The extra is in use: enabled, valid and with a named system. -/
def AdditionalCalibration.active (extra : AdditionalCalibration Vec) : Bool :=
  extra.enabled && extra.valid && extra.targetTrackingSystem ≠ []

/-- The fallbacks a scan submits, in order. An extra of the primary's system is passed over. -/
def Context.submissions (context : Context Vec) : List (Submission Vec) :=
  (if context.enabled ∧ context.targetTrackingSystem ≠ [] then [context.primary] else []) ++
  (context.additionalCalibrations.filter fun extra =>
    extra.active && extra.targetTrackingSystem ≠ context.targetTrackingSystem).map context.extra

/-- The payload of `ResetAndDisableOffsets`. -/
def resetPayload (id : Nat) (trackingSystem : Name) : SetDeviceTransform Vec Rot :=
  { openVRID := id
    enabled := false
    updateTranslation := true
    updateRotation := true
    updateScale := true
    translation := geo.zero
    rotation := geo.identity
    targetSystem := wireName trackingSystem }

/-- `ShouldBlendCycle`. -/
def shouldBlendCycle (inContinuousState isFreshlyAdopted snapThisCycle : Bool) : Bool :=
  inContinuousState && !isFreshlyAdopted && !snapThisCycle

/-- The payload of a device of the target system, given what was last sent for it. -/
def Context.transformPayload (context : Context Vec)
    (lastApplied : Option (SetDeviceTransform Vec Rot)) (id : Nat) : SetDeviceTransform Vec Rot :=
  { openVRID := id
    enabled := true
    updateTranslation := true
    updateRotation := true
    updateScale := true
    translation := geo.scaleVec (1 / 100) context.calibratedTranslation
    rotation := geo.eulerRotation context.calibratedRotation
    scale := context.calibratedScale
    lerp := shouldBlendCycle context.continuous
      (!lastApplied.any SetDeviceTransform.enabled) context.snapNextProfileApply
    quash := context.continuous && (id : Int) = context.targetID && context.quashTargetInContinuous
    targetSystem := wireName context.targetTrackingSystem
    recalibrateOnMovement := context.recalibrateOnMovement }

end Payloads

/-! ### The client of the driver -/

section Client

variable (Vec Rot : Type)

inductive Request where
  | setDeviceTransform (payload : SetDeviceTransform Vec Rot)
  | setTrackingSystemFallback (payload : SetTrackingSystemFallback Vec Rot)
  | setAlignmentSpeedParams (params : AlignmentSpeedParams)

/-- The overlay's end of the pipe: no handle, a handle to the running driver, or a handle whose
other end is gone. -/
inductive Pipe where
  | closed
  | opened
  | broken
deriving DecidableEq

/-- The pipe, the driver that runs and the number of its process. -/
structure Link where
  pipe : Pipe := .closed
  driver : Driver Vec Rot
  process : Nat := 0

end Client

/-- What the system gives one call of `SendBlocking`: the time, whether a connection is accepted, and
whether the request and its answer then go through. -/
structure Exchange where
  now : Nat := 0
  connects : Bool := true
  transfers : Bool := true

section Link

variable {Vec Rot : Type} (geo : Geometry Vec Rot)

/-- The driver's end. The speeds of the blending are a parameter of the pose hook's model. -/
def handleRequest (now : Nat) (request : Request Vec Rot) (driver : Driver Vec Rot) :
    Driver Vec Rot :=
  match request with
  | .setDeviceTransform payload => driver.setDeviceTransform now payload
  | .setTrackingSystemFallback payload => driver.setTrackingSystemFallback now payload
  | .setAlignmentSpeedParams _ => driver

/-- A freshly started driver takes the place of the one that ran. -/
def Link.restart (link : Link Vec Rot) : Link Vec Rot :=
  { pipe := if link.pipe = .opened then .broken else link.pipe
    driver := initialDriver geo
    process := link.process + 1 }

/-- `Connect`: whether it returned, or threw with the pipe closed. -/
def Link.connect (exchange : Exchange) (link : Link Vec Rot) : Bool × Link Vec Rot :=
  if exchange.connects then (true, { link with pipe := .opened })
  else (false, { link with pipe := .closed })

/-- `Send` and `Receive` on an open pipe. -/
def Link.transfer (exchange : Exchange) (request : Request Vec Rot) (link : Link Vec Rot) :
    Bool × Link Vec Rot :=
  if exchange.transfers then
    (true, { link with driver := handleRequest exchange.now request link.driver })
  else (false, { link with pipe := .closed })

/-- `SendBlocking`: whether it returned, or threw. A broken pipe is closed and connected again, and
the request sent once more; the reconnect only reopens the shared memory of the poses. -/
def Link.sendBlocking (exchange : Exchange) (request : Request Vec Rot) (link : Link Vec Rot) :
    Bool × Link Vec Rot :=
  match link.pipe with
  | .opened => link.transfer exchange request
  | .closed | .broken =>
    let connected := link.connect exchange
    if connected.1 then connected.2.transfer exchange request else connected

theorem sendBlocking_process (exchange : Exchange) (request : Request Vec Rot)
    (link : Link Vec Rot) : (link.sendBlocking exchange request).2.process = link.process := by
  obtain ⟨pipe, driver, process⟩ := link
  cases pipe <;> simp only [Link.sendBlocking, Link.connect, Link.transfer] <;> grind

/-- The running driver handles a request that is answered, and no other. -/
theorem sendBlocking_driver (exchange : Exchange) (request : Request Vec Rot)
    (link : Link Vec Rot) : (link.sendBlocking exchange request).2.driver =
      if (link.sendBlocking exchange request).1 then
        handleRequest exchange.now request link.driver
      else link.driver := by
  obtain ⟨pipe, driver, process⟩ := link
  cases pipe <;> simp only [Link.sendBlocking, Link.connect, Link.transfer] <;> grind

end Link

/-! ### The state of the overlay -/

/-- The steps of a scan before it comes to the devices. -/
inductive Opening (Vec : Type) where
  | reset
  | alignmentSpeed
  | fallback (submission : Submission Vec)
deriving DecidableEq

/-- Where the overlay is: in no scan, with steps of the opening to do, at the check of a device's
identity, at its transform, or right after a scan that returned. -/
inductive Phase (Vec : Type) where
  | idle
  | opening (pending : List (Opening Vec))
  | checking (id : Nat)
  | applying (id : Nat)
  | completed
deriving DecidableEq

section State

variable (Vec Rot : Type)

/-- The caches of what was last sent; an entry that is not valid is `none`. `appliedTo` is no part
of the program: it records the driver process the entry of a device was sent to. -/
structure Caches where
  lastApplied : Nat → Option (SetDeviceTransform Vec Rot) := fun _ => none
  appliedTo : Nat → Nat := fun _ => 0
  lastSeenSerial : Nat → Name := fun _ => []
  lastTargetSystem : Name := []
  lastEnabled : Bool := false
  lastAlignmentSpeed : Option AlignmentSpeedParams := none
  lastFallback : Option (SetTrackingSystemFallback Vec Rot) := none
  lastFallbacksBySystem : Name → Option (SetTrackingSystemFallback Vec Rot) := fun _ => none

structure World where
  context : Context Vec
  devices : Nat → Option Device := fun _ => none
  caches : Caches Vec Rot := {}
  link : Link Vec Rot
  phase : Phase Vec := .idle

end State

section Scan

variable {Vec Rot : Type}

/-! ### Sending what changed -/

/-- A part of a scan: whether it returned, or an exception left the scan. -/
abbrev Attempt (Vec Rot : Type) := Bool × World Vec Rot

/-- Sends a request, and changes the caches once it was answered. -/
def World.send (exchange : Exchange) (request : Request Vec Rot)
    (remember : Caches Vec Rot → Caches Vec Rot) (world : World Vec Rot) : Attempt Vec Rot :=
  let sent := world.link.sendBlocking exchange request
  (sent.1, { world with
    link := sent.2
    caches := if sent.1 then remember world.caches else world.caches })

/-- A request is answered by the running driver and remembered, or it throws and is neither. -/
theorem World.send_cases (exchange : Exchange) (request : Request Vec Rot)
    (remember : Caches Vec Rot → Caches Vec Rot) (world : World Vec Rot) :
    ∃ link : Link Vec Rot, link.process = world.link.process ∧
      ((link.driver = handleRequest exchange.now request world.link.driver ∧
        world.send exchange request remember =
          (true, { world with link := link, caches := remember world.caches })) ∨
      (link.driver = world.link.driver ∧
        world.send exchange request remember = (false, { world with link := link }))) := by
  have driver := sendBlocking_driver exchange request world.link
  refine ⟨_, sendBlocking_process exchange request world.link, ?_⟩
  unfold World.send
  dsimp only
  cases answered : (world.link.sendBlocking exchange request).1 with
  | true =>
    rw [answered, if_pos rfl] at driver
    exact .inl ⟨driver, rfl⟩
  | false =>
    rw [answered, if_neg Bool.false_ne_true] at driver
    exact .inr ⟨driver, rfl⟩

/-- A request is answered if a connection is accepted and the exchange goes through. -/
theorem World.send_answered {exchange : Exchange} (connects : exchange.connects = true)
    (transfers : exchange.transfers = true) (request : Request Vec Rot)
    (remember : Caches Vec Rot → Caches Vec Rot) (world : World Vec Rot) :
    ∃ link : Link Vec Rot, link.driver = handleRequest exchange.now request world.link.driver ∧
      world.send exchange request remember =
        (true, { world with link := link, caches := remember world.caches }) := by
  have answered : (world.link.sendBlocking exchange request).1 = true := by
    unfold Link.sendBlocking Link.connect Link.transfer
    rw [connects, transfers]
    split <;> rfl
  obtain ⟨link, _, ⟨driver, sent⟩ | ⟨_, sent⟩⟩ := world.send_cases exchange request remember
  · exact ⟨link, driver, sent⟩
  · have threw : (world.link.sendBlocking exchange request).1 = false := congrArg Prod.fst sent
    rw [answered] at threw
    cases threw

variable [DecidableEq Vec] [DecidableEq Rot] (geo : OverlayGeometry Vec Rot)

def Caches.rememberTransform (process id : Nat) (payload : SetDeviceTransform Vec Rot)
    (caches : Caches Vec Rot) : Caches Vec Rot :=
  { caches with
    lastApplied := Function.update caches.lastApplied id (some payload)
    appliedTo := Function.update caches.appliedTo id process }

def sendDeviceTransformIfChanged (exchange : Exchange) (id : Nat)
    (payload : SetDeviceTransform Vec Rot) (world : World Vec Rot) : Attempt Vec Rot :=
  if world.caches.lastApplied id = some payload then (true, world)
  else world.send exchange (.setDeviceTransform payload)
    (Caches.rememberTransform world.link.process id payload)

def resetAndDisableOffsets (exchange : Exchange) (id : Nat) (trackingSystem : Name)
    (world : World Vec Rot) : Attempt Vec Rot :=
  sendDeviceTransformIfChanged exchange id (resetPayload geo id trackingSystem) world

def Caches.rememberFallback (name : Name) (payload : SetTrackingSystemFallback Vec Rot)
    (caches : Caches Vec Rot) : Caches Vec Rot :=
  { caches with
    lastFallbacksBySystem := Function.update caches.lastFallbacksBySystem name (some payload)
    lastFallback := some payload }

def sendFallbackIfChanged (exchange : Exchange) (submission : Submission Vec)
    (world : World Vec Rot) : Attempt Vec Rot :=
  let payload := submission.payload geo
  if world.caches.lastFallbacksBySystem submission.systemName = some payload then (true, world)
  else world.send exchange (.setTrackingSystemFallback payload)
    (Caches.rememberFallback submission.systemName payload)

def Caches.forgetTransform (id : Nat) (caches : Caches Vec Rot) : Caches Vec Rot :=
  { caches with lastApplied := Function.update caches.lastApplied id none }

def Caches.invalidateTransformCacheForId (id : Nat) (caches : Caches Vec Rot) :
    Caches Vec Rot :=
  { caches.forgetTransform id with
    lastSeenSerial := Function.update caches.lastSeenSerial id [] }

/-- The cache of the fallbacks by system is not among those it invalidates. -/
def Caches.invalidateAllTransformCaches (caches : Caches Vec Rot) : Caches Vec Rot :=
  { caches with
    lastApplied := fun _ => none
    lastSeenSerial := fun _ => []
    lastAlignmentSpeed := none
    lastFallback := none }

/-! ### The opening of a scan -/

/-- The system whose fallback a scan withdraws because the target system has changed. -/
def withdrawn (context : Context Vec) (caches : Caches Vec Rot) : Option Name :=
  if context.targetTrackingSystem ≠ caches.lastTargetSystem ∧ caches.lastTargetSystem ≠ [] ∧
      caches.lastFallback.any SetTrackingSystemFallback.enabled then some caches.lastTargetSystem
  else none

/-- The caches of a scan that finds the target system or the profile's validity changed. -/
def Caches.startOver (context : Context Vec) (caches : Caches Vec Rot) : Caches Vec Rot :=
  { caches.invalidateAllTransformCaches with
    lastTargetSystem := context.targetTrackingSystem
    lastEnabled := context.enabled }

def resetOnChange (exchange : Exchange) (world : World Vec Rot) : Attempt Vec Rot :=
  if world.context.targetTrackingSystem ≠ world.caches.lastTargetSystem ∨
      world.context.enabled ≠ world.caches.lastEnabled then
    match withdrawn world.context world.caches with
    | some name => world.send exchange (.setTrackingSystemFallback (disablePayload geo name))
        (Caches.startOver world.context)
    | none => (true, { world with caches := world.caches.startOver world.context })
  else (true, world)

def sendAlignmentSpeed (exchange : Exchange) (world : World Vec Rot) : Attempt Vec Rot :=
  let params := world.context.alignmentSpeedParams
  if world.caches.lastAlignmentSpeed = some params then (true, world)
  else world.send exchange (.setAlignmentSpeedParams params)
    fun caches => { caches with lastAlignmentSpeed := some params }

def Opening.execute (exchange : Exchange) : Opening Vec → World Vec Rot → Attempt Vec Rot
  | .reset => resetOnChange geo exchange
  | .alignmentSpeed => sendAlignmentSpeed exchange
  | .fallback submission => sendFallbackIfChanged geo exchange submission

/-- The opening of the scan that starts with the given context. -/
def Context.openings (context : Context Vec) : List (Opening Vec) :=
  .reset :: .alignmentSpeed :: context.submissions.map .fallback

/-! ### The devices -/

/-- The first half of the loop body: a slot without a device is forgotten, and one whose serial has
changed is reset in the driver. -/
def checkDevice (exchange : Exchange) (id : Nat) (world : World Vec Rot) : Attempt Vec Rot :=
  match world.devices id with
  | none =>
    if world.caches.lastSeenSerial id ≠ [] ∨ world.caches.lastApplied id ≠ none then
      (true, { world with caches := world.caches.invalidateTransformCacheForId id })
    else (true, world)
  | some device =>
    let serial := device.serial.getD []
    let seen := fun caches : Caches Vec Rot =>
      { caches with lastSeenSerial := Function.update caches.lastSeenSerial id serial }
    if world.caches.lastSeenSerial id = serial then (true, world)
    else if world.caches.lastSeenSerial id = [] then
      (true, { world with caches := seen world.caches })
    else
      let forgotten := { world with caches := world.caches.forgetTransform id }
      let reset := resetAndDisableOffsets geo exchange id [] forgotten
      (reset.1, if reset.1 then { reset.2 with caches := seen reset.2.caches } else reset.2)

/-- The second half: the transform of a device that is present. -/
def applyDevice (exchange : Exchange) (id : Nat) (world : World Vec Rot) : Attempt Vec Rot :=
  match world.devices id with
  | none => (true, world)
  | some device =>
    if world.context.enabled = false then resetAndDisableOffsets geo exchange id [] world
    else match device.system id with
      | none => resetAndDisableOffsets geo exchange id [] world
      | some system =>
        if id = 0 then
          let checked := if system ≠ world.context.referenceTrackingSystem then
            { world with context := { world.context with enabled := false } } else world
          resetAndDisableOffsets geo exchange id system checked
        else if system ≠ world.context.targetTrackingSystem then
          resetAndDisableOffsets geo exchange id system world
        else sendDeviceTransformIfChanged exchange id
          (world.context.transformPayload geo (world.caches.lastApplied id) id) world

/-! ### The system -/

/-- The scan goes on in the given phase, or an exception has ended it. -/
def Attempt.settle (next : Phase Vec) (attempt : Attempt Vec Rot) : World Vec Rot :=
  { attempt.2 with phase := if attempt.1 then next else .idle }

/-- The overlay is not inside a scan. -/
def Phase.resting : Phase Vec → Bool
  | .idle | .completed => true
  | _ => false

/-- Edits of the context, devices that come, go or change, a detected shift of the base stations, a
restart of the driver, and the steps of a scan. -/
inductive Event (Vec : Type) where
  | edited (context : Context Vec)
  | devicesChanged (devices : Nat → Option Device)
  | baseStationsShifted
  | driverRestarted
  | scanStarted
  | scanProceeded (exchange : Exchange)

def proceed (exchange : Exchange) (world : World Vec Rot) : Option (World Vec Rot) :=
  match world.phase with
  | .idle | .completed => none
  | .opening [] => some { world with phase := .checking 0 }
  | .opening (first :: rest) => some ((first.execute geo exchange world).settle (.opening rest))
  | .checking id =>
    if id < kMaxTrackedDeviceCount then
      some ((checkDevice geo exchange id world).settle (.applying id))
    else some { world with
      context := { world.context with snapNextProfileApply := false }
      phase := .completed }
  | .applying id => some ((applyDevice geo exchange id world).settle (.checking (id + 1)))

def step (world : World Vec Rot) : Event Vec → Option (World Vec Rot)
  | .edited context =>
    if world.phase.resting then some { world with context := context, phase := .idle } else none
  | .devicesChanged devices =>
    if world.phase.resting then some { world with devices := devices, phase := .idle } else none
  | .baseStationsShifted =>
    if world.phase.resting then
      some { world with caches := world.caches.invalidateAllTransformCaches, phase := .idle }
    else none
  | .driverRestarted =>
    some { world with
      link := world.link.restart geo.toGeometry
      phase := if world.phase.resting then .idle else world.phase }
  | .scanStarted =>
    if world.phase.resting then
      let context := { world.context with enabled := world.context.validProfile }
      some { world with context := context, phase := .opening context.openings }
    else none
  | .scanProceeded exchange => proceed geo exchange world

/-- The overlay and the driver as they start. -/
def initialWorld (context : Context Vec) : World Vec Rot :=
  { context := context, link := { driver := initialDriver geo.toGeometry } }

end Scan

end PairDriver.ProfileScan
