/-
This file models the setup wizard of the calibration overlay and what it works
with: the devices `VRState` lists, the profile, the additional calibrations with
their live device ids, the continuous tick that runs them, and the restart of the
program, which saves the profile and loads it again.

The wizard calibrates the first system it is given as the primary one and appends
the others to the additional calibrations. Ids are set where an entry is created;
a load leaves them unset.
-/

import PairDriver.BaseStationDrift
import PairDriver.ProfileRoundTrip

namespace PairDriver.SetupWizard

open PairDriver.Calibration (CalibrationState TickInput calibrationTick checkTick recover
  watchGeometry checkHmd leaveStandby skipIdle checkDevices checkLiveness collectSample
  checkDiversity checkTrigger)
open PairDriver.BaseStations (goesOn)
open PairDriver.ProfileCodec (Platform StandbyDevice AdditionalCalibration RelativePose freshContext
  clear reload outcome)
open PairDriver.Configuration (Json)

/-! ### Devices -/

inductive DeviceClass where
  | invalid
  | hmd
  | controller
  | genericTracker
  | trackingReference
  | displayRedirect
deriving DecidableEq

/-- A device; its id is one of the slots of OpenVR. -/
structure VRDevice where
  id : Fin 64
  deviceClass : DeviceClass
  model : String
  serial : String
  trackingSystem : String
deriving DecidableEq

structure VRState where
  trackingSystems : List String := []
  devices : List VRDevice := []
deriving DecidableEq

/-- The system of a device is listed once, and that of the headset first if it was listed already. -/
def addSystem (systems : List String) (device : VRDevice) : List String :=
  if device.trackingSystem ∈ systems then
    if device.deviceClass = .hmd then device.trackingSystem :: systems.erase device.trackingSystem
    else systems
  else systems ++ [device.trackingSystem]

/-- `VRState::Load`, given the devices that pass its filters. -/
def VRState.load (devices : List VRDevice) : VRState where
  trackingSystems := devices.foldl addSystem []
  devices := devices

def VRDevice.standby (device : VRDevice) : StandbyDevice where
  trackingSystem := device.trackingSystem
  model := device.model
  serial := device.serial

/-- The test of `FindDevice`: a headset may differ in its model or its serial. -/
def VRDevice.isStandby (standby : StandbyDevice) (device : VRDevice) : Bool :=
  decide (device.trackingSystem = standby.trackingSystem) &&
    if device.deviceClass = .hmd then
      decide (device.model = standby.model) || decide (device.serial = standby.serial)
    else decide (device.model = standby.model) && decide (device.serial = standby.serial)

/-- `FindDevice`. -/
def findDevice (devices : List VRDevice) (standby : StandbyDevice) : Int :=
  match devices.find? (VRDevice.isStandby standby) with
  | some device => device.id.val
  | none => -1

/-! ### The wizard -/

/-- The steps of the wizard; the names are those of the source. -/
inductive Step where
  | inactive
  | welcome
  | noCalibrationNeeded
  | pickTarget
  | calibrating
  | systemDone
  | allDone
deriving DecidableEq

structure State where
  step : Step := .inactive
  hmdSystem : String := ""
  pendingSystems : List String := []
  selectedDeviceIdx : Option Nat := none
  vrState : VRState := {}
  calibrationStarted : Bool := false
  firstSystem : Bool := true
deriving DecidableEq

/-- The devices of the current system that can be picked. -/
def State.candidates (wizard : State) : List Nat :=
  (List.range wizard.vrState.devices.length).filter fun index =>
    wizard.vrState.devices[index]?.any fun device =>
      decide (some device.trackingSystem = wizard.pendingSystems.head?) &&
        device.deviceClass != .hmd && device.deviceClass != .invalid

def State.selectedDevice (wizard : State) : Option VRDevice :=
  wizard.selectedDeviceIdx.bind fun index => wizard.vrState.devices[index]?

def State.hmd (wizard : State) : Option VRDevice :=
  wizard.vrState.devices.find? fun device => device.deviceClass == .hmd

/-! ### The world -/

section World

variable {Number Single Rotation : Type}

/-- An additional calibration with its live ids. -/
structure LiveExtra (Number : Type) where
  saved : AdditionalCalibration Number
  referenceID : Int := -1
  targetID : Int := -1
deriving DecidableEq

/-- The calibration context, the wizard and the devices SteamVR lists. The mode of the context is
that of the state machine, and its additional calibrations are the entries here. `anyStarted` and
`chosen` are recorded for the specification only: whether this run of the wizard has started a
system, and the device the primary calibration was started with. -/
structure World (Number Single Rotation : Type) where
  profile : ProfileCodec.Context Number Single Rotation
  calibration : Calibration.Context := {}
  extras : List (LiveExtra Number) := []
  wizard : State := {}
  devices : List VRDevice := []
  anyStarted : Bool := false
  chosen : Option StandbyDevice := none

def World.extraSystems (world : World Number Single Rotation) : List String :=
  world.extras.map fun extra => extra.saved.targetTrackingSystem

/-! ### Steps of the wizard -/

def World.completed (world : World Number Single Rotation) : World Number Single Rotation :=
  { world with profile := { world.profile with wizardCompleted := true } }

def World.enter (step : Step) (world : World Number Single Rotation) :
    World Number Single Rotation :=
  { world with wizard := { world.wizard with step := step } }

/-- `Open`. -/
def World.openWizard (world : World Number Single Rotation) : World Number Single Rotation :=
  { world with wizard := { step := .welcome }, anyStarted := false }

/-- `EnterPickTarget`. -/
def World.enterPickTarget (world : World Number Single Rotation) : World Number Single Rotation :=
  { world with
    wizard := { world.wizard with
      vrState := VRState.load world.devices
      selectedDeviceIdx := none
      calibrationStarted := false
      step := .pickTarget } }

/-- `EnterAllDone`. -/
def World.enterAllDone (world : World Number Single Rotation) : World Number Single Rotation :=
  (world.enter .allDone).completed

/-- `EnterNextSystem`. -/
def World.enterNextSystem (world : World Number Single Rotation) : World Number Single Rotation :=
  if world.wizard.pendingSystems = [] then world.enterAllDone else world.enterPickTarget

/-- The wizard is left for good: it does not open by itself again. -/
def World.leave (world : World Number Single Rotation) : World Number Single Rotation :=
  (world.enter .inactive).completed

/-- "Continue" of the first page, with the system the headset reports. -/
def World.continueWelcome (hmdSystem : String) (world : World Number Single Rotation) :
    World Number Single Rotation :=
  let vrState := VRState.load world.devices
  let detected := { world with
    wizard := { world.wizard with
      vrState := vrState
      hmdSystem := hmdSystem
      pendingSystems := vrState.trackingSystems.filter fun system => system != hmdSystem
      firstSystem := true } }
  if detected.wizard.pendingSystems = [] then detected.enter .noCalibrationNeeded
  else detected.enterPickTarget

/-- "Start calibration" for the first system. -/
def World.startPrimary (hmd device : VRDevice) (world : World Number Single Rotation) :
    World Number Single Rotation :=
  { world with
    profile := { world.profile with
      referenceTrackingSystem := hmd.trackingSystem
      targetTrackingSystem := device.trackingSystem
      referenceStandby := hmd.standby
      targetStandby := device.standby }
    calibration := Calibration.startContinuousCalibration world.calibration
    chosen := some device.standby }

variable (platform : Platform Number Single Rotation)

/-- "Start calibration" for another system. -/
def World.startExtra (hmd device : VRDevice) (world : World Number Single Rotation) :
    World Number Single Rotation :=
  { world with
    extras := world.extras ++ [
      { saved :=
          { targetTrackingSystem := device.trackingSystem
            targetStandby := device.standby
            calibratedRotation := ProfileCodec.zeroTriple platform
            calibratedTranslation := ProfileCodec.zeroTriple platform
            calibratedScale := platform.literal 1
            lockMode := 2
            valid := false
            enabled := true }
        referenceID := hmd.id.val
        targetID := device.id.val }] }

/-- "Start calibration", which is disabled without a selection and does nothing without a
headset. -/
def World.startSystem (world : World Number Single Rotation) :
    Option (World Number Single Rotation) :=
  world.wizard.selectedDevice.map fun device =>
    match world.wizard.hmd with
    | none => world
    | some hmd =>
      let started := if world.wizard.firstSystem then world.startPrimary hmd device
        else world.startExtra platform hmd device
      { started with
        wizard := { started.wizard with calibrationStarted := true, step := .calibrating }
        anyStarted := true }

/-- The current system is taken off the list, and is no longer the first. -/
def World.dropSystem (world : World Number Single Rotation) : World Number Single Rotation :=
  { world with
    wizard := { world.wizard with
      pendingSystems := world.wizard.pendingSystems.tail
      firstSystem := false } }

/-! ### The continuous tick -/

/-- A result of a solver. -/
structure Solution (Number : Type) where
  rotation : Number × Number × Number
  translation : Number × Number × Number
deriving DecidableEq

/-- What a tick reads: that of the state machine, the poses that are valid and tracked, the accepted
result of the primary solver, and those of the other ones. -/
structure Input (Number Rotation : Type) where
  tick : TickInput
  tracking : Int → Bool
  primary : Option (Solution Number × RelativePose Number Rotation × Bool)
  extra : LiveExtra Number → Option (Solution Number)

/-- Whether the tick comes to the incremental solve. -/
def solveReached (input : TickInput) (ctx : Calibration.Context) : Bool :=
  (goesOn [checkTick input, recover input, watchGeometry input, checkHmd input, leaveStandby input,
    skipIdle, checkDevices input, checkLiveness input, collectSample input, checkDiversity input,
    checkTrigger input] ctx).any fun ctx => ctx.state == .continuous

/-- The ids with which an additional calibration takes part in the tick. -/
def LiveExtra.takesPart (extra : LiveExtra Number) : Bool :=
  extra.saved.enabled && decide (0 ≤ extra.referenceID ∧ 0 ≤ extra.targetID) &&
    decide (extra.referenceID < 64 ∧ extra.targetID < 64)

/-- The tick of an additional calibration. -/
def LiveExtra.advance (input : Input Number Rotation) (extra : LiveExtra Number) :
    LiveExtra Number :=
  if extra.takesPart && input.tracking extra.referenceID && input.tracking extra.targetID then
    match input.extra extra with
    | some solution =>
      { extra with
        saved := { extra.saved with
          calibratedRotation := solution.rotation
          calibratedTranslation := solution.translation
          valid := true } }
    | none => extra
  else extra

/-- `CalibrationTick`, with the additional calibrations and the accepted result. -/
def World.tick (input : Input Number Rotation) (world : World Number Single Rotation) :
    World Number Single Rotation :=
  let ticked := { world with calibration := calibrationTick input.tick world.calibration }
  if solveReached input.tick world.calibration then
    let advanced := { ticked with extras := world.extras.map (LiveExtra.advance input) }
    match input.primary with
    | some (solution, pose, calibrated) =>
      if ticked.calibration.calibrationValid then
        { advanced with
          profile := { world.profile with
            calibratedRotation := solution.rotation
            calibratedTranslation := solution.translation
            refToTargetPose := pose
            relativePosCalibrated := calibrated
            validProfile := true } }
      else advanced
    | none => advanced
  else ticked

/-! ### Restarts -/

section Restart

variable [DecidableEq Number] [DecidableEq Single] {Text : Type} (serialize : Json Number → Text)
  (parse : Text → Except String (Json Number))

/-- The context that is saved. -/
def World.saved (world : World Number Single Rotation) :
    ProfileCodec.Context Number Single Rotation :=
  { world.profile with
    state := world.calibration.state
    additionalCalibrations := world.extras.map LiveExtra.saved }

/-- The context after a save and a load. Without a valid profile nothing is written, and the load of
an empty text clears the fresh context. -/
def World.loaded (world : World Number Single Rotation) :
    ProfileCodec.Context Number Single Rotation :=
  match reload platform serialize parse world.saved with
  | some result => outcome result
  | none => clear platform (freshContext platform)

/-- A restart of the program. -/
def World.restart (world : World Number Single Rotation) : World Number Single Rotation :=
  let profile := world.loaded platform serialize parse
  { profile := profile
    calibration := Calibration.loadProfile (decide (profile.state = .continuousStandby))
    extras := profile.additionalCalibrations.map fun extra => { saved := extra }
    devices := world.devices
    chosen := if world.profile.validProfile then world.chosen else none }

/-! ### The system -/

/-- What the user and the environment do. `draw` is the page that closes by itself when no system is
pending, and `dismiss` the escape key. -/
inductive Event (Number Rotation : Type) where
  | connect (devices : List VRDevice)
  | openWizard
  | continueWelcome (hmdSystem : String)
  | skipWizard
  | closeNotNeeded
  | refresh
  | select (index : Nat)
  | startSystem
  | skipSystem
  | systemDone
  | cancel
  | draw
  | calibrateNext
  | finish
  | close
  | dismiss
  | tick (input : Input Number Rotation)
  | restart

/-- A button of a page. -/
def onPage (shown : Bool) (next : World Number Single Rotation) :
    Option (World Number Single Rotation) :=
  if shown then some next else none

/-- The page of the wizard is that of the step and has a pending system to show. -/
def State.offers (wizard : State) (step : Step) : Bool :=
  decide (wizard.step = step) && !wizard.pendingSystems.isEmpty

def step (world : World Number Single Rotation) :
    Event Number Rotation → Option (World Number Single Rotation)
  | .connect devices => some { world with devices := devices }
  | .openWizard => some world.openWizard
  | .continueWelcome hmdSystem =>
    onPage (decide (world.wizard.step = .welcome)) (world.continueWelcome hmdSystem)
  | .skipWizard =>
    onPage (decide (world.wizard.step = .welcome) || world.wizard.offers .pickTarget) world.leave
  | .closeNotNeeded => onPage (decide (world.wizard.step = .noCalibrationNeeded)) world.leave
  | .refresh =>
    onPage (world.wizard.offers .pickTarget && world.wizard.candidates.isEmpty)
      { world with wizard := { world.wizard with vrState := VRState.load world.devices } }
  | .select index =>
    onPage (world.wizard.offers .pickTarget && world.wizard.candidates.contains index)
      { world with wizard := { world.wizard with selectedDeviceIdx := some index } }
  | .startSystem =>
    if world.wizard.offers .pickTarget then world.startSystem platform else none
  | .skipSystem => onPage (world.wizard.offers .pickTarget) world.dropSystem.enterNextSystem
  | .systemDone =>
    onPage (decide (world.wizard.step = .calibrating)) (world.dropSystem.enter .systemDone)
  | .cancel => onPage (decide (world.wizard.step = .calibrating)) world.leave
  | .draw =>
    onPage ((decide (world.wizard.step = .pickTarget) || decide (world.wizard.step = .systemDone)) &&
      world.wizard.pendingSystems.isEmpty) world.enterAllDone
  | .calibrateNext => onPage (world.wizard.offers .systemDone) world.enterNextSystem
  | .finish => onPage (world.wizard.offers .systemDone) world.enterAllDone
  | .close => onPage (decide (world.wizard.step = .allDone)) (world.enter .inactive)
  | .dismiss => onPage (!decide (world.wizard.step = .inactive)) world.leave
  | .tick input => some (world.tick input)
  | .restart => some (world.restart platform serialize parse)

/-- A first launch, with nothing stored. -/
def launch (devices : List VRDevice) : World Number Single Rotation where
  profile := clear platform (freshContext platform)
  devices := devices

end Restart

end World

end PairDriver.SetupWizard
