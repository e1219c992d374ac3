/-
This file models the part of the smoothing plugin that tells the driver how far
to suppress the prediction of each device: the values saved per serial number,
the pushes at the start, after a connection, when the list of devices changes
and when calibration locks a device, and the rows of the prediction tab. The
driver at the other end of the pipe is the one of the pose hook; it knows its
devices by their OpenVR ids.

A call sees one list of devices and one set of locks throughout; the pipe may
fail and the driver may be restarted at every operation of it.
-/

import PairDriver.IpcClient
import PairDriver.PoseHookRace

namespace PairDriver.Prediction

open Provider (Geometry Driver SetDevicePrediction initialDriver kMaxTrackedDeviceCount)

/-! ### Devices -/

/-- The classes of tracked devices besides the invalid one. -/
inductive DeviceClass where
  | hmd
  | controller
  | genericTracker
  | trackingReference
  | displayRedirect
deriving DecidableEq

def DeviceClass.code : DeviceClass → Nat
  | .hmd => 1
  | .controller => 2
  | .genericTracker => 3
  | .trackingReference => 4
  | .displayRedirect => 5

/-- A tracked device with the properties the plugin reads; one that cannot be read is empty. -/
structure Device where
  deviceClass : DeviceClass := .genericTracker
  serial : String
  modelNumber : String := ""
  renderModelName : String := ""
deriving DecidableEq

/-! ### The filter of the list -/

def lowerAscii (value : String) : List Char :=
  value.toList.map Char.toLower

def equalsNoCase (first second : String) : Bool :=
  lowerAscii first == lowerAscii second

def containsNoCase (haystack needle : String) : Bool :=
  decide (lowerAscii needle <:+: lowerAscii haystack)

def isFaceTrackingSink (serial model : String) : Bool :=
  if equalsNoCase serial "OpenVRPair-FaceTracking-Sink" then true
  else if equalsNoCase serial "WKOpenVR-FaceTracking-Sink" then true
  else
    let branded := containsNoCase serial "openvrpair" || containsNoCase serial "wkopenvr" ||
      containsNoCase model "openvrpair" || containsNoCase model "wkopenvr"
    let faceSink := containsNoCase serial "facetracking-sink" ||
      containsNoCase model "facetracking-sink"
    branded && faceSink

def isUserPoseDeviceClass : DeviceClass → Bool
  | .hmd | .controller | .genericTracker => true
  | .trackingReference | .displayRedirect => false

def shouldShowInSmoothingPredictionList (deviceClass : DeviceClass) (serial model : String) : Bool :=
  isUserPoseDeviceClass deviceClass && !isFaceTrackingSink serial model

/-- The prediction tab lists the device. -/
def Device.listed (device : Device) : Bool :=
  shouldShowInSmoothingPredictionList device.deviceClass device.serial device.renderModelName

/-- A replay takes the device for a listed one. It looks at another of its names. -/
def Device.replayListed (device : Device) : Bool :=
  shouldShowInSmoothingPredictionList device.deviceClass device.serial device.modelNumber

/-! ### State -/

/-- The plugin and what it sees of the world. `devices` is what the VR system tells, if there is
one, and `locks` are the serial numbers calibration has locked. -/
structure Overlay (Vec Rot : Type) where
  link : Ipc.Link (Driver Vec Rot)
  trackerSmoothness : String → Option Nat
  smartSmoothing : Bool := false
  lastKnownCalibrationLocks : Finset String := ∅
  lastPredictionDeviceSignature : String := ""
  lastPredictionReplayScan : Nat := 0
  started : Bool := false
  devices : Option (Nat → Option Device) := none
  locks : Finset String := ∅

/-- The requests of the plugin besides the handshake. -/
inductive Request where
  | setFingerSmoothing
  | setDevicePrediction (request : SetDevicePrediction)

/-- The device at an id. -/
def deviceAt (devices : Option (Nat → Option Device)) (id : Nat) : Option Device :=
  if id < kMaxTrackedDeviceCount then devices.bind fun found => found id else none

/-- What one device contributes to the signature of a list. -/
def signatureEntry (id : Nat) : Option Device → String
  | none => ""
  | some device =>
    if device.serial = "" then ""
    else toString id ++ ":" ++ toString device.deviceClass.code ++ ":" ++ device.serial ++ ";"

def buildPredictionDeviceSignature (devices : Option (Nat → Option Device)) : String :=
  (List.range kMaxTrackedDeviceCount).foldl
    (fun signature id => signature ++ signatureEntry id (deviceAt devices id)) ""

section Overlay

variable {Vec Rot : Type}

/-- The driver's end of the pipe. -/
def handleRequest : Request → Driver Vec Rot → Driver Vec Rot
  | .setFingerSmoothing, driver => driver
  | .setDevicePrediction request, driver => driver.setDevicePrediction request

/-- The suppression the driver applies to the device at an id. -/
def suppression (link : Ipc.Link (Driver Vec Rot)) (id : Nat) : Nat :=
  (link.driver.transforms id).predictionSmoothness

/-- What a replay sends for a device, if anything. -/
def Overlay.replayed (overlay : Overlay Vec Rot) (device : Device) : Option Nat :=
  if device.serial = "" then none
  else if !device.replayListed || device.deviceClass = .hmd || device.serial ∈ overlay.locks then
    (overlay.trackerSmoothness device.serial).map fun _ => 0
  else overlay.trackerSmoothness device.serial

/-- The locked devices that have a saved value. -/
def Overlay.calibrationLocks (overlay : Overlay Vec Rot) : Finset String :=
  overlay.locks.filter fun serial => (overlay.trackerSmoothness serial).isSome

/-- What is sent for a device when the locks have changed, if anything. -/
def Overlay.newlyLocked (overlay : Overlay Vec Rot) (device : Device) : Option Nat :=
  if device.serial ≠ "" ∧ device.serial ∈ overlay.calibrationLocks ∧
      device.serial ∉ overlay.lastKnownCalibrationLocks then some 0
  else none

variable (geo : Geometry Vec Rot)

/-! ### Requests -/

/-- A request over an open pipe; its exceptions are caught. -/
def send (sending : Ipc.Sending) (request : Request) (link : Ipc.Link (Driver Vec Rot)) :
    Ipc.Link (Driver Vec Rot) :=
  if link.pipe = none then link
  else (link.sendBlocking (initialDriver geo) handleRequest sending (some request)).2

/-- `SendDevicePrediction`, which clamps the value. -/
def sendDevicePrediction (smart : Bool) (sending : Ipc.Sending) (id : Nat) (smoothness : Int)
    (link : Ipc.Link (Driver Vec Rot)) : Ipc.Link (Driver Vec Rot) :=
  send geo sending (.setDevicePrediction ⟨id, min smoothness.toNat 100, smart⟩) link

/-- The loop over the ids: a value is sent for some of the devices. -/
def sendEach (smart : Bool) (answers : Nat → Ipc.Sending) (devices : Option (Nat → Option Device))
    (value : Device → Option Nat) (link : Ipc.Link (Driver Vec Rot)) : Ipc.Link (Driver Vec Rot) :=
  (List.range kMaxTrackedDeviceCount).foldl (fun link id =>
    match (deviceAt devices id).bind value with
    | some smoothness => sendDevicePrediction geo smart (answers id) id smoothness link
    | none => link) link

def Overlay.replayDevicePredictions (answers : Nat → Ipc.Sending) (overlay : Overlay Vec Rot) :
    Overlay Vec Rot :=
  { overlay with
    link := sendEach geo overlay.smartSmoothing answers overlay.devices overlay.replayed
      overlay.link }

/-! ### The start and the tick -/

/-- `ConnectIfNeeded`: whether there is a new connection. -/
def Overlay.connectIfNeeded (connecting : Ipc.Connecting) (overlay : Overlay Vec Rot) :
    Bool × Overlay Vec Rot :=
  if overlay.link.pipe ≠ none then (false, overlay)
  else
    let result := overlay.link.connect (initialDriver geo) handleRequest connecting
    (result.1, { overlay with link := result.2 })

/-- `SendConfig`, which leaves the prediction alone. -/
def Overlay.sendConfig (sending : Ipc.Sending) (overlay : Overlay Vec Rot) : Overlay Vec Rot :=
  { overlay with link := send geo sending .setFingerSmoothing overlay.link }

/-- What happens during `OnStart`, and during the first part of a tick. -/
structure Connection where
  connecting : Ipc.Connecting := {}
  config : Ipc.Sending := {}
  replay : Nat → Ipc.Sending := fun _ => {}

def Overlay.onStart (answers : Connection) (overlay : Overlay Vec Rot) : Overlay Vec Rot :=
  let connected := (overlay.connectIfNeeded geo answers.connecting).2
  { (connected.sendConfig geo answers.config).replayDevicePredictions geo answers.replay with
    started := true }

/-- The first part of `Tick`: a new connection is told everything. -/
def Overlay.tickConnection (answers : Connection) (overlay : Overlay Vec Rot) : Overlay Vec Rot :=
  match overlay.connectIfNeeded geo answers.connecting with
  | (true, connected) =>
    (connected.sendConfig geo answers.config).replayDevicePredictions geo answers.replay
  | (false, same) => same

def rescanIntervalMs : Nat := 2000

def Overlay.tickPredictionRestore (now : Nat) (answers : Nat → Ipc.Sending)
    (overlay : Overlay Vec Rot) : Overlay Vec Rot :=
  if overlay.link.pipe = none then overlay
  else if now - overlay.lastPredictionReplayScan < rescanIntervalMs then overlay
  else
    let scanned := { overlay with lastPredictionReplayScan := now }
    let signature := buildPredictionDeviceSignature overlay.devices
    if signature = "" then scanned
    else if overlay.lastPredictionDeviceSignature = "" then
      { scanned with lastPredictionDeviceSignature := signature }
    else if signature = overlay.lastPredictionDeviceSignature then scanned
    else { scanned with
      lastPredictionDeviceSignature := signature }.replayDevicePredictions geo answers

def Overlay.tickCalibrationLockClear (answers : Nat → Ipc.Sending) (overlay : Overlay Vec Rot) :
    Overlay Vec Rot :=
  if overlay.calibrationLocks = overlay.lastKnownCalibrationLocks then overlay
  else if overlay.devices.isNone || overlay.link.pipe = none then overlay
  else { overlay with
    link := sendEach geo overlay.smartSmoothing answers overlay.devices overlay.newlyLocked
      overlay.link
    lastKnownCalibrationLocks := overlay.calibrationLocks }

/-- What happens during a tick. -/
structure Ticking where
  now : Nat
  connection : Connection := {}
  restore : Nat → Ipc.Sending := fun _ => {}
  lockClear : Nat → Ipc.Sending := fun _ => {}

def Overlay.tick (answers : Ticking) (overlay : Overlay Vec Rot) : Overlay Vec Rot :=
  ((overlay.tickConnection geo answers.connection).tickPredictionRestore geo answers.now
    answers.restore).tickCalibrationLockClear geo answers.lockClear

/-! ### The prediction tab -/

/-- The new value of a device, if its row changes it: a device that is not listed loses its value,
and the slider of one that is locked cannot be moved. -/
def Overlay.rowEdit (edit : Option Int) (overlay : Overlay Vec Rot) (device : Device) :
    Option Int :=
  if device.serial = "" then none
  else if !device.listed then (overlay.trackerSmoothness device.serial).map fun _ => 0
  else if device.deviceClass = .hmd || device.serial ∈ overlay.locks then none
  else edit

/-- The value is saved; zero is not. -/
def Overlay.save (serial : String) (value : Int) (overlay : Overlay Vec Rot) : Overlay Vec Rot :=
  { overlay with
    trackerSmoothness := Function.update overlay.trackerSmoothness serial
      (if value ≤ 0 then none else some value.toNat) }

/-- A row of `DrawPredictionTab`, with the value the user moves its slider to, if he does. -/
def Overlay.drawRow (id : Nat) (edit : Option Int) (sending : Ipc.Sending)
    (overlay : Overlay Vec Rot) : Overlay Vec Rot :=
  match deviceAt overlay.devices id with
  | none => overlay
  | some device =>
    match overlay.rowEdit edit device with
    | none => overlay
    | some value =>
      { overlay.save device.serial value with
        link := sendDevicePrediction geo overlay.smartSmoothing sending id value overlay.link }

/-! ### Runs -/

/-- The devices or the locks change, the driver is restarted, or the plugin is called. -/
inductive Event where
  | devicesChange (devices : Option (Nat → Option Device))
  | locksChange (serials : List String)
  | restart
  | start (answers : Connection)
  | tick (answers : Ticking)
  | drawRow (id : Nat) (edit : Option Int) (sending : Ipc.Sending)
  | smartToggle (enabled : Bool) (answers : Nat → Ipc.Sending)

def step (overlay : Overlay Vec Rot) : Event → Option (Overlay Vec Rot)
  | .devicesChange devices => some { overlay with devices := devices }
  | .locksChange serials => some { overlay with locks := serials.toFinset.erase "" }
  | .restart => some { overlay with link := overlay.link.restart (initialDriver geo) }
  | .start answers => if overlay.started then none else some (overlay.onStart geo answers)
  | .tick answers => if overlay.started then some (overlay.tick geo answers) else none
  | .drawRow id edit sending =>
    if overlay.started then some (overlay.drawRow geo id edit sending) else none
  | .smartToggle enabled answers =>
    if overlay.started then
      some ({ overlay with smartSmoothing := enabled }.replayDevicePredictions geo answers)
    else none

/-- The `tracker_smoothness` lines of `LoadConfig`. -/
def loadTrackerSmoothness (lines : List (String × Int)) : String → Option Nat :=
  lines.foldl (fun saved line =>
    let value := min line.2.toNat 100
    if value > 0 then Function.update saved line.1 (some value) else saved) fun _ => none

/-- The plugin before its start, beside a driver that has just started. -/
def initialOverlay (lines : List (String × Int)) : Overlay Vec Rot where
  link := { driver := initialDriver geo }
  trackerSmoothness := loadTrackerSmoothness lines

/-! ### The policy -/

/-- The suppression a device is meant to have. -/
def Overlay.policy (overlay : Overlay Vec Rot) (device : Device) : Nat :=
  if device.serial = "" ∨ device.deviceClass = .hmd ∨ device.listed = false ∨
      device.serial ∈ overlay.locks then 0
  else (overlay.trackerSmoothness device.serial).getD 0

/-- The driver applies the policy to every device. -/
def Overlay.Follows (overlay : Overlay Vec Rot) : Prop :=
  ∀ id < kMaxTrackedDeviceCount, ∀ device ∈ deviceAt overlay.devices id,
    suppression overlay.link id = overlay.policy device

instance (overlay : Overlay Vec Rot) : Decidable overlay.Follows :=
  inferInstanceAs (Decidable (∀ _ < _, ∀ _ ∈ _, _))

end Overlay

end PairDriver.Prediction
