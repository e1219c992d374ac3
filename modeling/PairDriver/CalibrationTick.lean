/-
This file models the calibration state machine: the operations that start and end
a calibration, and `CalibrationTick` as the sequence of its phases, each of which
goes on or returns from the tick. What the phases read of devices, poses and
solvers is the input of the tick. Every assignment of the state is recorded, with
whether it came after the user had ended continuous calibration.
-/

import PairDriver.GeometryShift
import PairDriver.Machine

namespace PairDriver.Calibration

open GeometryShift

/-! ### States -/

inductive CalibrationState where
  | none
  | begin
  | rotation
  | translation
  | editing
  | continuous
  | continuousStandby
deriving DecidableEq

/-- `IsLegalTransition`. -/
def isLegalTransition (source target : CalibrationState) : Bool :=
  source == target ||
    match source with
    | .none => target == .begin || target == .continuous || target == .continuousStandby ||
        target == .editing
    | .begin => target == .none || target == .rotation || target == .continuous
    | .rotation => target == .none || target == .translation
    | .translation => target == .none
    | .editing => target == .none
    | .continuous => target == .none || target == .begin || target == .continuousStandby
    | .continuousStandby => target == .none || target == .begin || target == .continuous

/-- Continuous calibration runs or waits for its devices. -/
def CalibrationState.isContinuous : CalibrationState → Bool
  | .continuous | .continuousStandby => true
  | _ => false

/-- An assignment of the state; `ended` tells whether the user had ended continuous calibration and
not started it since. -/
structure Change where
  source : CalibrationState
  target : CalibrationState
  ended : Bool
deriving DecidableEq

/-- The part of the calibration context the state machine runs on. `ended` and `changes` are
recorded for the specification only. -/
structure Context where
  state : CalibrationState := .none
  calibrationValid : Bool := false
  errors : List (Rat × Rat) := []
  watchdog : Watchdog := {}
  timeLastTick : Rat := 0
  referenceWasOffline : Bool := false
  targetWasOffline : Bool := false
  ended : Bool := false
  changes : List Change := []
deriving DecidableEq

def setState (target : CalibrationState) (ctx : Context) : Context :=
  { ctx with state := target, changes := ⟨ctx.state, target, ctx.ended⟩ :: ctx.changes }

/-! ### Starting and ending -/

/-- `StartCalibration`. -/
def startCalibration (ctx : Context) : Context :=
  { setState .begin ctx with calibrationValid := false }

/-- `StartContinuousCalibration`. -/
def startContinuousCalibration (ctx : Context) : Context :=
  { setState .continuous (startCalibration ctx) with
    referenceWasOffline := false
    targetWasOffline := false }

/-- `EndContinuousCalibration`. The calibration itself is not cleared. -/
def endContinuousCalibration (ctx : Context) : Context :=
  setState .none ctx

/-! ### The tick -/

/-- What a tick reads. `relocalized` stands for the relocalization detector and all gates of its
recovery but the one on the state; `solve` is the validity of the calibration after the solve, and
the time and value of the error it reports for the one before. -/
structure TickInput where
  vrSystem : Bool := true
  time : Rat
  idsInRange : Bool := true
  relocalized : Bool := false
  useCusum : Bool := false
  hmdStalled : Bool := false
  devicesFound : Bool := true
  devicesAssigned : Bool := true
  devicesTracking : Bool := true
  referenceOffline : Bool := false
  targetOffline : Bool := false
  posesValid : Bool := true
  samplesComplete : Bool := true
  rotationDiverse : Bool := true
  translationDiverse : Bool := true
  waitsForTrigger : Bool := false
  paused : Bool := false
  solveValid : Bool := true
  solveError : Option (Rat × Rat) := none
deriving DecidableEq

/-- A phase of the tick goes on with a context or returns from the tick. -/
abbrev Phase := Context → Except Context Context

/-- The context after phases in a row, whether or not one of them returned. -/
def runPhases : List Phase → Context → Context
  | [], ctx => ctx
  | phase :: rest, ctx =>
    match phase ctx with
    | .ok next => runPhases rest next
    | .error final => final

def checkTick (input : TickInput) : Phase := fun ctx =>
  if input.vrSystem ∧ ¬input.time - ctx.timeLastTick < 1 / 20 ∧ input.idsInRange then .ok ctx
  else .error ctx

/-- `TickHmdRelocalizationDetector` with `RecoverFromWedgedCalibration`. -/
def recover (input : TickInput) : Phase := fun ctx =>
  if input.relocalized ∧ ctx.state.isContinuous then
    .ok (startContinuousCalibration { ctx with calibrationValid := false })
  else .ok ctx

/-- The geometry-shift watchdog. -/
def watchGeometry (input : TickInput) : Phase := fun ctx =>
  let result := watchdogTick input.useCusum ctx.calibrationValid ctx.errors ctx.watchdog
  if result.1 then
    .ok { setState .continuousStandby ctx with
      calibrationValid := false
      watchdog := result.2 }
  else .ok { ctx with watchdog := result.2 }

def checkHmd (input : TickInput) : Phase := fun ctx =>
  if input.hmdStalled then .error { ctx with timeLastTick := input.time }
  else .ok { ctx with timeLastTick := input.time }

def leaveStandby (input : TickInput) : Phase := fun ctx =>
  if ctx.state = .continuousStandby then
    if input.devicesFound then .ok (startContinuousCalibration ctx) else .error ctx
  else .ok ctx

def skipIdle : Phase := fun ctx =>
  if ctx.state = .none ∨ ctx.state = .editing then .error ctx else .ok ctx

def abort (ctx : Context) : Context :=
  if ctx.state = .continuous then ctx else setState .none ctx

def checkDevices (input : TickInput) : Phase := fun ctx =>
  if ctx.state = .begin then
    if input.devicesAssigned ∧ input.devicesTracking then .error (setState .rotation ctx)
    else .error (abort ctx)
  else if input.devicesAssigned then .ok ctx
  else .error (abort ctx)

/-- The liveness gate of continuous calibration. -/
def checkLiveness (input : TickInput) : Phase := fun ctx =>
  if ctx.state = .continuous then
    let returned := ctx.referenceWasOffline && !input.referenceOffline ||
      ctx.targetWasOffline && !input.targetOffline
    let seen := { ctx with
      referenceWasOffline := input.referenceOffline
      targetWasOffline := input.targetOffline }
    if input.referenceOffline ∨ input.targetOffline then .error seen
    else if returned then .error (startContinuousCalibration seen)
    else .ok seen
  else .ok ctx

/-- `CollectSample` and the wait for enough samples. -/
def collectSample (input : TickInput) : Phase := fun ctx =>
  if input.posesValid then if input.samplesComplete then .ok ctx else .error ctx
  else .error (abort ctx)

/-- The two phases of a one-shot calibration. -/
def checkDiversity (input : TickInput) : Phase := fun ctx =>
  if ctx.state = .rotation then
    if input.rotationDiverse then .error (setState .translation ctx) else .error ctx
  else if ctx.state = .translation ∧ ¬input.translationDiverse then .error ctx
  else .ok ctx

def checkTrigger (input : TickInput) : Phase := fun ctx =>
  if ctx.state = .continuous ∧ input.waitsForTrigger then .error ctx else .ok ctx

/-- `ComputeIncremental` in continuous calibration, else `ComputeOneshot`. The incremental solve
first reports the error of a calibration that was valid. -/
def solve (input : TickInput) : Phase := fun ctx =>
  if ctx.state = .continuous then
    if input.paused then .ok ctx
    else .ok { ctx with
      errors := match ctx.calibrationValid, input.solveError with
        | true, some error => push error.1 error.2 ctx.errors
        | _, _ => ctx.errors
      calibrationValid := input.solveValid }
  else .ok { ctx with calibrationValid := input.solveValid }

def finishTick : Phase := fun ctx =>
  if ctx.state = .continuous then .ok ctx
  else .ok { setState .none ctx with calibrationValid := false }

/-- `CalibrationTick`. -/
def calibrationTick (input : TickInput) : Context → Context :=
  runPhases [checkTick input, recover input, watchGeometry input, checkHmd input,
    leaveStandby input, skipIdle, checkDevices input, checkLiveness input, collectSample input,
    checkDiversity input, checkTrigger input, solve input, finishTick]

/-! ### The system -/

/-- The context after the profile is loaded, which happens once, before the first tick; the profile
may ask for continuous calibration to start by itself. -/
def loadProfile (autostart : Bool) : Context :=
  if autostart then setState .continuousStandby {} else {}

/-- Ticks, the operations on a calibration, and the editor, which the user interface opens from
`None` and closes from `Editing`. -/
inductive Event where
  | tick (input : TickInput)
  | startCalibration
  | startContinuousCalibration
  | endContinuousCalibration
  | enterEditing
  | leaveEditing
deriving DecidableEq

def step (ctx : Context) : Event → Option Context
  | .tick input => some (calibrationTick input ctx)
  | .startCalibration => some (startCalibration ctx)
  | .startContinuousCalibration => some (startContinuousCalibration { ctx with ended := false })
  | .endContinuousCalibration => some { endContinuousCalibration ctx with ended := true }
  | .enterEditing => if ctx.state = .none then some (setState .editing ctx) else none
  | .leaveEditing => if ctx.state = .editing then some (setState .none ctx) else none

end PairDriver.Calibration
