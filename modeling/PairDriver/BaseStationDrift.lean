/-
This file models the two users of the base-station cache: `TickBaseStationDrift`,
which fills it and corrects the calibration when all stations of a system have
moved alike, and the relocalization detector, which asks whether the stations are
where the cache says. The first runs at the end of a tick that finds the state
`None`, the second at the start of nearly every tick.

The cache is as old as the last tick that came to the drift correction. Both work
with the poses of the tick before as long as nothing about the base stations has
changed since then.
-/

import PairDriver.CalibrationTick
import PairDriver.PoseDriver

namespace PairDriver.BaseStations

open Calibration
open Provider (Name kMaxTrackedDeviceCount)

/-! ### Stations -/

/-- What OpenVR reports of a device; a property that cannot be read is none. -/
structure DeviceInfo where
  trackingReference : Bool
  serial : Option Name
  system : Option Name
deriving DecidableEq

section Stations

variable {P : Type}

/-- A device's entry of `devicePoses`. -/
structure DevicePose (P : Type) where
  pose : P
  poseIsValid : Bool := true
  deviceIsConnected : Bool := true
  runningOk : Bool := true
deriving DecidableEq

structure Observation (P : Type) where
  serial : Name
  system : Name
  pose : P
deriving DecidableEq

structure BaseStationCacheEntry (P : Type) where
  trackingSystem : Name
  pose : P
deriving DecidableEq

abbrev Cache (P : Type) := Name → Option (BaseStationCacheEntry P)

/-- The base stations that are tracked, in the order of their numbers. -/
def baseStations (devices : Nat → DeviceInfo) (poses : Nat → DevicePose P) :
    List (DeviceInfo × P) :=
  (List.range kMaxTrackedDeviceCount).filterMap fun id =>
    let device := poses id
    if (devices id).trackingReference && device.poseIsValid && device.deviceIsConnected &&
        device.runningOk then some (devices id, device.pose) else none

/-- The stations whose serial and system can be read. -/
def observe (devices : Nat → DeviceInfo) (poses : Nat → DevicePose P) : List (Observation P) :=
  (baseStations devices poses).filterMap fun (info, pose) =>
    match info.serial, info.system with
    | some serial, some system => some ⟨serial, system, pose⟩
    | _, _ => none

/-- The cache after a refresh: a later entry of a serial replaces an earlier one. -/
def cacheOf (current : List (Observation P)) : Cache P :=
  current.foldl (fun cache seen => Function.update cache seen.serial (some ⟨seen.system, seen.pose⟩))
    fun _ => none

/-! ### Movements -/

/-- The operations on rigid transforms. `translationDistance` is the distance of two positions,
`radians` the conversion from degrees. -/
structure RigidGeometry (P : Type) where
  compose : P → P → P
  inverse : P → P
  translationNorm : P → Rat
  rigidDeltaAngleRad : P → Rat
  translationDistance : P → P → Rat
  radians : Rat → Rat

variable (geo : RigidGeometry P)

def kBsDeltaSignificanceTransM : Rat := 1 / 1000
def kBsDeltaSignificanceRotDeg : Rat := 5 / 100
def kBsConsensusTransM : Rat := 5 / 1000
def kBsConsensusRotDeg : Rat := 1 / 2

/-- The movements of the stations of a system that are in the cache. -/
def deltas (cache : Cache P) (system : Name) (current : List (Observation P)) : List P :=
  current.filterMap fun seen =>
    if seen.system = system then
      match cache seen.serial with
      | some entry =>
        if entry.trackingSystem = system then some (geo.compose seen.pose (geo.inverse entry.pose))
        else none
      | none => none
    else none

def significant (delta : P) : Bool :=
  kBsDeltaSignificanceTransM < geo.translationNorm delta ||
    geo.radians kBsDeltaSignificanceRotDeg < geo.rigidDeltaAngleRad delta

/-- All stations have moved alike; one station alone must have moved far. -/
def consensus : List P → Bool
  | [] => true
  | [only] => !(geo.translationNorm only < 1 / 10 && geo.rigidDeltaAngleRad only < geo.radians 5)
  | first :: rest => rest.all fun delta =>
    let difference := geo.compose delta (geo.inverse first)
    !(kBsConsensusTransM < geo.translationNorm difference ||
      geo.radians kBsConsensusRotDeg < geo.rigidDeltaAngleRad difference)

/-- The movement a system is corrected by, if any. -/
def shiftOf (throttled : Bool) (moved : List P) : Option P :=
  if !throttled && moved.any (significant geo) && consensus geo moved then moved.head? else none

/-! ### State -/

/-- A correction: what is passed to `ApplyUniverseShiftToCalibrations`, with the stations as this
tick and as the tick before has seen them. -/
structure Shift (P : Type) where
  delta : P
  system : Name
  current : List (Observation P)
  previous : List (Observation P)

structure Comparison (P : Type) where
  serial : Name
  current : P
  cached : P

/-- A test of the detector, with the stations as the tick before has seen them. -/
structure StabilityTest (P : Type) where
  comparisons : List (Comparison P)
  previous : List (Observation P)

/-- The overlay. The last four fields are recorded for the specification only: what the last tick
has seen, whether nothing about the stations has changed since the cache was refreshed, and the
corrections and tests so far. -/
structure World (P : Type) where
  ctx : Context
  devicePoses : Nat → DevicePose P
  cache : Cache P := fun _ => none
  lastShiftAcceptedTime : Rat := -1000000000
  seen : List (Observation P) := []
  upToDate : Bool := true
  shifts : List (Shift P) := []
  tests : List (StabilityTest P) := []

/-- The overlay after its profile was loaded. -/
def World.initial (autostart : Bool) (poses : Nat → DevicePose P) : World P :=
  { ctx := loadProfile autostart, devicePoses := poses }

/-- What a tick reads. `jumped` stands for the conditions of the detector on the headset, the
body trackers and the time, `gatesOpen` for those of the recovery. The devices are read when the
detector runs and again after the new poses. -/
structure Input (P : Type) where
  tick : TickInput
  devicesAtDetector : Nat → DeviceInfo
  hmdUsable : Bool := true
  jumped : Bool := false
  gatesOpen : Bool := false
  newPoses : List (Nat × DevicePose P) := []
  devices : Nat → DeviceInfo
  driftCorrectionEnabled : Bool := true
  validProfile : Bool := true
  enabled : Bool := true
  referenceTrackingSystem : Name
  targetTrackingSystem : Name
  extraSystems : List Name := []

/-! ### The detector -/

def kRelocMinBaseStations : Nat := 2
def kRelocBaseStableM : Rat := 1 / 1000

def compareWith (cache : Cache P) (stations : List (DeviceInfo × P)) : List (Comparison P) :=
  stations.filterMap fun (info, pose) =>
    info.serial.bind fun serial => (cache serial).map fun entry => ⟨serial, pose, entry.pose⟩

/-- Whether the tick comes to the test of the base stations. -/
def World.makesTest (input : Input P) (world : World P) : Bool :=
  !(world.ctx.state == .begin || world.ctx.state == .rotation || world.ctx.state == .translation) &&
    input.hmdUsable && input.jumped &&
    kRelocMinBaseStations ≤ (baseStations input.devicesAtDetector world.devicePoses).length

def World.comparisons (input : Input P) (world : World P) : List (Comparison P) :=
  if world.makesTest input then
    compareWith world.cache (baseStations input.devicesAtDetector world.devicePoses)
  else []

/-- Whether the recovery of the tick is asked for. -/
def World.relocalized (input : Input P) (world : World P) : Bool :=
  input.gatesOpen && world.makesTest input && (world.comparisons input).all fun comparison =>
    geo.translationDistance comparison.current comparison.cached < kRelocBaseStableM

/-! ### The drift correction -/

def Input.throttled (input : Input P) (world : World P) : Bool :=
  input.tick.time - world.lastShiftAcceptedTime < 5

def Input.relevant (input : Input P) (system : Name) : Bool :=
  system = input.referenceTrackingSystem || system = input.targetTrackingSystem ||
    input.extraSystems.contains system

/-- The corrections of a tick that has read the given stations, one for a system at most. -/
def World.corrections (input : Input P) (current : List (Observation P)) (world : World P) :
    List (Shift P) :=
  ((current.map Observation.system).dedup.filter input.relevant).filterMap fun system =>
    (shiftOf geo (input.throttled world) (deltas geo world.cache system current)).map fun delta =>
      ⟨delta, system, current, world.seen⟩

def Input.corrects (input : Input P) : Bool :=
  input.driftCorrectionEnabled && input.validProfile && input.enabled

/-! ### The tick -/

/-- The context with which phases in a row go on. -/
def goesOn : List Phase → Context → Option Context
  | [], ctx => some ctx
  | phase :: rest, ctx =>
    match phase ctx with
    | .ok next => goesOn rest next
    | .error _ => none

def World.tickInput (input : Input P) (world : World P) : TickInput :=
  { input.tick with relocalized := world.relocalized geo input }

/-- Whether the tick is more than the first checks. -/
def World.passes (input : Input P) (world : World P) : Bool :=
  (goesOn [checkTick (world.tickInput geo input)] world.ctx).isSome

/-- Whether the tick comes to `TickBaseStationDrift`. -/
def World.reachesDrift (input : Input P) (world : World P) : Bool :=
  let tick := world.tickInput geo input
  (goesOn [checkTick tick, recover tick, watchGeometry tick, checkHmd tick, leaveStandby tick]
    world.ctx).any fun ctx => ctx.state == .none

def readNewPoses (updates : List (Nat × DevicePose P)) (poses : Nat → DevicePose P) :
    Nat → DevicePose P :=
  updates.foldl (fun poses update => Function.update poses update.1 update.2) poses

variable [DecidableEq P]

/-- The stations the tick sees after it has read the new poses. -/
def World.current (input : Input P) (world : World P) : List (Observation P) :=
  observe input.devices (readNewPoses input.newPoses world.devicePoses)

/-- Whether the tick refreshes the cache. -/
def World.refreshes (input : Input P) (world : World P) : Bool :=
  world.reachesDrift geo input && input.corrects

/-- The corrections of a tick. -/
def World.corrected (input : Input P) (world : World P) : List (Shift P) :=
  if world.refreshes geo input then world.corrections geo input (world.current input) else []

/-- `CalibrationTick`, as far as the base stations are concerned. -/
def World.tick (input : Input P) (world : World P) : World P :=
  if world.passes geo input then
    let current := world.current input
    let refreshes := world.refreshes geo input
    let corrected := world.corrected geo input
    { ctx := calibrationTick (world.tickInput geo input) world.ctx
      devicePoses := readNewPoses input.newPoses world.devicePoses
      cache := if refreshes then cacheOf current else world.cache
      lastShiftAcceptedTime :=
        if corrected.isEmpty then world.lastShiftAcceptedTime else input.tick.time
      seen := current
      upToDate := refreshes || world.upToDate && decide (current = world.seen)
      shifts := corrected ++ world.shifts
      tests := if world.makesTest input then ⟨world.comparisons input, world.seen⟩ :: world.tests
        else world.tests }
  else world

/-- Ticks, and the operations on a calibration and the editor. -/
inductive Event (P : Type) where
  | tick (input : Input P)
  | startCalibration
  | startContinuousCalibration
  | endContinuousCalibration
  | enterEditing
  | leaveEditing

def step (world : World P) : Event P → Option (World P)
  | .tick input => some (world.tick geo input)
  | .startCalibration => (Calibration.step world.ctx .startCalibration).map ({ world with ctx := · })
  | .startContinuousCalibration =>
    (Calibration.step world.ctx .startContinuousCalibration).map ({ world with ctx := · })
  | .endContinuousCalibration =>
    (Calibration.step world.ctx .endContinuousCalibration).map ({ world with ctx := · })
  | .enterEditing => (Calibration.step world.ctx .enterEditing).map ({ world with ctx := · })
  | .leaveEditing => (Calibration.step world.ctx .leaveEditing).map ({ world with ctx := · })

/-! ### Consecutive ticks -/

/-- Where a tick uses the cache, to correct by a movement or to test a station, nothing about the
base stations has changed since the cache was refreshed. -/
def Unchanged (world : World P) : Event P → Prop
  | .tick input => (world.corrected geo input).isEmpty = false ∨
      (world.comparisons input).isEmpty = false → world.upToDate = true
  | _ => True

instance (world : World P) (event : Event P) : Decidable (Unchanged geo world event) :=
  match event with
  | .tick _ => inferInstanceAs (Decidable (_ ∨ _ → _))
  | .startCalibration | .startContinuousCalibration | .endContinuousCalibration | .enterEditing
  | .leaveEditing => inferInstanceAs (Decidable True)

/-- The correction is the movement of a station from the tick before to this one. -/
def Shift.Consecutive (shift : Shift P) : Prop :=
  ∃ now ∈ shift.current, ∃ before ∈ shift.previous, before.serial = now.serial ∧
    before.system = now.system ∧ shift.delta = geo.compose now.pose (geo.inverse before.pose)

/-- Every station is compared with its pose in the tick before. -/
def StabilityTest.Consecutive (test : StabilityTest P) : Prop :=
  ∀ comparison ∈ test.comparisons, ∃ before ∈ test.previous,
    before.serial = comparison.serial ∧ before.pose = comparison.cached

/-- The cache holds what the last tick has seen while it is up to date, and all corrections and
tests were of consecutive ticks. -/
structure Sound (world : World P) : Prop where
  cache : world.upToDate = true → world.cache = cacheOf world.seen
  shifts : ∀ shift ∈ world.shifts, shift.Consecutive geo
  tests : ∀ test ∈ world.tests, test.Consecutive

omit [DecidableEq P] in
/-- An entry of a refreshed cache is a station that was seen. -/
theorem mem_of_cacheOf {current : List (Observation P)} {serial : Name}
    {entry : BaseStationCacheEntry P} (cached : cacheOf current serial = some entry) :
    ∃ seen ∈ current, seen.serial = serial ∧ seen.system = entry.trackingSystem ∧
      seen.pose = entry.pose := by
  induction current using List.reverseRecOn with
  | nil => cases cached
  | append_singleton rest last inductionHypothesis =>
    unfold cacheOf at cached
    rw [List.foldl_append, List.foldl_cons, List.foldl_nil] at cached
    by_cases same : serial = last.serial
    · subst same
      rw [Function.update_self] at cached
      obtain rfl := Option.some.inj cached
      exact ⟨last, List.mem_append_right _ List.mem_cons_self, rfl, rfl, rfl⟩
    · rw [Function.update_of_ne same] at cached
      obtain ⟨seen, member, found⟩ := inductionHypothesis cached
      exact ⟨seen, List.mem_append_left _ member, found⟩

omit [DecidableEq P] in
/-- A movement comes from a station that is seen now and in the cache. -/
theorem mem_of_deltas {cache : Cache P} {system : Name} {current : List (Observation P)} {delta : P}
    (member : delta ∈ deltas geo cache system current) :
    ∃ now ∈ current, ∃ entry, cache now.serial = some entry ∧ now.system = system ∧
      entry.trackingSystem = system ∧ delta = geo.compose now.pose (geo.inverse entry.pose) := by
  obtain ⟨now, seen, found⟩ := List.mem_filterMap.mp member
  split at found
  · rename_i ofSystem
    split at found
    · rename_i entry cached
      split at found
      · rename_i sameSystem
        exact ⟨now, seen, entry, cached, ofSystem, sameSystem, (Option.some.inj found).symm⟩
      · cases found
    · cases found
  · cases found

omit [DecidableEq P] in
theorem shiftOf_mem {throttled : Bool} {moved : List P} {delta : P}
    (shifted : shiftOf geo throttled moved = some delta) : delta ∈ moved := by
  unfold shiftOf at shifted
  split at shifted
  · exact List.mem_of_mem_head? shifted
  · cases shifted

omit [DecidableEq P] in
theorem corrections_consecutive {world : World P} {input : Input P}
    {current : List (Observation P)} (refreshed : world.cache = cacheOf world.seen)
    {shift : Shift P} (member : shift ∈ world.corrections geo input current) :
    shift.Consecutive geo := by
  obtain ⟨system, -, found⟩ := List.mem_filterMap.mp member
  obtain ⟨delta, shifted, rfl⟩ := Option.map_eq_some_iff.mp found
  obtain ⟨now, seen, entry, cached, ofSystem, sameSystem, moved⟩ :=
    mem_of_deltas geo (shiftOf_mem geo shifted)
  rw [refreshed] at cached
  obtain ⟨before, earlier, serial, system', pose⟩ := mem_of_cacheOf cached
  refine ⟨now, seen, before, earlier, serial, ?_, ?_⟩
  · rw [system', sameSystem, ofSystem]
  · rw [pose]
    exact moved

omit [DecidableEq P] in
theorem comparisons_consecutive {world : World P} (refreshed : world.cache = cacheOf world.seen)
    (input : Input P) :
    (⟨world.comparisons input, world.seen⟩ : StabilityTest P).Consecutive := by
  intro comparison member
  unfold World.comparisons compareWith at member
  split at member
  · obtain ⟨⟨info, pose⟩, -, found⟩ := List.mem_filterMap.mp member
    obtain ⟨serial, -, mapped⟩ := Option.bind_eq_some_iff.mp found
    obtain ⟨entry, cached, rfl⟩ := Option.map_eq_some_iff.mp mapped
    rw [refreshed] at cached
    obtain ⟨before, earlier, serial', -, pose'⟩ := mem_of_cacheOf cached
    exact ⟨before, earlier, serial', pose'⟩
  · cases member

theorem tick_sound {world : World P} {input : Input P} (sound : Sound geo world)
    (unchanged : Unchanged geo world (.tick input)) : Sound geo (world.tick geo input) := by
  unfold World.tick
  split
  · refine ⟨fun upToDate => ?_, fun shift member => ?_, fun test member => ?_⟩
    · dsimp only at upToDate ⊢
      split
      · rfl
      · rename_i refreshes
        simp only [refreshes, Bool.false_or, Bool.and_eq_true, decide_eq_true_eq] at upToDate
        rw [upToDate.2]
        exact sound.cache upToDate.1
    · rcases List.mem_append.mp member with new | old
      · have corrects : (world.corrected geo input).isEmpty = false :=
          List.isEmpty_eq_false_iff_exists_mem.mpr ⟨shift, new⟩
        have refreshed := sound.cache (unchanged (Or.inl corrects))
        unfold World.corrected at new
        split at new
        · exact corrections_consecutive geo refreshed new
        · cases new
      · exact sound.shifts shift old
    · dsimp only at member
      split at member
      · rcases List.mem_cons.mp member with rfl | old
        · cases empty : (world.comparisons input).isEmpty with
          | true =>
            intro comparison compared
            rw [List.isEmpty_iff.mp empty] at compared
            cases compared
          | false => exact comparisons_consecutive (sound.cache (unchanged (Or.inr empty))) input
        · exact sound.tests test old
      · exact sound.tests test member
  · exact sound

/-- One step keeps all corrections and tests of consecutive ticks. -/
theorem step_sound {world after : World P} {event : Event P} (sound : Sound geo world)
    (unchanged : Unchanged geo world event) (stepped : step geo world event = some after) :
    Sound geo after := by
  have other : ∀ ctx : Option Context, ctx.map ({ world with ctx := · }) = some after →
      Sound geo after := by
    intro ctx mapped
    obtain ⟨next, -, rfl⟩ := Option.map_eq_some_iff.mp mapped
    exact ⟨sound.cache, sound.shifts, sound.tests⟩
  cases event with
  | tick input =>
    obtain rfl := Option.some.inj stepped
    exact tick_sound geo sound unchanged
  | startCalibration => exact other (Calibration.step world.ctx .startCalibration) stepped
  | startContinuousCalibration =>
    exact other (Calibration.step world.ctx .startContinuousCalibration) stepped
  | endContinuousCalibration =>
    exact other (Calibration.step world.ctx .endContinuousCalibration) stepped
  | enterEditing => exact other (Calibration.step world.ctx .enterEditing) stepped
  | leaveEditing => exact other (Calibration.step world.ctx .leaveEditing) stepped

/-- Along every run in which nothing about the base stations changes between the refresh of the
cache and its use in a later tick, every correction is the movement of a station between two
consecutive ticks, and every test compares with the poses of the tick before. -/
theorem corrections_of_consecutive_ticks (autostart : Bool) (poses : Nat → DevicePose P)
    {world : World P}
    (reached : Reaches (step geo) (Unchanged geo) (.initial autostart poses) world) :
    (∀ shift ∈ world.shifts, shift.Consecutive geo) ∧
      ∀ test ∈ world.tests, test.Consecutive := by
  have sound : Sound geo world := reached.invariant ⟨fun _ => rfl, nofun, nofun⟩
    fun _ _ _ before unchanged stepped => step_sound geo before unchanged stepped
  exact ⟨sound.shifts, sound.tests⟩

end Stations

/-! ### Runs -/

/-- Rigid movements along one axis. -/
def axisMovements : RigidGeometry Rat where
  compose := (· + ·)
  inverse := (- ·)
  translationNorm movement := max movement (-movement)
  rigidDeltaAngleRad _ := 0
  translationDistance first second := max (first - second) (second - first)
  radians degrees := degrees / 57

/-- A headset and two base stations. -/
def lighthouses : Nat → DeviceInfo
  | 1 => ⟨true, some (ascii "LHB-1"), some (ascii "lighthouse")⟩
  | 2 => ⟨true, some (ascii "LHB-2"), some (ascii "lighthouse")⟩
  | _ => ⟨false, none, none⟩

/-- A tick that reads the base stations moved by the given distance. -/
def stationTick (time shift : Rat) (jumped : Bool) : Event Rat := .tick
  { tick := { time := time }
    devicesAtDetector := lighthouses
    jumped := jumped
    newPoses := [(1, { pose := 1 + shift }), (2, { pose := 5 + shift })]
    devices := lighthouses
    referenceTrackingSystem := ascii "oculus"
    targetTrackingSystem := ascii "lighthouse" }

/-- No pose has been read yet. -/
def started : World Rat :=
  .initial false fun _ => { pose := 0, poseIsValid := false }

theorem corrections_of_consecutive_ticks_none : ∃ world,
    Reaches (step axisMovements) (Unchanged axisMovements) started world ∧
    world.shifts.map Shift.delta = [1] ∧ (world.tests.map fun test => test.comparisons.length) = [2] ∧
    (∀ shift ∈ world.shifts, shift.Consecutive axisMovements) ∧
    ∀ test ∈ world.tests, test.Consecutive := by
  obtain ⟨world, reached, deltas, tests⟩ : ∃ world,
      Reaches (step axisMovements) (Unchanged axisMovements) started world ∧
      world.shifts.map Shift.delta = [1] ∧
      (world.tests.map fun test => test.comparisons.length) = [2] :=
    reaches_evaluates [stationTick 1 0 false, stationTick 2 0 true, stationTick 3 1 false]
      (by decide +kernel)
  exact ⟨world, reached, deltas, tests, corrections_of_consecutive_ticks axisMovements false _ reached⟩

/-- The universe shifts by a metre while continuous calibration runs. The detector meanwhile compares
with poses from before, and the first tick after the mode has ended corrects by the metre once more,
although the stations have not moved since the tick before. -/
theorem absorbed_shift_applied_again : ∃ world,
    run (step axisMovements) started [stationTick 1 0 false, .startContinuousCalibration,
      stationTick 2 1 false, stationTick 3 1 true, .endContinuousCalibration,
      stationTick 4 1 false] = some world ∧
    (world.shifts.map fun shift => (shift.delta, shift.current == shift.previous)) = [(1, true)] ∧
    (world.tests.map fun test => test.comparisons.map fun comparison =>
      (comparison.current, comparison.cached)) = [[(2, 1), (6, 5)]] ∧
    (world.tests.map fun test => test.previous.map Observation.pose) = [[2, 6]] := by
  exact run_evaluates (by decide +kernel)

end PairDriver.BaseStations
