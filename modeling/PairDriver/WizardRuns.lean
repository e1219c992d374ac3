/-
This file proves what holds over every sequence of wizard runs, restarts and
ticks: that the closing page is right about the primary calibration, that the
additional calibrations are of distinct systems, and that each of them takes part
in the continuous tick.

The runs leave out three things the program does not handle: a first system that is
skipped without a primary calibration running, a system that is started twice, and
a restart with an additional calibration.
-/

import PairDriver.CalibrationTransitions
import PairDriver.SetupWizard

namespace PairDriver.SetupWizard

open PairDriver.Calibration (CalibrationState TickInput calibrationTick)
open PairDriver.ProfileCodec (Platform StandbyDevice AdditionalCalibration)
open PairDriver.Configuration (Json)

/-! ### Continuous mode over a tick -/

section Mode

open PairDriver.Calibration

/-- A phase stays in continuous mode, whether it goes on or returns. -/
def StaysContinuous (phase : Phase) : Prop :=
  ∀ ctx, ctx.state.isContinuous = true → (outcome (phase ctx)).state.isContinuous = true

/-- A phase keeps a calibration running. -/
def KeepsRunning (phase : Phase) : Prop :=
  ∀ ctx, ctx.state = .continuous → (outcome (phase ctx)).state = .continuous

theorem staysContinuous_checkTick (input : TickInput) : StaysContinuous (checkTick input) := by
  intro ctx mode
  unfold checkTick
  split
  · exact mode
  · exact mode

theorem staysContinuous_recover (input : TickInput) : StaysContinuous (recover input) := by
  intro ctx mode
  unfold recover
  split
  · rfl
  · exact mode

theorem staysContinuous_watchGeometry (input : TickInput) :
    StaysContinuous (watchGeometry input) := by
  intro ctx mode
  unfold watchGeometry
  dsimp only
  split
  · rfl
  · exact mode

theorem staysContinuous_checkHmd (input : TickInput) : StaysContinuous (checkHmd input) := by
  intro ctx mode
  unfold checkHmd
  split
  · exact mode
  · exact mode

theorem keepsRunning_skipIdle : KeepsRunning skipIdle := by
  intro ctx running
  unfold skipIdle
  split
  · exact running
  · exact running

theorem abort_of_running {ctx : Context} (running : ctx.state = .continuous) : abort ctx = ctx := by
  rw [abort, if_pos running]

theorem keepsRunning_checkDevices (input : TickInput) : KeepsRunning (checkDevices input) := by
  intro ctx running
  unfold checkDevices
  rw [if_neg (by rw [running]; decide), abort_of_running running]
  split
  · exact running
  · exact running

theorem keepsRunning_checkLiveness (input : TickInput) : KeepsRunning (checkLiveness input) := by
  intro ctx running
  unfold checkLiveness
  rw [if_pos running]
  dsimp only
  split
  · exact running
  · split
    · rfl
    · exact running

theorem keepsRunning_collectSample (input : TickInput) : KeepsRunning (collectSample input) := by
  intro ctx running
  unfold collectSample
  rw [abort_of_running running]
  split
  · split
    · exact running
    · exact running
  · exact running

theorem keepsRunning_checkDiversity (input : TickInput) : KeepsRunning (checkDiversity input) := by
  intro ctx running
  unfold checkDiversity
  rw [if_neg (by rw [running]; decide)]
  split
  · exact running
  · exact running

theorem keepsRunning_checkTrigger (input : TickInput) : KeepsRunning (checkTrigger input) := by
  intro ctx running
  unfold checkTrigger
  split
  · exact running
  · exact running

theorem keepsRunning_solve (input : TickInput) : KeepsRunning (solve input) := by
  intro ctx running
  unfold solve
  rw [if_pos running]
  split
  · exact running
  · exact running

theorem keepsRunning_finishTick : KeepsRunning finishTick := by
  intro ctx running
  unfold finishTick
  rw [if_pos running]
  exact running

/-- The phases after the standby. -/
def runningPhases (input : TickInput) : List Phase :=
  [skipIdle, checkDevices input, checkLiveness input, collectSample input, checkDiversity input,
    checkTrigger input, solve input, finishTick]

theorem runningPhases_state (input : TickInput) {ctx : Context}
    (running : ctx.state = .continuous) :
    (runPhases (runningPhases input) ctx).state = .continuous := by
  refine @runPhases_invariant (fun ctx => ctx.state = .continuous) _ ?_ _ running
  simp only [runningPhases, List.forall_mem_cons]
  exact ⟨keepsRunning_skipIdle, keepsRunning_checkDevices input, keepsRunning_checkLiveness input,
    keepsRunning_collectSample input, keepsRunning_checkDiversity input,
    keepsRunning_checkTrigger input, keepsRunning_solve input, keepsRunning_finishTick,
    fun _ member => absurd member List.not_mem_nil⟩

/-- From the standby on: without its devices the calibration waits, else it runs to the end of the
tick. -/
theorem afterStandby_isContinuous (input : TickInput) {ctx : Context}
    (mode : ctx.state.isContinuous = true) :
    (runPhases (leaveStandby input :: runningPhases input) ctx).state.isContinuous = true := by
  have runs : ∀ {next : Context}, next.state = .continuous →
      (runPhases (runningPhases input) next).state.isContinuous = true := by
    intro next running
    rw [runningPhases_state input running]
    rfl
  rw [runPhases, leaveStandby]
  by_cases standby : ctx.state = .continuousStandby
  · rw [if_pos standby]
    by_cases found : input.devicesFound = true
    · rw [if_pos found]
      exact runs rfl
    · rw [if_neg found]
      exact mode
  · rw [if_neg standby]
    refine runs ?_
    cases state : ctx.state with
    | continuous => rfl
    | continuousStandby => exact absurd state standby
    | none | begin | rotation | translation | editing =>
      rw [state] at mode
      cases mode

theorem runPhases_cons_isContinuous {phase : Phase} {rest : List Phase}
    (stays : StaysContinuous phase)
    (later : ∀ {ctx}, ctx.state.isContinuous = true →
      (runPhases rest ctx).state.isContinuous = true)
    {ctx : Context} (mode : ctx.state.isContinuous = true) :
    (runPhases (phase :: rest) ctx).state.isContinuous = true := by
  have kept := stays ctx mode
  rw [runPhases]
  cases result : phase ctx with
  | ok next =>
    rw [result] at kept
    exact later kept
  | error final =>
    rw [result] at kept
    exact kept

/-- A tick that starts in continuous mode ends in it. -/
theorem calibrationTick_isContinuous (input : TickInput) {ctx : Context}
    (mode : ctx.state.isContinuous = true) :
    (calibrationTick input ctx).state.isContinuous = true := by
  unfold calibrationTick
  refine runPhases_cons_isContinuous (staysContinuous_checkTick input) ?_ mode
  refine runPhases_cons_isContinuous (staysContinuous_recover input) ?_
  refine runPhases_cons_isContinuous (staysContinuous_watchGeometry input) ?_
  refine runPhases_cons_isContinuous (staysContinuous_checkHmd input) ?_
  exact afterStandby_isContinuous input

end Mode

section Runs

variable {Number Single Rotation : Type}

/-! ### What the program promises -/

/-- The primary calibration has a target, the one it was started with, and runs or waits for its
devices. -/
def World.PrimaryRuns (world : World Number Single Rotation) : Prop :=
  world.chosen = some world.profile.targetStandby ∧
    world.profile.targetTrackingSystem = world.profile.targetStandby.trackingSystem ∧
    world.calibration.state.isContinuous = true

instance (world : World Number Single Rotation) : Decidable world.PrimaryRuns :=
  inferInstanceAs (Decidable (_ ∧ _ ∧ _))

/-- The closing page of the wizard is right about the primary calibration. -/
def World.ClosesRightly (world : World Number Single Rotation) : Prop :=
  world.wizard.step = .allDone → world.anyStarted = true → world.PrimaryRuns

/-- The calibrations are of distinct systems. -/
def World.DistinctSystems (world : World Number Single Rotation) : Prop :=
  world.extraSystems.Nodup ∧ world.profile.targetTrackingSystem ∉ world.extraSystems

/-- Every enabled additional calibration whose device is there takes part in the continuous
tick. -/
def World.ExtrasTakePart (world : World Number Single Rotation) : Prop :=
  world.calibration.state = .continuous → ∀ extra ∈ world.extras, extra.saved.enabled = true →
    findDevice world.devices extra.saved.targetStandby ≠ -1 → extra.takesPart = true

/-! ### Runs that keep to what is handled -/

/-- A system is started once, the first one is not skipped unless a primary calibration runs, and
the program does not restart with an additional calibration. -/
def Handled (world : World Number Single Rotation) : Event Number Rotation → Prop
  | .startSystem => ∀ device ∈ world.wizard.selectedDevice,
      device.trackingSystem ∉ world.extraSystems ∧
        (world.wizard.firstSystem = false →
          device.trackingSystem ≠ world.profile.targetTrackingSystem)
  | .skipSystem => world.wizard.firstSystem = true → world.PrimaryRuns
  | .restart => world.profile.validProfile = true →
      ∀ extra ∈ world.extras, extra.saved.enabled = false
  | _ => True

instance (world : World Number Single Rotation) (event : Event Number Rotation) :
    Decidable (Handled world event) :=
  match event with
  | .startSystem => inferInstanceAs (Decidable (∀ device ∈ world.wizard.selectedDevice, _ ∧ (_ → _)))
  | .skipSystem => inferInstanceAs (Decidable (_ → World.PrimaryRuns _))
  | .restart => inferInstanceAs (Decidable (_ → ∀ extra ∈ world.extras, _))
  | .connect _ | .openWizard | .continueWelcome _ | .skipWizard | .closeNotNeeded | .refresh
  | .select _ | .systemDone | .cancel | .draw | .calibrateNext | .finish | .close | .dismiss
  | .tick _ => isTrue trivial

/-! ### The invariant -/

/-- A system that is not the first, and any that was started, has a primary calibration running
before it; the systems are distinct, and the ids of enabled entries are set. -/
structure Kept (world : World Number Single Rotation) : Prop where
  later : world.wizard.firstSystem = false → world.PrimaryRuns
  begun : world.anyStarted = true → world.PrimaryRuns
  calibrating : world.wizard.step = .calibrating → world.anyStarted = true
  distinct : world.DistinctSystems
  resolved : ∀ extra ∈ world.extras, extra.saved.enabled = true → extra.takesPart = true

/-- The calibrations of two worlds are the same, up to what a tick changes of them. -/
structure SameCalibrations (world after : World Number Single Rotation) : Prop where
  chosen : after.chosen = world.chosen
  targetStandby : after.profile.targetStandby = world.profile.targetStandby
  targetSystem : after.profile.targetTrackingSystem = world.profile.targetTrackingSystem
  mode : world.calibration.state.isContinuous = true →
    after.calibration.state.isContinuous = true
  systems : after.extraSystems = world.extraSystems
  resolved : (∀ extra ∈ world.extras, extra.saved.enabled = true → extra.takesPart = true) →
    ∀ extra ∈ after.extras, extra.saved.enabled = true → extra.takesPart = true

theorem World.PrimaryRuns.congr {world after : World Number Single Rotation}
    (runs : world.PrimaryRuns) (same : SameCalibrations world after) : after.PrimaryRuns := by
  obtain ⟨chosen, system, mode⟩ := runs
  refine ⟨?_, ?_, same.mode mode⟩
  · rw [same.chosen, same.targetStandby, chosen]
  · rw [same.targetSystem, same.targetStandby, system]

/-- Steps that leave the calibrations alone, flip no flag of the wizard and start nothing. -/
theorem Kept.congr {world after : World Number Single Rotation} (kept : Kept world)
    (same : SameCalibrations world after)
    (first : after.wizard.firstSystem = false → world.PrimaryRuns)
    (started : after.anyStarted = true → world.anyStarted = true)
    (calibrating : after.wizard.step = .calibrating → after.anyStarted = true) : Kept after where
  later notFirst := (first notFirst).congr same
  begun any := (kept.begun (started any)).congr same
  calibrating := calibrating
  distinct := by
    unfold World.DistinctSystems
    rw [same.systems, same.targetSystem]
    exact kept.distinct
  resolved := same.resolved kept.resolved

/-! ### Steps -/

/-- What the buttons change of the world outside the wizard is only that it was completed. -/
structure OnlyWizard (world after : World Number Single Rotation) : Prop where
  chosen : after.chosen = world.chosen
  profile : after.profile = world.profile ∨
    after.profile = { world.profile with wizardCompleted := true }
  calibration : after.calibration = world.calibration
  extras : after.extras = world.extras

theorem OnlyWizard.sameCalibrations {world after : World Number Single Rotation}
    (only : OnlyWizard world after) : SameCalibrations world after := by
  have target : after.profile.targetStandby = world.profile.targetStandby ∧
      after.profile.targetTrackingSystem = world.profile.targetTrackingSystem := by
    rcases only.profile with same | completed
    · rw [same]
      exact ⟨rfl, rfl⟩
    · rw [completed]
      exact ⟨rfl, rfl⟩
  refine ⟨only.chosen, target.1, target.2, ?_, ?_, ?_⟩
  · rw [only.calibration]
    exact id
  · unfold World.extraSystems
    rw [only.extras]
  · rw [only.extras]
    exact id

theorem onPage_some {shown : Bool} {next after : World Number Single Rotation}
    (pressed : onPage shown next = some after) : shown = true ∧ next = after := by
  unfold onPage at pressed
  split at pressed
  · rename_i isShown
    exact ⟨isShown, Option.some.inj pressed⟩
  · cases pressed

/-- The buttons that leave the flags of the wizard as they are. -/
theorem Kept.onlyWizard {world after : World Number Single Rotation} (kept : Kept world)
    (only : OnlyWizard world after) (first : after.wizard.firstSystem = world.wizard.firstSystem)
    (any : after.anyStarted = world.anyStarted)
    (page : after.wizard.step ≠ .calibrating ∨ after.wizard.step = world.wizard.step) :
    Kept after := by
  refine kept.congr only.sameCalibrations ?_ ?_ ?_
  · rw [first]
    exact kept.later
  · rw [any]
    exact id
  · intro calibrating
    rcases page with other | same
    · exact absurd calibrating other
    · rw [any]
      exact kept.calibrating (same ▸ calibrating)

theorem Kept.leave {world : World Number Single Rotation} (kept : Kept world) : Kept world.leave :=
  kept.onlyWizard ⟨rfl, Or.inr rfl, rfl, rfl⟩ rfl rfl (Or.inl fun step => nomatch step)

theorem Kept.enterAllDone {world : World Number Single Rotation} (kept : Kept world) :
    Kept world.enterAllDone :=
  kept.onlyWizard ⟨rfl, Or.inr rfl, rfl, rfl⟩ rfl rfl (Or.inl fun step => nomatch step)

theorem Kept.enterPickTarget {world : World Number Single Rotation} (kept : Kept world) :
    Kept world.enterPickTarget :=
  kept.onlyWizard ⟨rfl, Or.inl rfl, rfl, rfl⟩ rfl rfl (Or.inl fun step => nomatch step)

theorem Kept.enterNextSystem {world : World Number Single Rotation} (kept : Kept world) :
    Kept world.enterNextSystem := by
  unfold World.enterNextSystem
  split
  · exact kept.enterAllDone
  · exact kept.enterPickTarget

theorem Kept.continueWelcome {world : World Number Single Rotation} (kept : Kept world)
    (hmdSystem : String) : Kept (world.continueWelcome hmdSystem) := by
  unfold World.continueWelcome
  dsimp only
  split
  · exact kept.congr (OnlyWizard.sameCalibrations ⟨rfl, Or.inl rfl, rfl, rfl⟩)
      (fun notFirst => nomatch notFirst) id (fun calibrating => nomatch calibrating)
  · exact kept.congr (OnlyWizard.sameCalibrations ⟨rfl, Or.inl rfl, rfl, rfl⟩)
      (fun notFirst => nomatch notFirst) id (fun calibrating => nomatch calibrating)

/-- A system is taken off the list while a primary calibration runs. -/
theorem Kept.dropSystem {world : World Number Single Rotation} (kept : Kept world)
    (runs : world.PrimaryRuns) : Kept world.dropSystem :=
  kept.congr (OnlyWizard.sameCalibrations ⟨rfl, Or.inl rfl, rfl, rfl⟩) (fun _ => runs) id
    kept.calibrating

theorem Kept.startPrimary {world : World Number Single Rotation} (kept : Kept world)
    {device : VRDevice} (fresh : device.trackingSystem ∉ world.extraSystems) (hmd : VRDevice)
    (wizard : State) :
    Kept { world.startPrimary hmd device with wizard := wizard, anyStarted := true } :=
  have runs : World.PrimaryRuns
      { world.startPrimary hmd device with wizard := wizard, anyStarted := true } :=
    ⟨rfl, rfl, rfl⟩
  { later := fun _ => runs
    begun := fun _ => runs
    calibrating := fun _ => rfl
    distinct := ⟨kept.distinct.1, fresh⟩
    resolved := kept.resolved }

theorem Kept.startExtra {world : World Number Single Rotation}
    (platform : Platform Number Single Rotation) (kept : Kept world) {device : VRDevice}
    (fresh : device.trackingSystem ∉ world.extraSystems)
    (other : device.trackingSystem ≠ world.profile.targetTrackingSystem)
    (runs : world.PrimaryRuns) (hmd : VRDevice) (wizard : State) :
    Kept { world.startExtra platform hmd device with wizard := wizard, anyStarted := true } := by
  have systems : World.extraSystems
      { world.startExtra platform hmd device with wizard := wizard, anyStarted := true } =
        world.extraSystems ++ [device.trackingSystem] := by
    unfold World.extraSystems World.startExtra
    rw [List.map_append]
    rfl
  refine ⟨fun _ => runs, fun _ => runs, fun _ => rfl, ⟨?_, ?_⟩, ?_⟩
  · rw [systems]
    refine List.nodup_append.mpr ⟨kept.distinct.1, List.nodup_singleton _, ?_⟩
    rintro system listed added fromDevice rfl
    rw [List.mem_singleton.mp fromDevice] at listed
    exact fresh listed
  · rw [systems, List.mem_append, List.mem_singleton]
    rintro (listed | same)
    · exact kept.distinct.2 listed
    · exact other same.symm
  · intro extra member enabled
    rcases List.mem_append.mp member with listed | added
    · exact kept.resolved extra listed enabled
    · rw [List.mem_singleton.mp added]
      have hmdId := hmd.id.isLt
      have deviceId := device.id.isLt
      simp only [LiveExtra.takesPart, Bool.true_and, Bool.and_eq_true, decide_eq_true_eq]
      omega

theorem Kept.startSystem {world after : World Number Single Rotation}
    (platform : Platform Number Single Rotation) (kept : Kept world)
    (handled : Handled world .startSystem) (started : world.startSystem platform = some after) :
    Kept after := by
  obtain ⟨device, selected, rfl⟩ := Option.map_eq_some_iff.mp started
  obtain ⟨fresh, other⟩ := handled device selected
  dsimp only
  split
  · exact kept
  · rename_i hmd _
    cases first : world.wizard.firstSystem with
    | true => exact kept.startPrimary fresh hmd _
    | false => exact kept.startExtra platform fresh (other first) (kept.later first) hmd _

/-- A tick changes the result of an additional calibration, and neither its system nor its ids. -/
theorem advance_frame (input : Input Number Rotation) (extra : LiveExtra Number) :
    (extra.advance input).saved.targetTrackingSystem = extra.saved.targetTrackingSystem ∧
      (extra.advance input).saved.enabled = extra.saved.enabled ∧
      (extra.advance input).takesPart = extra.takesPart := by
  unfold LiveExtra.advance
  split
  · split
    · exact ⟨rfl, rfl, rfl⟩
    · exact ⟨rfl, rfl, rfl⟩
  · exact ⟨rfl, rfl, rfl⟩

theorem tick_sameCalibrations (input : Input Number Rotation)
    (world : World Number Single Rotation) : SameCalibrations world (world.tick input) := by
  have systems : (world.extras.map (LiveExtra.advance input)).map
      (fun extra => extra.saved.targetTrackingSystem) = world.extraSystems := by
    rw [List.map_map]
    exact List.map_congr_left fun extra _ => (advance_frame input extra).1
  have resolved : (∀ extra ∈ world.extras, extra.saved.enabled = true → extra.takesPart = true) →
      ∀ extra ∈ world.extras.map (LiveExtra.advance input), extra.saved.enabled = true →
        extra.takesPart = true := by
    intro before extra member enabled
    obtain ⟨source, listed, rfl⟩ := List.mem_map.mp member
    obtain ⟨-, enabledSame, takesPartSame⟩ := advance_frame input source
    rw [takesPartSame]
    exact before source listed (enabledSame ▸ enabled)
  have mode := @calibrationTick_isContinuous input.tick world.calibration
  unfold World.tick
  dsimp only
  split
  · split
    · split
      · exact ⟨rfl, rfl, rfl, mode, systems, resolved⟩
      · exact ⟨rfl, rfl, rfl, mode, systems, resolved⟩
    · exact ⟨rfl, rfl, rfl, mode, systems, resolved⟩
  · exact ⟨rfl, rfl, rfl, mode, rfl, id⟩

/-- The wizard's own flags are not touched by a tick. -/
theorem tick_wizard (input : Input Number Rotation) (world : World Number Single Rotation) :
    (world.tick input).wizard = world.wizard ∧
      (world.tick input).anyStarted = world.anyStarted := by
  unfold World.tick
  dsimp only
  split
  · split
    · split
      · exact ⟨rfl, rfl⟩
      · exact ⟨rfl, rfl⟩
    · exact ⟨rfl, rfl⟩
  · exact ⟨rfl, rfl⟩

theorem Kept.tick {world : World Number Single Rotation} (kept : Kept world)
    (input : Input Number Rotation) : Kept (world.tick input) := by
  obtain ⟨wizard, any⟩ := tick_wizard input world
  refine kept.congr (tick_sameCalibrations input world) ?_ ?_ ?_
  · rw [wizard]
    exact kept.later
  · rw [any]
    exact id
  · rw [wizard, any]
    exact kept.calibrating

/-! ### Restarts and runs -/

section Restart

variable (platform : Platform Number Single Rotation) [DecidableEq Number] [DecidableEq Single]
  {Text : Type} {serialize : Json Number → Text} {parse : Text → Except String (Json Number)}

theorem loaded_of_valid (inverts : ∀ json, parse (serialize json) = .ok json)
    {world : World Number Single Rotation} (valid : world.profile.validProfile = true) :
    world.loaded platform serialize parse = ProfileCodec.reloaded platform world.saved := by
  unfold World.loaded
  rw [ProfileCodec.reload_eq platform inverts (show world.saved.validProfile = true from valid)]
  rfl

theorem loaded_of_invalid {world : World Number Single Rotation}
    (invalid : world.profile.validProfile = false) :
    world.loaded platform serialize parse =
      ProfileCodec.clear platform (ProfileCodec.freshContext platform) := by
  have nothing : ProfileCodec.reload platform serialize parse world.saved = none := by
    unfold ProfileCodec.reload ProfileCodec.writeProfile
    rw [if_neg (by rw [show world.saved.validProfile = false from invalid]; exact Bool.false_ne_true)]
    rfl
  unfold World.loaded
  rw [nothing]

/-- The systems of the additional calibrations after a restart with a valid profile. -/
theorem restart_extraSystems (inverts : ∀ json, parse (serialize json) = .ok json)
    {world : World Number Single Rotation} (valid : world.profile.validProfile = true) :
    (world.restart platform serialize parse).extraSystems = world.extraSystems := by
  unfold World.extraSystems World.restart
  dsimp only
  rw [loaded_of_valid platform inverts valid]
  unfold ProfileCodec.reloaded World.saved
  simp only [List.map_map]
  rfl

theorem restart_enabled (inverts : ∀ json, parse (serialize json) = .ok json)
    {world : World Number Single Rotation} (valid : world.profile.validProfile = true)
    {extra : LiveExtra Number} (member : extra ∈ (world.restart platform serialize parse).extras) :
    ∃ source ∈ world.extras, extra.saved.enabled = source.saved.enabled := by
  unfold World.restart at member
  dsimp only at member
  rw [loaded_of_valid platform inverts valid] at member
  unfold ProfileCodec.reloaded World.saved at member
  simp only [List.map_map] at member
  obtain ⟨source, listed, rfl⟩ := List.mem_map.mp member
  exact ⟨source, listed, rfl⟩

/-- A restart closes the wizard, and without an enabled additional calibration loses nothing. -/
theorem Kept.restart (inverts : ∀ json, parse (serialize json) = .ok json)
    {world : World Number Single Rotation} (kept : Kept world) (handled : Handled world .restart) :
    Kept (world.restart platform serialize parse) := by
  refine ⟨(fun notFirst => nomatch notFirst), (fun any => nomatch any),
    (fun calibrating => nomatch calibrating), ?_, ?_⟩
  · cases valid : world.profile.validProfile with
    | true =>
      have target : (world.restart platform serialize parse).profile.targetTrackingSystem =
          world.profile.targetTrackingSystem := by
        show (world.loaded platform serialize parse).targetTrackingSystem = _
        rw [loaded_of_valid platform inverts valid]
        rfl
      unfold World.DistinctSystems
      rw [restart_extraSystems platform inverts valid, target]
      exact kept.distinct
    | false =>
      unfold World.DistinctSystems World.extraSystems World.restart
      dsimp only
      rw [loaded_of_invalid platform valid]
      exact ⟨List.nodup_nil, List.not_mem_nil⟩
  · intro extra member enabled
    cases valid : world.profile.validProfile with
    | true =>
      obtain ⟨source, listed, same⟩ := restart_enabled platform inverts valid member
      rw [same, handled valid source listed] at enabled
      cases enabled
    | false =>
      unfold World.restart at member
      dsimp only at member
      rw [loaded_of_invalid platform valid] at member
      cases member

/-- Every handled step keeps the invariant. -/
theorem Kept.step (inverts : ∀ json, parse (serialize json) = .ok json)
    {world after : World Number Single Rotation} {event : Event Number Rotation}
    (kept : Kept world) (handled : Handled world event)
    (stepped : SetupWizard.step platform serialize parse world event = some after) :
    Kept after := by
  cases event with
  | connect devices =>
    obtain rfl := Option.some.inj stepped
    exact kept.onlyWizard ⟨rfl, Or.inl rfl, rfl, rfl⟩ rfl rfl (Or.inr rfl)
  | openWizard =>
    obtain rfl := Option.some.inj stepped
    exact kept.congr (OnlyWizard.sameCalibrations ⟨rfl, Or.inl rfl, rfl, rfl⟩)
      (fun notFirst => nomatch notFirst) (fun any => nomatch any)
      (fun calibrating => nomatch calibrating)
  | continueWelcome hmdSystem =>
    obtain ⟨-, rfl⟩ := onPage_some stepped
    exact kept.continueWelcome hmdSystem
  | skipWizard | closeNotNeeded | cancel | dismiss =>
    obtain ⟨-, rfl⟩ := onPage_some stepped
    exact kept.leave
  | refresh | select _ =>
    obtain ⟨-, rfl⟩ := onPage_some stepped
    exact kept.onlyWizard ⟨rfl, Or.inl rfl, rfl, rfl⟩ rfl rfl (Or.inr rfl)
  | startSystem =>
    unfold SetupWizard.step at stepped
    dsimp only at stepped
    split at stepped
    · exact kept.startSystem platform handled stepped
    · cases stepped
  | skipSystem =>
    obtain ⟨-, rfl⟩ := onPage_some stepped
    refine (kept.dropSystem ?_).enterNextSystem
    cases first : world.wizard.firstSystem with
    | true => exact handled first
    | false => exact kept.later first
  | systemDone =>
    obtain ⟨calibrating, rfl⟩ := onPage_some stepped
    have runs := kept.begun (kept.calibrating (of_decide_eq_true calibrating))
    exact (kept.dropSystem runs).onlyWizard ⟨rfl, Or.inl rfl, rfl, rfl⟩ rfl rfl
      (Or.inl fun page => nomatch page)
  | draw | finish =>
    obtain ⟨-, rfl⟩ := onPage_some stepped
    exact kept.enterAllDone
  | calibrateNext =>
    obtain ⟨-, rfl⟩ := onPage_some stepped
    exact kept.enterNextSystem
  | close =>
    obtain ⟨-, rfl⟩ := onPage_some stepped
    exact kept.onlyWizard ⟨rfl, Or.inl rfl, rfl, rfl⟩ rfl rfl (Or.inl fun page => nomatch page)
  | tick input =>
    obtain rfl := Option.some.inj stepped
    exact kept.tick input
  | restart =>
    obtain rfl := Option.some.inj stepped
    exact kept.restart platform inverts handled

omit [DecidableEq Number] [DecidableEq Single] in
theorem kept_launch (devices : List VRDevice) :
    Kept (launch platform devices : World Number Single Rotation) :=
  ⟨(fun notFirst => nomatch notFirst), (fun any => nomatch any),
    (fun calibrating => nomatch calibrating), ⟨List.nodup_nil, List.not_mem_nil⟩,
    fun _ member => absurd member List.not_mem_nil⟩

/-- In every run of handled steps the closing page is right, the systems are distinct, and the
additional calibrations take part in the tick. -/
theorem wizard_runs_resume (inverts : ∀ json, parse (serialize json) = .ok json)
    {devices : List VRDevice} {world : World Number Single Rotation}
    (reached : Reaches (step platform serialize parse) Handled (launch platform devices) world) :
    world.ClosesRightly ∧ world.DistinctSystems ∧ world.ExtrasTakePart := by
  have kept : Kept world := reached.invariant (kept_launch platform devices)
    fun _ _ _ before handled stepped => before.step platform inverts handled stepped
  exact ⟨fun _ any => kept.begun any, kept.distinct,
    fun _ extra member enabled _ => kept.resolved extra member enabled⟩

end Restart

end Runs

/-! ### Runs on three systems -/

section Instances

open PairDriver.ProfileCodec (Quat rationalPlatform)

/-- A headset, and a tracker of each of two other systems. -/
def threeSystems : List VRDevice :=
  [{ id := 0, deviceClass := .hmd, model := "Quest", serial := "H", trackingSystem := "oculus" },
    { id := 1, deviceClass := .genericTracker, model := "Tracker", serial := "L",
      trackingSystem := "lighthouse" },
    { id := 2, deviceClass := .genericTracker, model := "Waist", serial := "S",
      trackingSystem := "slimevr" }]

/-- A tick with every device tracked, whose primary solve is accepted. -/
def acceptedTick (time : Rat) : Input Rat (Quat Rat) where
  tick := { time := time }
  tracking _ := true
  primary := some (⟨(0, 90, 0), (10, 0, 0)⟩, ⟨rationalPlatform.identity, (0, 0, 0)⟩, true)
  extra _ := some ⟨(0, 45, 0), (0, 0, 20)⟩

/-- Both systems are calibrated, one after the other. -/
def calibrateBoth : List (Event Rat (Quat Rat)) :=
  [.openWizard, .continueWelcome "oculus", .select 1, .startSystem, .systemDone, .calibrateNext,
    .select 2, .startSystem, .systemDone, .draw]

def rationalStep : World Rat Rat (Quat Rat) → Event Rat (Quat Rat) →
    Option (World Rat Rat (Quat Rat)) :=
  step rationalPlatform id Except.ok

theorem wizard_runs_resume_both : ∃ world : World Rat Rat (Quat Rat),
    (world.wizard.step = .allDone ∧ world.anyStarted = true ∧
      world.extraSystems = ["slimevr"] ∧ world.calibration.state = .continuous) ∧
    world.ClosesRightly ∧ world.DistinctSystems ∧ world.ExtrasTakePart := by
  obtain ⟨world, reached, both⟩ : ∃ world, Reaches rationalStep Handled
      (launch rationalPlatform threeSystems) world ∧
      (world.wizard.step = .allDone ∧ world.anyStarted = true ∧
        world.extraSystems = ["slimevr"] ∧ world.calibration.state = .continuous) :=
    reaches_evaluates (calibrateBoth ++ [.tick (acceptedTick 1)]) (by decide +kernel)
  exact ⟨world, both, wizard_runs_resume rationalPlatform (fun json => rfl) reached⟩

/-- The first system is skipped, and the second is calibrated. -/
def skipFirst : List (Event Rat (Quat Rat)) :=
  [.openWizard, .continueWelcome "oculus", .skipSystem, .select 2, .startSystem, .systemDone, .draw]

/-- A skipped first system leaves no primary calibration, a second run of the wizard adds the same
system again, and a restart leaves an additional calibration out of the tick. -/
theorem wizard_runs_break :
    (∃ world, run rationalStep (launch rationalPlatform threeSystems) skipFirst = some world ∧
      ¬world.ClosesRightly) ∧
    (∃ world, run rationalStep (launch rationalPlatform threeSystems)
      (calibrateBoth ++ calibrateBoth) = some world ∧ ¬world.DistinctSystems) ∧
    ∃ world, run rationalStep (launch rationalPlatform threeSystems)
      (calibrateBoth ++ [.tick (acceptedTick 1), .restart, .tick (acceptedTick 2)]) = some world ∧
        ¬world.ExtrasTakePart := by
  refine ⟨?_, ?_, ?_⟩
  · obtain ⟨world, ran, closed, any, stopped⟩ : ∃ world,
        run rationalStep (launch rationalPlatform threeSystems) skipFirst = some world ∧
          (world.wizard.step = .allDone ∧ world.anyStarted = true ∧ ¬world.PrimaryRuns) :=
      run_evaluates (by decide +kernel)
    exact ⟨world, ran, fun closes => stopped (closes closed any)⟩
  · obtain ⟨world, ran, repeated⟩ : ∃ world,
        run rationalStep (launch rationalPlatform threeSystems) (calibrateBoth ++ calibrateBoth) =
          some world ∧ ¬world.extraSystems.Nodup :=
      run_evaluates (by decide +kernel)
    exact ⟨world, ran, fun distinct => repeated distinct.1⟩
  · obtain ⟨world, ran, running, extra, member, enabled, present, idle⟩ : ∃ world,
        run rationalStep (launch rationalPlatform threeSystems)
          (calibrateBoth ++ [.tick (acceptedTick 1), .restart, .tick (acceptedTick 2)]) =
          some world ∧
        (world.calibration.state = .continuous ∧ ∃ extra ∈ world.extras,
          extra.saved.enabled = true ∧
          findDevice world.devices extra.saved.targetStandby ≠ -1 ∧ extra.takesPart ≠ true) :=
      run_evaluates (by decide +kernel)
    exact ⟨world, ran, fun takePart => idle (takePart running extra member enabled present)⟩

end Instances

end PairDriver.SetupWizard
