/-
This file proves when the calibration state machine keeps to its transition table.
Every assignment but one stands behind a test of the state that makes it legal;
the geometry-shift watchdog assigns `ContinuousStandby` in any state, on an error
sample that may be left over from before the mode changed. In runs where it fires
only in continuous calibration, and where no calibration is started from the
one-shot phases or from the editor, every change is legal, and continuous
calibration stays ended until the user starts it again.
-/

import PairDriver.CalibrationTick

namespace PairDriver.Calibration

open GeometryShift

/-! ### Lawful contexts -/

/-- A change the table allows, and which does not bring back a continuous calibration the user has
ended. -/
def Change.lawful (change : Change) : Bool :=
  isLegalTransition change.source change.target && !(change.ended && change.target.isContinuous)

/-- All changes so far were lawful, and an ended continuous calibration is over. -/
structure Lawful (ctx : Context) : Prop where
  changes : ∀ change ∈ ctx.changes, change.lawful = true
  ended : ctx.ended = true → ctx.state.isContinuous = false

theorem Lawful.congr {ctx next : Context} (lawful : Lawful ctx)
    (changes_eq : next.changes = ctx.changes) (ended_eq : next.ended = ctx.ended)
    (state_eq : next.state = ctx.state) : Lawful next := by
  refine ⟨?_, ?_⟩
  · rw [changes_eq]
    exact lawful.changes
  · rw [ended_eq, state_eq]
    exact lawful.ended

/-- An assignment of the state keeps a context lawful when it is itself lawful. -/
theorem Lawful.setState {ctx : Context} (lawful : Lawful ctx) {target : CalibrationState}
    (legal : isLegalTransition ctx.state target = true)
    (finished : ctx.ended = true → target.isContinuous = false) :
    Lawful (setState target ctx) := by
  refine ⟨?_, finished⟩
  intro change member
  rcases List.mem_cons.mp member with rfl | earlier
  · cases ended : ctx.ended with
    | false => simp [Change.lawful, legal]
    | true => simp [Change.lawful, legal, finished ended]
  · exact lawful.changes change earlier

theorem isLegalTransition_none (source : CalibrationState) :
    isLegalTransition source .none = true := by
  cases source with
  | _ => rfl

theorem Lawful.setNone {ctx : Context} (lawful : Lawful ctx) :
    Lawful (Calibration.setState .none ctx) :=
  lawful.setState (isLegalTransition_none ctx.state) fun _ => rfl

/-- The states a calibration may be started from. -/
def CalibrationState.mayStart : CalibrationState → Bool
  | .none | .begin | .continuous | .continuousStandby => true
  | _ => false

theorem isLegalTransition_begin {source : CalibrationState} (starts : source.mayStart = true) :
    isLegalTransition source .begin = true := by
  cases source with
  | none => rfl
  | begin => rfl
  | continuous => rfl
  | continuousStandby => rfl
  | rotation => cases starts
  | translation => cases starts
  | editing => cases starts

theorem mayStart_of_isContinuous {state : CalibrationState} (mode : state.isContinuous = true) :
    state.mayStart = true := by
  cases state with
  | continuous => rfl
  | continuousStandby => rfl
  | _ => cases mode

theorem Lawful.startCalibration {ctx : Context} (lawful : Lawful ctx)
    (starts : ctx.state.mayStart = true) : Lawful (startCalibration ctx) := by
  have begun := lawful.setState (isLegalTransition_begin starts) fun _ => rfl
  exact begun.congr rfl rfl rfl

theorem Lawful.startContinuousCalibration {ctx : Context} (lawful : Lawful ctx)
    (starts : ctx.state.mayStart = true) (running : ctx.ended = false) :
    Lawful (startContinuousCalibration ctx) := by
  have begun := lawful.startCalibration starts
  have continues : Lawful (Calibration.setState .continuous (Calibration.startCalibration ctx)) :=
    begun.setState rfl fun ended => absurd (running.symm.trans ended) Bool.false_ne_true
  exact continues.congr rfl rfl rfl

/-- A lawful context in continuous mode has not been ended. -/
theorem Lawful.not_ended {ctx : Context} (lawful : Lawful ctx)
    (mode : ctx.state.isContinuous = true) : ctx.ended = false := by
  rw [Bool.eq_false_iff]
  intro ended
  exact absurd (mode.symm.trans (lawful.ended ended)) (by decide)

/-- Continuous calibration restarts itself lawfully from its own states. -/
theorem Lawful.restart {ctx : Context} (lawful : Lawful ctx)
    (mode : ctx.state.isContinuous = true) :
    Lawful (Calibration.startContinuousCalibration ctx) :=
  lawful.startContinuousCalibration (mayStart_of_isContinuous mode) (lawful.not_ended mode)

theorem Lawful.abort {ctx : Context} (lawful : Lawful ctx) : Lawful (abort ctx) := by
  unfold Calibration.abort
  split
  · exact lawful
  · exact lawful.setNone

/-! ### Phases -/

/-- The context a phase leaves, whether it goes on or returns. -/
def outcome : Except Context Context → Context
  | .ok next => next
  | .error final => final

/-- What holds before phases and after each of them holds after the run. -/
theorem runPhases_invariant {property : Context → Prop} {phases : List Phase}
    (preserved : ∀ phase ∈ phases, ∀ ctx, property ctx → property (outcome (phase ctx)))
    {ctx : Context} (holds : property ctx) : property (runPhases phases ctx) := by
  induction phases generalizing ctx with
  | nil => exact holds
  | cons phase rest inductionHypothesis =>
    have kept := preserved phase List.mem_cons_self ctx holds
    unfold runPhases
    cases result : phase ctx with
    | ok next =>
      rw [result] at kept
      exact inductionHypothesis
        (fun other member => preserved other (List.mem_cons_of_mem phase member)) kept
    | error final =>
      rw [result] at kept
      exact kept

def Preserves (phase : Phase) : Prop :=
  ∀ ctx, Lawful ctx → Lawful (outcome (phase ctx))

theorem runPhases_lawful {phases : List Phase} (preserved : ∀ phase ∈ phases, Preserves phase)
    {ctx : Context} (lawful : Lawful ctx) : Lawful (runPhases phases ctx) :=
  runPhases_invariant preserved lawful

theorem preserves_recover (input : TickInput) : Preserves (recover input) := by
  intro ctx lawful
  unfold recover
  split
  · rename_i triggered
    have cleared : Lawful { ctx with calibrationValid := false } := lawful.congr rfl rfl rfl
    exact cleared.restart triggered.2
  · exact lawful

theorem preserves_checkHmd (input : TickInput) : Preserves (checkHmd input) := by
  intro ctx lawful
  unfold checkHmd
  split
  · exact lawful.congr rfl rfl rfl
  · exact lawful.congr rfl rfl rfl

theorem preserves_leaveStandby (input : TickInput) : Preserves (leaveStandby input) := by
  intro ctx lawful
  unfold leaveStandby
  by_cases standby : ctx.state = .continuousStandby
  · simp only [standby, if_true]
    split
    · exact lawful.restart (by rw [standby]; rfl)
    · exact lawful
  · simp only [standby, if_false]
    exact lawful

theorem preserves_skipIdle : Preserves skipIdle := by
  intro ctx lawful
  unfold skipIdle
  split
  · exact lawful
  · exact lawful

theorem preserves_checkDevices (input : TickInput) : Preserves (checkDevices input) := by
  intro ctx lawful
  unfold checkDevices
  by_cases begun : ctx.state = .begin
  · simp only [begun, if_true]
    split
    · exact lawful.setState (begun ▸ rfl : isLegalTransition ctx.state .rotation = true) fun _ => rfl
    · exact lawful.abort
  · simp only [begun, if_false]
    split
    · exact lawful
    · exact lawful.abort

theorem preserves_checkLiveness (input : TickInput) : Preserves (checkLiveness input) := by
  intro ctx lawful
  unfold checkLiveness
  by_cases continuous : ctx.state = .continuous
  · have seen : Lawful { ctx with
        referenceWasOffline := input.referenceOffline
        targetWasOffline := input.targetOffline } := lawful.congr rfl rfl rfl
    rw [if_pos continuous]
    split
    · exact seen
    · dsimp only
      split
      · exact seen.restart (by rw [continuous]; rfl)
      · exact seen
  · rw [if_neg continuous]
    exact lawful

theorem preserves_collectSample (input : TickInput) : Preserves (collectSample input) := by
  intro ctx lawful
  unfold collectSample
  split
  · split
    · exact lawful
    · exact lawful
  · exact lawful.abort

theorem preserves_checkDiversity (input : TickInput) : Preserves (checkDiversity input) := by
  intro ctx lawful
  unfold checkDiversity
  by_cases rotating : ctx.state = .rotation
  · simp only [rotating, if_true]
    split
    · exact lawful.setState (rotating ▸ rfl : isLegalTransition ctx.state .translation = true)
        fun _ => rfl
    · exact lawful
  · simp only [rotating, if_false]
    split
    · exact lawful
    · exact lawful

theorem preserves_checkTrigger (input : TickInput) : Preserves (checkTrigger input) := by
  intro ctx lawful
  unfold checkTrigger
  split
  · exact lawful
  · exact lawful

theorem preserves_solve (input : TickInput) : Preserves (solve input) := by
  intro ctx lawful
  unfold solve
  split
  · split
    · exact lawful
    · exact lawful.congr rfl rfl rfl
  · exact lawful.congr rfl rfl rfl

theorem preserves_finishTick : Preserves finishTick := by
  intro ctx lawful
  unfold finishTick
  split
  · exact lawful
  · exact lawful.setNone.congr rfl rfl rfl

/-! ### The watchdog -/

/-- The tick passes its first checks. -/
def tickRuns (input : TickInput) (ctx : Context) : Bool :=
  input.vrSystem && !decide (input.time - ctx.timeLastTick < 1 / 20) && input.idsInRange

/-- The geometry-shift watchdog of this tick would fire on what the context holds before it. -/
def watchdogFires (input : TickInput) (ctx : Context) : Bool :=
  (watchdogTick input.useCusum ctx.calibrationValid ctx.errors ctx.watchdog).1

theorem watchGeometry_of_silent {input : TickInput} {ctx : Context}
    (silent : watchdogFires input ctx = false) (lawful : Lawful ctx) :
    Lawful (outcome (watchGeometry input ctx)) := by
  unfold watchdogFires at silent
  unfold watchGeometry
  simp only [silent, Bool.false_eq_true, if_false]
  exact lawful.congr rfl rfl rfl

theorem isLegalTransition_continuousStandby {source : CalibrationState}
    (mode : source.isContinuous = true) : isLegalTransition source .continuousStandby = true := by
  cases source with
  | continuous => rfl
  | continuousStandby => rfl
  | _ => cases mode

theorem watchGeometry_of_isContinuous (input : TickInput) {ctx : Context}
    (mode : ctx.state.isContinuous = true) (lawful : Lawful ctx) :
    Lawful (outcome (watchGeometry input ctx)) := by
  unfold watchGeometry
  dsimp only
  split
  · have demoted := lawful.setState (isLegalTransition_continuousStandby mode)
      fun ended => absurd ((lawful.not_ended mode).symm.trans ended) Bool.false_ne_true
    exact demoted.congr rfl rfl rfl
  · exact lawful.congr rfl rfl rfl

/-- After the recovery phase the watchdog is lawful when, before the tick, it would fire only in
continuous calibration: a recovery has left no valid calibration for it to judge. -/
theorem watchGeometry_of_recover {input : TickInput} {ctx : Context} (lawful : Lawful ctx)
    (inMode : watchdogFires input ctx = true → ctx.state.isContinuous = true) :
    Lawful (outcome (watchGeometry input (outcome (recover input ctx)))) := by
  have recovered := preserves_recover input ctx lawful
  by_cases triggered : input.relocalized ∧ ctx.state.isContinuous
  · refine watchGeometry_of_silent ?_ recovered
    rw [recover, if_pos triggered]
    exact watchdogTick_of_invalid _ _ _
  · rw [recover, if_neg triggered]
    by_cases fires : watchdogFires input ctx = true
    · exact watchGeometry_of_isContinuous input (inMode fires) lawful
    · exact watchGeometry_of_silent (Bool.eq_false_iff.mpr fires) lawful

/-! ### Steps and runs -/

/-- The phases after the watchdog. -/
def laterPhases (input : TickInput) : List Phase :=
  [checkHmd input, leaveStandby input, skipIdle, checkDevices input, checkLiveness input,
    collectSample input, checkDiversity input, checkTrigger input, solve input, finishTick]

theorem preserves_laterPhases (input : TickInput) :
    ∀ phase ∈ laterPhases input, Preserves phase := by
  simp only [laterPhases, List.forall_mem_cons]
  exact ⟨preserves_checkHmd input, preserves_leaveStandby input, preserves_skipIdle,
    preserves_checkDevices input, preserves_checkLiveness input, preserves_collectSample input,
    preserves_checkDiversity input, preserves_checkTrigger input, preserves_solve input,
    preserves_finishTick, fun _ member => absurd member List.not_mem_nil⟩

theorem runPhases_ok {phase : Phase} {rest : List Phase} {ctx next : Context}
    (continues : phase ctx = .ok next) :
    runPhases (phase :: rest) ctx = runPhases rest next := by
  rw [runPhases, continues]

theorem recover_ok (input : TickInput) (ctx : Context) :
    recover input ctx = .ok (outcome (recover input ctx)) := by
  unfold recover
  split
  · rfl
  · rfl

theorem watchGeometry_ok (input : TickInput) (ctx : Context) :
    watchGeometry input ctx = .ok (outcome (watchGeometry input ctx)) := by
  unfold watchGeometry
  dsimp only
  split
  · rfl
  · rfl

/-- The tick keeps a context lawful when its watchdog would fire only in continuous calibration. -/
theorem calibrationTick_lawful {input : TickInput} {ctx : Context} (lawful : Lawful ctx)
    (inMode : tickRuns input ctx = true → watchdogFires input ctx = true →
      ctx.state.isContinuous = true) : Lawful (calibrationTick input ctx) := by
  unfold calibrationTick
  by_cases runs : tickRuns input ctx = true
  · have passes : checkTick input ctx = .ok ctx := by
      simp only [tickRuns, Bool.and_eq_true, Bool.not_eq_true', decide_eq_false_iff_not] at runs
      rw [checkTick, if_pos ⟨runs.1.1, runs.1.2, runs.2⟩]
    rw [runPhases_ok passes, runPhases_ok (recover_ok input ctx),
      runPhases_ok (watchGeometry_ok input _)]
    exact runPhases_lawful (preserves_laterPhases input)
      (watchGeometry_of_recover lawful (inMode runs))
  · have stops : checkTick input ctx = .error ctx := by
      simp only [tickRuns, Bool.and_eq_true, Bool.not_eq_true', decide_eq_false_iff_not,
        and_assoc] at runs
      rw [checkTick, if_neg runs]
    rw [runPhases, stops]
    exact lawful

/-- The condition on a step: a tick whose watchdog would fire starts in continuous calibration, and
calibrations are started from states the table lets them start from. -/
def Disciplined (ctx : Context) : Event → Prop
  | .tick input => tickRuns input ctx = true → watchdogFires input ctx = true →
      ctx.state.isContinuous = true
  | .startCalibration | .startContinuousCalibration => ctx.state.mayStart = true
  | _ => True

instance (ctx : Context) (event : Event) : Decidable (Disciplined ctx event) :=
  match event with
  | .tick _ => inferInstanceAs (Decidable (_ → _ → _))
  | .startCalibration | .startContinuousCalibration => inferInstanceAs (Decidable (_ = _))
  | .endContinuousCalibration | .enterEditing | .leaveEditing => isTrue trivial

theorem lawful_loadProfile (autostart : Bool) : Lawful (loadProfile autostart) := by
  have fresh : Lawful {} :=
    ⟨fun _ member => absurd member List.not_mem_nil, fun ended => absurd ended Bool.false_ne_true⟩
  cases autostart with
  | false => exact fresh
  | true => exact fresh.setState rfl fun ended => absurd ended Bool.false_ne_true

theorem lawful_step {ctx after : Context} {event : Event} (lawful : Lawful ctx)
    (met : Disciplined ctx event) (stepped : step ctx event = some after) : Lawful after := by
  cases event with
  | tick input =>
    obtain rfl := Option.some.inj stepped
    exact calibrationTick_lawful lawful met
  | startCalibration =>
    obtain rfl := Option.some.inj stepped
    exact lawful.startCalibration met
  | startContinuousCalibration =>
    obtain rfl := Option.some.inj stepped
    have wanted : Lawful { ctx with ended := false } :=
      ⟨lawful.changes, fun ended => absurd ended Bool.false_ne_true⟩
    exact wanted.startContinuousCalibration met rfl
  | endContinuousCalibration =>
    obtain rfl := Option.some.inj stepped
    exact ⟨lawful.setNone.changes, fun _ => rfl⟩
  | enterEditing =>
    rw [step] at stepped
    split at stepped
    · rename_i idle
      obtain rfl := Option.some.inj stepped
      exact lawful.setState (idle ▸ rfl : isLegalTransition ctx.state .editing = true) fun _ => rfl
    · cases stepped
  | leaveEditing =>
    rw [step] at stepped
    split at stepped
    · obtain rfl := Option.some.inj stepped
      exact lawful.setNone
    · cases stepped

/-- Legality of the state machine. In every context reached by disciplined steps, every change of
the state so far is one the table allows, and after the user ended continuous calibration the state
has not become `Continuous` or `ContinuousStandby` again before the user started it. -/
theorem transitions_lawful (autostart : Bool) {ctx : Context}
    (reached : Reaches step Disciplined (loadProfile autostart) ctx) :
    (∀ change ∈ ctx.changes, isLegalTransition change.source change.target = true ∧
      (change.ended = true → change.target.isContinuous = false)) ∧
    (ctx.ended = true → ctx.state.isContinuous = false) := by
  have lawful : Lawful ctx := reached.invariant (lawful_loadProfile autostart)
    fun _ _ _ before met stepped => lawful_step before met stepped
  refine ⟨?_, lawful.ended⟩
  intro change member
  have holds := lawful.changes change member
  rw [Change.lawful, Bool.and_eq_true, Bool.not_eq_true', Bool.and_eq_false_iff] at holds
  refine ⟨holds.1, ?_⟩
  intro ended
  exact holds.2.resolve_left (by rw [ended]; decide)

/-- A tick of a continuous calibration that reports an error. -/
def errorTick (time error : Rat) : Event :=
  .tick { time := time, solveError := some (time, error) }

/-- Continuous calibration runs until two of the last errors were spikes, and a third is not yet
read. -/
def thirdSpikeUnread : List Event :=
  [.startContinuousCalibration, errorTick 1 1, errorTick 2 1, errorTick 3 1, errorTick 4 1,
    errorTick 5 1, errorTick 6 100, errorTick 7 100, errorTick 8 100]

theorem transitions_lawful_shift : ∃ ctx, Reaches step Disciplined (loadProfile false) ctx ∧
    ⟨.continuous, .continuousStandby, false⟩ ∈ ctx.changes ∧
    ∀ change ∈ ctx.changes, isLegalTransition change.source change.target = true ∧
      (change.ended = true → change.target.isContinuous = false) := by
  obtain ⟨ctx, reached, demoted⟩ : ∃ ctx, Reaches step Disciplined (loadProfile false) ctx ∧
      ⟨.continuous, .continuousStandby, false⟩ ∈ ctx.changes :=
    reaches_evaluates (thirdSpikeUnread ++ [errorTick 9 1]) (by decide +kernel)
  exact ⟨ctx, reached, demoted, (transitions_lawful false reached).1⟩

/-- The user ends continuous calibration while the third spike is unread and opens the editor. The
next tick moves from `Editing` to `ContinuousStandby`, which the table forbids, and brings back the
continuous calibration the user had ended. -/
theorem unread_spike_leaves_editing : ∃ ctx,
    run step (loadProfile false) (thirdSpikeUnread ++ [Event.endContinuousCalibration, .enterEditing,
      .tick { time := 9, devicesFound := false }]) = some ctx ∧
    ⟨.editing, .continuousStandby, true⟩ ∈ ctx.changes ∧
    isLegalTransition .editing .continuousStandby = false ∧
    ctx.ended = true ∧ ctx.state = .continuousStandby := by
  exact run_evaluates (by decide +kernel)

end PairDriver.Calibration
