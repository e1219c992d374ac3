/-
This file follows the rejection counter of the stuck-loop watchdog through whole runs of
a calibration solver, next to a count of the rejections that belong to it.

An early return of the static recalibration is a rejection the counter does not see, and
a solve accepted under the lock leaves the counter as it is. In the runs without the
two the counter is exact: a calibration that is bad and stuck is cleared in time, and
none is cleared soon after an accepted solve.
-/

import PairDriver.SolveExits

namespace PairDriver.Incremental

/-! ### The watch -/

/-- A solver with what its counter is to count. `rejections` are the calls that returned false since
the last one that returned true, the last clear or the last hold, from the value of the hold on;
`standing` are the last calls in a row that returned false and left a valid calibration that is not
healthy; `sinceAccept` are the calls since the last one that returned true. All three are recorded
for the specification only. -/
structure Watch where
  solver : CalibrationCalc
  rejections : Nat := 0
  standing : Nat := 0
  sinceAccept : Option Nat := none

/-- A new solver; its calibration is not initialized. -/
def Watch.new (uninitialized : Transform) : Watch where
  solver := { estimatedTransformation := uninitialized }

def countRejection (exit : Exit) (rejections : Nat) : Nat :=
  match exit with
  | .locked _ | .accepted _ _ | .cleared => 0
  | .held => kMaxConsecutiveRejections - 5
  | .tooFew | .staticRejected | .rejected => rejections + 1

/-- A valid calibration whose error is not below the healthy floor. -/
def Unhealthy (call : Call) (state : CalibrationCalc) : Prop :=
  state.isValid = true ∧
    isCalibrationHealthy state.isValid (priorCalibrationError call state) = false

instance (call : Call) (state : CalibrationCalc) : Decidable (Unhealthy call state) :=
  inferInstanceAs (Decidable (_ ∧ _))

/-- A call on at least six samples. -/
def Watch.solve (call : Call) (watch : Watch) : Watch :=
  let (exit, solver) := computeIncremental call watch.solver
  { solver := solver
    rejections := countRejection exit watch.rejections
    standing :=
      if exit.returned = false ∧ exit.clears = false ∧ Unhealthy call watch.solver then
        watch.standing + 1
      else 0
    sinceAccept := if exit.returned then some 0 else watch.sinceAccept.map Nat.succ }

def watchStep (watch : Watch) (event : Event) : Option Watch :=
  match event with
  | .computeIncremental call =>
    if minimumSamples ≤ watch.solver.samples.length then some (watch.solve call) else none
  | .clear => some { watch with solver := watch.solver.clear, rejections := 0, standing := 0 }
  | event => (step watch.solver event).map fun solver => { watch with solver := solver }

/-! ### The condition -/

/-- The call accepts the relative pose under the lock. -/
def locks (call : Call) (state : CalibrationCalc) : Bool :=
  state.lockRelativePosition && relPoseValid call state

/-- The static recalibration returns early. -/
def returnsEarly (call : Call) (state : CalibrationCalc) : Bool :=
  !locks call state && tryStatic call state && staticRejects call state

/-- The static recalibration does not return early, and what is accepted under the lock finds no
rejections counted. -/
def Counted (watch : Watch) : Event → Prop
  | .computeIncremental call =>
    returnsEarly call watch.solver = false ∧
      (locks call watch.solver = true → watch.solver.consecutiveRejections = 0)
  | _ => True

instance (watch : Watch) (event : Event) : Decidable (Counted watch event) :=
  match event with
  | .computeIncremental _ => inferInstanceAs (Decidable (_ ∧ (_ → _)))
  | .configure _ _ _ | .pushSample _ | .shiftSample | .clear | .freezeRotationPhaseSamples
  | .setRelativeTransformation _ _ | .computeOneshot _ _ => isTrue trivial

/-! ### One step -/

/-- What holds of the counter in every state. -/
structure Counts (watch : Watch) : Prop where
  exact : watch.solver.consecutiveRejections = watch.rejections
  standing : watch.standing ≤ watch.solver.consecutiveRejections
  inTime : watch.standing < kMaxConsecutiveRejections
  sinceAccept : ∀ calls, watch.sinceAccept = some calls →
    watch.solver.consecutiveRejections ≤ calls

/-- A counter that stands at nought is exact once no rejections are counted. -/
theorem Counts.zero {watch : Watch} (counter : watch.solver.consecutiveRejections = 0)
    (rejections : watch.rejections = 0) (standing : watch.standing = 0) : Counts watch where
  exact := counter.trans rejections.symm
  standing := standing.le.trans (Nat.zero_le _)
  inTime := standing.trans_lt (Nat.succ_pos _)
  sinceAccept _ _ := counter.le.trans (Nat.zero_le _)

theorem Counts.new (uninitialized : Transform) : Counts (Watch.new uninitialized) :=
  .zero rfl rfl rfl

/-- No event but a solve and a clear touches the counter. -/
theorem step_consecutiveRejections {state after : CalibrationCalc} {event : Event}
    (stepped : step state event = some after) (noSolve : ∀ call, event ≠ .computeIncremental call)
    (noClear : event ≠ .clear) :
    after.consecutiveRejections = state.consecutiveRejections := by
  cases event with
  | computeIncremental call => exact absurd rfl (noSolve call)
  | clear => exact absurd rfl noClear
  | configure =>
    obtain rfl := Option.some.inj stepped
    rfl
  | pushSample sample =>
    obtain rfl := Option.some.inj stepped
    unfold CalibrationCalc.pushSample
    split
    · rfl
    · rfl
  | shiftSample =>
    obtain rfl := Option.some.inj stepped
    rfl
  | freezeRotationPhaseSamples =>
    obtain rfl := Option.some.inj stepped
    rfl
  | setRelativeTransformation =>
    obtain rfl := Option.some.inj stepped
    rfl
  | computeOneshot solvers ignoreOutliers =>
    obtain rfl := Option.some.inj stepped
    unfold Incremental.computeOneshot oneshotOnSplice
    dsimp only
    split
    · rfl
    · split
      · rfl
      · rfl

/-- What a call on enough samples does to the counter, by its exit. -/
inductive SolveCounts (call : Call) (state : CalibrationCalc) : Exit → Nat → Prop where
  | locked (calibration : Transform) (accepts : locks call state = true)
    (runs : returnsEarly call state = false) :
    SolveCounts call state (.locked calibration) state.consecutiveRejections
  | early (fails : locks call state = false) (returns : returnsEarly call state = true) :
    SolveCounts call state .staticRejected state.consecutiveRejections
  | accepted (candidate : Candidate) (lerp : Bool) (fails : locks call state = false)
    (runs : returnsEarly call state = false) : SolveCounts call state (.accepted candidate lerp) 0
  | rejected (fails : locks call state = false) (runs : returnsEarly call state = false)
    (below : ¬(state.isValid = true ∧
      kMaxConsecutiveRejections ≤ state.consecutiveRejections + 1)) :
    SolveCounts call state .rejected (state.consecutiveRejections + 1)
  | held (fails : locks call state = false) (runs : returnsEarly call state = false)
    (full : kMaxConsecutiveRejections ≤ state.consecutiveRejections + 1)
    (healthy : isCalibrationHealthy state.isValid (priorCalibrationError call state) = true) :
    SolveCounts call state .held (kMaxConsecutiveRejections - 5)
  | cleared (fails : locks call state = false) (runs : returnsEarly call state = false)
    (full : kMaxConsecutiveRejections ≤ state.consecutiveRejections + 1) :
    SolveCounts call state .cleared 0

theorem solveCounts (call : Call) {state : CalibrationCalc}
    (enough : minimumSamples ≤ state.samples.length) :
    SolveCounts call state (computeIncremental call state).1
      (computeIncremental call state).2.consecutiveRejections := by
  unfold computeIncremental
  rw [if_neg (not_lt.mpr enough)]
  cases fails : state.lockRelativePosition && relPoseValid call state with
  | true => exact .locked _ fails (by rw [returnsEarly, locks, fails]; rfl)
  | false =>
    rw [if_neg Bool.false_ne_true]
    have unlocked : locks call state = false := fails
    cases returns : tryStatic call state && staticRejects call state with
    | true => exact .early fails (by rw [returnsEarly, unlocked, Bool.and_assoc, returns]; rfl)
    | false =>
      have runs : returnsEarly call state = false := by
        rw [returnsEarly, unlocked, Bool.and_assoc, returns]
        rfl
      rw [if_neg Bool.false_ne_true]
      dsimp only
      obtain ⟨rotationRatio, translationRatio, tag, attempted⟩ := attempt_state call state
      rw [attempted]
      rcases settle_cases call (priorCalibrationError call state) (attempt call state).1
        { state with
          rotationConditionRatio := rotationRatio
          translationConditionRatio := translationRatio
          rejectReasonTag := tag } with ⟨_, settled⟩ | ⟨_, settled⟩
      · rw [settled]
        exact .accepted _ _ unlocked runs
      · rw [settled]
        rcases reject_cases (priorCalibrationError call state)
          { state with
            rotationConditionRatio := rotationRatio
            translationConditionRatio := translationRatio
            rejectReasonTag := tag } with ⟨below, rejected⟩ | ⟨full, rejected⟩ | ⟨full, rejected⟩
        · rw [rejected]
          exact .rejected unlocked runs below
        · rw [rejected]
          exact .held unlocked runs full.1 full.2
        · rw [rejected]
          exact .cleared unlocked runs full.1

/-- A call under the condition keeps the counter exact. -/
theorem Counts.solve {watch : Watch} {call : Call} (counts : Counts watch)
    (enough : minimumSamples ≤ watch.solver.samples.length)
    (counted : Counted watch (.computeIncremental call)) : Counts (watch.solve call) := by
  obtain ⟨exact, standing, inTime, sinceAccept⟩ := counts
  obtain ⟨runs, fresh⟩ := counted
  have solved := solveCounts call enough
  unfold Watch.solve
  generalize computeIncremental call watch.solver = result at solved
  obtain ⟨exit, solver⟩ := result
  dsimp only at solved ⊢
  generalize counter : solver.consecutiveRejections = after at solved
  cases solved with
  | locked calibration accepts =>
    exact .zero (counter.trans (fresh accepts)) rfl rfl
  | early fails returns =>
    rw [runs] at returns
    cases returns
  | accepted candidate lerp =>
    exact .zero counter rfl rfl
  | rejected fails runs below =>
    refine ⟨counter.trans (congrArg Nat.succ exact), ?_, ?_, fun calls accepted => ?_⟩
    · dsimp only
      rw [counter]
      split
      · exact Nat.succ_le_succ standing
      · exact Nat.zero_le _
    · dsimp only
      split
      · rename_i unhealthy
        have room := not_le.mp fun full => below ⟨unhealthy.2.2.1, full⟩
        exact (Nat.succ_le_succ standing).trans_lt room
      · exact Nat.succ_pos _
    · obtain ⟨before, since, rfl⟩ := Option.map_eq_some_iff.mp accepted
      rw [counter]
      exact Nat.succ_le_succ (sinceAccept before since)
  | held fails runs full healthy =>
    have notUnhealthy : ¬Unhealthy call watch.solver := by
      intro unhealthy
      rw [unhealthy.2] at healthy
      cases healthy
    refine ⟨counter, ?_, ?_, fun calls accepted => ?_⟩
    · dsimp only
      rw [if_neg fun all => notUnhealthy all.2.2]
      exact Nat.zero_le _
    · dsimp only
      rw [if_neg fun all => notUnhealthy all.2.2]
      exact Nat.succ_pos _
    · obtain ⟨before, since, rfl⟩ := Option.map_eq_some_iff.mp accepted
      rw [counter]
      have reached := full.trans (Nat.succ_le_succ (sinceAccept before since))
      exact (Nat.sub_le _ _).trans reached
  | cleared =>
    exact .zero counter rfl rfl

/-- A step under the condition keeps the counter exact. -/
theorem Counts.step {watch after : Watch} {event : Event} (counts : Counts watch)
    (counted : Counted watch event) (stepped : watchStep watch event = some after) :
    Counts after := by
  by_cases solves : ∃ call, event = .computeIncremental call
  · obtain ⟨call, rfl⟩ := solves
    dsimp only [watchStep] at stepped
    split at stepped
    · rename_i enough
      obtain rfl := Option.some.inj stepped
      exact counts.solve enough counted
    · cases stepped
  by_cases clears : event = .clear
  · subst clears
    obtain rfl := Option.some.inj stepped
    exact .zero rfl rfl rfl
  · have other : watchStep watch event = (Incremental.step watch.solver event).map
        fun solver => { watch with solver := solver } := by
      cases event with
      | computeIncremental call => exact absurd ⟨call, rfl⟩ solves
      | clear => exact absurd rfl clears
      | configure | pushSample | shiftSample | freezeRotationPhaseSamples
      | setRelativeTransformation | computeOneshot => rfl
    rw [other] at stepped
    obtain ⟨solver, changed, rfl⟩ := Option.map_eq_some_iff.mp stepped
    have same := step_consecutiveRejections changed (fun call => (solves ⟨call, ·⟩)) clears
    obtain ⟨exact, standing, inTime, sinceAccept⟩ := counts
    exact ⟨same.trans exact, standing.trans same.ge, inTime,
      fun calls since => same.le.trans (sinceAccept calls since)⟩

/-- A call outside the condition leaves the counter wrong. -/
theorem solve_miscounts {watch : Watch} {call : Call} (counts : Counts watch)
    (enough : minimumSamples ≤ watch.solver.samples.length)
    (same : (watch.solve call).solver.consecutiveRejections = (watch.solve call).rejections) :
    Counted watch (.computeIncremental call) := by
  have solved := solveCounts call enough
  unfold Watch.solve at same
  generalize computeIncremental call watch.solver = result at solved same
  obtain ⟨exit, solver⟩ := result
  dsimp only at solved same
  rw [same] at solved
  cases exit with
  | locked calibration =>
    generalize recounted : countRejection (.locked calibration) watch.rejections = count at solved
    cases solved with
    | locked _ accepts runs => exact ⟨runs, fun _ => recounted.symm⟩
  | staticRejected =>
    generalize recounted : countRejection .staticRejected watch.rejections = count at solved
    cases solved with
    | early =>
      rw [counts.exact] at recounted
      exact absurd recounted (Nat.succ_ne_self _)
  | tooFew => nomatch solved
  | accepted candidate lerp =>
    generalize countRejection (.accepted candidate lerp) watch.rejections = count at solved
    cases solved with
    | accepted _ _ fails runs => exact ⟨runs, fun locked => absurd (fails.symm.trans locked) nofun⟩
  | rejected =>
    generalize countRejection .rejected watch.rejections = count at solved
    cases solved with
    | rejected fails runs => exact ⟨runs, fun locked => absurd (fails.symm.trans locked) nofun⟩
  | held =>
    generalize countRejection .held watch.rejections = count at solved
    cases solved with
    | held fails runs => exact ⟨runs, fun locked => absurd (fails.symm.trans locked) nofun⟩
  | cleared =>
    generalize countRejection .cleared watch.rejections = count at solved
    cases solved with
    | cleared fails runs => exact ⟨runs, fun locked => absurd (fails.symm.trans locked) nofun⟩

/-- The step outside a solve keeps the counter exact in any case. -/
theorem counted_iff {watch after : Watch} {event : Event} (counts : Counts watch)
    (stepped : watchStep watch event = some after) :
    after.solver.consecutiveRejections = after.rejections ↔ Counted watch event := by
  refine ⟨fun same => ?_, fun counted => (counts.step counted stepped).exact⟩
  cases event with
  | computeIncremental call =>
    dsimp only [watchStep] at stepped
    split at stepped
    · rename_i enough
      obtain rfl := Option.some.inj stepped
      exact solve_miscounts counts enough same
    · cases stepped
  | configure | pushSample | shiftSample | clear | freezeRotationPhaseSamples
  | setRelativeTransformation | computeOneshot => trivial

/-! ### Runs -/

/-- In every run without an early return of the static recalibration in which what is accepted under
the lock finds no rejections counted, the counter is the number of rejections. A valid calibration
at or above the healthy floor does not stand fifty rejections in a row, and none is cleared with an
accepted solve among the last forty-five calls. A step outside the condition makes the counter
wrong. -/
theorem rejectionCounter_counts (uninitialized : Transform) {watch : Watch}
    (reached : Reaches watchStep Counted (Watch.new uninitialized) watch) :
    watch.solver.consecutiveRejections = watch.rejections ∧
    watch.standing < kMaxConsecutiveRejections ∧
    (∀ call calls, minimumSamples ≤ watch.solver.samples.length →
      (computeIncremental call watch.solver).1.clears = true →
      watch.sinceAccept = some calls → kMaxConsecutiveRejections - 5 ≤ calls) ∧
    ∀ event after, watchStep watch event = some after →
      (after.solver.consecutiveRejections = after.rejections ↔ Counted watch event) := by
  have counts : Counts watch := reached.invariant (Counts.new uninitialized)
    fun _ _ _ before counted stepped => before.step counted stepped
  refine ⟨counts.exact, counts.inTime, fun call calls enough clears since => ?_,
    fun event after stepped => counted_iff counts stepped⟩
  have solved := solveCounts call enough
  generalize (computeIncremental call watch.solver).1 = exit at solved clears
  generalize (computeIncremental call watch.solver).2.consecutiveRejections = after at solved
  cases solved with
  | cleared _ _ full =>
    have reachedLimit := full.trans (Nat.succ_le_succ (counts.sinceAccept calls since))
    exact (by decide : kMaxConsecutiveRejections - 5 ≤ kMaxConsecutiveRejections - 1).trans
      (Nat.le_of_succ_le_succ reachedLimit)
  | locked | early | accepted | rejected | held => cases clears

/-- Six samples, and a first solve that is off by five millimetres, right at the healthy floor. -/
def firstSolve : List Event :=
  List.replicate 6 (.pushSample stillSample) ++
    [.computeIncremental (continuousCall (measuringSolvers 1 (5 / 1000) (.finite 1)))]

/-- Motion that is too planar for a solve. -/
def planar : Event :=
  .computeIncremental (continuousCall (measuringSolvers 1 0 (.finite 0)))

/-- One rejection after the first solve. -/
theorem rejectionCounter_counts_planar : ∃ watch,
    Reaches watchStep Counted (Watch.new .identity) watch ∧
    (watch.rejections = 1 ∧ watch.standing = 1) ∧ watch.solver.consecutiveRejections = 1 := by
  obtain ⟨watch, reached, counted⟩ : ∃ watch,
      Reaches watchStep Counted (Watch.new .identity) watch ∧
      (watch.rejections = 1 ∧ watch.standing = 1) :=
    reaches_evaluates (firstSolve ++ [planar]) (by decide +kernel)
  exact ⟨watch, reached, counted, (rejectionCounter_counts .identity reached).1.trans counted.1⟩

/-- Forty-nine rejections, a relative pose accepted under the lock, and one rejection more: the
counter has not seen the accepted solve, and the calibration is cleared right after it. -/
theorem rejectionCounter_misses_locked : ∃ watch,
    run watchStep (Watch.new .identity) (firstSolve ++ List.replicate 49 planar ++
      [.configure true true false,
        .computeIncremental (continuousCall (measuringSolvers (5 / 1000) 0 (.finite 0))),
        .configure true false false]) = some watch ∧
    (watch.rejections = 0 ∧ watch.solver.consecutiveRejections = 49 ∧
      watch.sinceAccept = some 0 ∧
      (computeIncremental (continuousCall (measuringSolvers 1 0 (.finite 0)))
        watch.solver).1.clears = true) := by
  exact run_evaluates (by decide +kernel)

end PairDriver.Incremental
