/-
This file follows the errors of the current calibration from the solver to the
geometry-shift watchdog. `ComputeIncremental` records an error only after it has
passed the validation threshold, and the additional calibrations record theirs in
the same series. The watchdog is complete in the runs whose errors all reach it,
and misses a shift whose errors are too large to be recorded.
-/

import PairDriver.GeometryShift
import PairDriver.Machine

namespace PairDriver.GeometryShift

/-! ### Recording an error -/

/-- What `ComputeIncremental` reads at one call: the number of samples, the error of the current
calibration on them in metres, the threshold it is validated against, and whether the calibration
is valid afterwards. -/
structure Solve where
  time : Rat
  samples : Nat := 100
  rmsError : Rat
  rmsThreshold : Rat
  solveValid : Bool := true
deriving DecidableEq

/-- The call for an additional calibration, with its own validity. `relPoseApplied` tells whether
its relative position is locked and the relative pose solved it. -/
structure ExtraSolve extends Solve where
  calibrationValid : Bool
  relPoseApplied : Bool := false
deriving DecidableEq

/-- The samples `ComputeIncremental` needs. -/
def minimumSamples : Nat := 6

/-- `ValidateCalibration` on the current calibration. -/
def validateCalibration (call : Solve) : Bool :=
  !decide (call.rmsThreshold < call.rmsError)

/-- The error of the current calibration in millimetres; without samples or a valid calibration
there is none. -/
def currentError (calibrationValid : Bool) (call : Solve) : Option Rat :=
  if minimumSamples ≤ call.samples ∧ calibrationValid = true then some (call.rmsError * 1000)
  else none

/-- The error `ComputeIncremental` pushes. -/
def recordedError (calibrationValid : Bool) (call : Solve) : Option Rat :=
  if validateCalibration call then currentError calibrationValid call else none

/-- The error an additional calibration pushes. -/
def recordedExtra (extra : ExtraSolve) : Option Rat :=
  if extra.relPoseApplied then none else recordedError extra.calibrationValid extra.toSolve

/-- The series after an error, if there is one. -/
def pushError (time : Rat) (error : Option Rat) (series : List (Rat × Rat)) : List (Rat × Rat) :=
  match error with
  | some value => push time value series
  | none => series

def pushExtra (series : List (Rat × Rat)) (extra : ExtraSolve) : List (Rat × Rat) :=
  pushError extra.time (recordedExtra extra) series

/-! ### The monitored tick -/

/-- The solver's validity, the error series and the watchdog. `history` lists the errors of the
current calibration at every call since it became valid, recorded or not; `spikes` counts the last
calls in a row whose error is a spike against the thirty before it. `withheld` and `missed` tell
whether an error was not recorded, and whether three spikes were not followed by a firing. The four
are kept for the specification only. -/
structure Monitor where
  calibrationValid : Bool := false
  errors : List (Rat × Rat) := []
  watchdog : Watchdog := {}
  clock : Rat := 0
  history : List (Rat × Rat) := []
  spikes : Nat := 0
  withheld : Bool := false
  missed : Bool := false
deriving DecidableEq

/-- The error is a spike against the thirty errors before it. -/
def isSpikeOfHistory (history : List (Rat × Rat)) (error : Rat) : Bool :=
  decide (30 ≤ history.length) && isCurrentErrorSpike error (rollingMedian history)

/-- The calls of one tick: the primary's, then those of the additional calibrations. -/
structure Calls where
  primary : Solve
  extras : List ExtraSolve := []
deriving DecidableEq

/-- The times of the calls in order. -/
def Calls.times (calls : Calls) : List Rat :=
  calls.primary.time :: calls.extras.map fun extra => extra.time

inductive Event where
  | tick (calls : Option Calls)
  | clear
deriving DecidableEq

/-- `CalibrationCalc::Clear`. -/
def clear (monitor : Monitor) : Monitor :=
  { monitor with calibrationValid := false, history := [], spikes := 0 }

/-- The watchdog at the top of the tick. -/
def watch (monitor : Monitor) : Monitor :=
  let watched := watchdogTick false monitor.calibrationValid monitor.errors monitor.watchdog
  let after := { monitor with
    watchdog := watched.2
    missed := monitor.missed ||
      (decide (kMinSustainedSpikes ≤ monitor.spikes) && monitor.calibrationValid && !watched.1) }
  if watched.1 then clear after else after

/-- The ghost fields after a call. -/
def observe (call : Solve) (monitor : Monitor) : Monitor :=
  match currentError monitor.calibrationValid call with
  | some error =>
    { monitor with
      history := monitor.history ++ [(call.time, error)]
      spikes := if isSpikeOfHistory monitor.history error then monitor.spikes + 1 else 0
      withheld := monitor.withheld || (recordedError monitor.calibrationValid call).isNone }
  | none => { monitor with spikes := 0 }

/-- `ComputeIncremental` of the primary calibration. -/
def computeIncremental (call : Solve) (monitor : Monitor) : Monitor :=
  let recorded := { observe call monitor with
    errors := pushError call.time (recordedError monitor.calibrationValid call) monitor.errors }
  if call.samples < minimumSamples then recorded
  else if call.solveValid then { recorded with calibrationValid := true }
  else clear recorded

/-- The calls of the tick. -/
def solve (calls : Calls) (monitor : Monitor) : Monitor :=
  let solved := computeIncremental calls.primary monitor
  { solved with
    errors := calls.extras.foldl pushExtra solved.errors
    clock := calls.times.getLastD monitor.clock }

/-- Time does not run backward: a tick's calls come after those of the ticks before. -/
def step (monitor : Monitor) : Event → Option Monitor
  | .tick none => some (watch monitor)
  | .tick (some calls) =>
    if monitor.clock < calls.primary.time ∧ calls.times.IsChain (· ≤ ·) then
      some (solve calls (watch monitor))
    else none
  | .clear => some (clear monitor)

/-! ### The condition -/

/-- The watchdog's window after the call holds five errors and takes this one for a spike. -/
def seenAsSpike (call : Solve) (monitor : Monitor) : Bool :=
  let series := push call.time (call.rmsError * 1000) monitor.errors
  decide (5 ≤ series.length) && isCurrentErrorSpike (call.rmsError * 1000) (rollingMedian series)

/-- The error of a valid calibration passes the validation threshold. One that is a spike against
the thirty before it is also a spike against the watchdog's window, and no additional calibration
records an error after it in the same tick. -/
def ReachesWatchdog (monitor : Monitor) (calls : Calls) : Prop :=
  match currentError monitor.calibrationValid calls.primary with
  | some error =>
    validateCalibration calls.primary = true ∧
      (isSpikeOfHistory monitor.history error = true →
        seenAsSpike calls.primary monitor = true ∧
          ∀ extra ∈ calls.extras, recordedExtra extra = none)
  | none => True

instance (monitor : Monitor) (calls : Calls) : Decidable (ReachesWatchdog monitor calls) :=
  match found : currentError monitor.calibrationValid calls.primary with
  | some error =>
    decidable_of_iff (validateCalibration calls.primary = true ∧
      (isSpikeOfHistory monitor.history error = true →
        seenAsSpike calls.primary monitor = true ∧
          ∀ extra ∈ calls.extras, recordedExtra extra = none))
      (by rw [ReachesWatchdog, found])
  | none => isTrue (by rw [ReachesWatchdog, found]; trivial)

/-- Every error of the current calibration reaches the watchdog. -/
def ErrorsReachWatchdog (monitor : Monitor) : Event → Prop
  | .tick (some calls) => ReachesWatchdog (watch monitor) calls
  | _ => True

instance (monitor : Monitor) (event : Event) : Decidable (ErrorsReachWatchdog monitor event) :=
  match event with
  | .tick (some calls) => inferInstanceAs (Decidable (ReachesWatchdog (watch monitor) calls))
  | .tick none => isTrue trivial
  | .clear => isTrue trivial

/-! ### The series -/

/-- A push drops old points only: the new point is the last of the series. -/
theorem getLast?_dropOld {cutoff : Rat} {point : Rat × Rat} (recent : ¬point.1 < cutoff)
    (series : List (Rat × Rat)) :
    (dropOld cutoff (series ++ [point])).getLast? = some point := by
  induction series with
  | nil =>
    show (dropOld cutoff [point]).getLast? = some point
    rw [dropOld, if_neg (not_or.mpr ⟨recent, by decide⟩)]
    rfl
  | cons first rest inductionHypothesis =>
    rw [List.cons_append, dropOld]
    split
    · exact inductionHypothesis
    · rw [← List.cons_append, List.getLast?_append]
      rfl

theorem getLast?_push (now value : Rat) (series : List (Rat × Rat)) :
    (push now value series).getLast? = some (now, value) := by
  refine getLast?_dropOld (not_lt.mpr ?_) series
  show now - timeSpan ≤ now
  have spanPositive : (0 : Rat) ≤ timeSpan := by decide
  linarith

/-- No point of the series is newer than `time`; only the last one matters. -/
def NewestBy (time : Rat) (series : List (Rat × Rat)) : Prop :=
  ∀ newest, series.getLast? = some newest → newest.1 ≤ time

theorem NewestBy.mono {time later : Rat} {series : List (Rat × Rat)}
    (newest : NewestBy time series) (passed : time ≤ later) : NewestBy later series :=
  fun point last => (newest point last).trans passed

theorem NewestBy.pushError {time : Rat} {series : List (Rat × Rat)} (error : Option Rat)
    (newest : NewestBy time series) : NewestBy time (pushError time error series) := by
  cases error with
  | none => exact newest
  | some value =>
    intro point last
    rw [GeometryShift.pushError, getLast?_push] at last
    obtain rfl : (time, value) = point := Option.some.inj last
    exact le_refl time

/-- The additional calibrations leave the series no newer than the last of their calls. -/
theorem NewestBy.pushExtras {time : Rat} {series : List (Rat × Rat)} (extras : List ExtraSolve)
    (newest : NewestBy time series)
    (ordered : (time :: extras.map fun extra => extra.time).IsChain (· ≤ ·)) :
    NewestBy ((time :: extras.map fun extra => extra.time).getLastD time)
      (extras.foldl pushExtra series) := by
  induction extras generalizing time series with
  | nil => exact newest
  | cons extra rest inductionHypothesis =>
    obtain ⟨before, laterOrdered⟩ := List.isChain_cons_cons.mp ordered
    exact inductionHypothesis ((newest.mono before).pushError (recordedExtra extra)) laterOrdered

theorem first_le_last {time : Rat} {times : List Rat} (ordered : (time :: times).IsChain (· ≤ ·)) :
    time ≤ (time :: times).getLastD time := by
  induction times generalizing time with
  | nil => exact le_refl time
  | cons next rest inductionHypothesis =>
    obtain ⟨before, laterOrdered⟩ := List.isChain_cons_cons.mp ordered
    exact before.trans (inductionHypothesis laterOrdered)

/-- Additional calibrations that record nothing leave the series as it is. -/
theorem foldl_pushExtra_of_silent {extras : List ExtraSolve}
    (silent : ∀ extra ∈ extras, recordedExtra extra = none) (series : List (Rat × Rat)) :
    extras.foldl pushExtra series = series := by
  induction extras with
  | nil => rfl
  | cons extra rest inductionHypothesis =>
    rw [List.foldl_cons, pushExtra, silent extra List.mem_cons_self]
    exact inductionHypothesis fun other member => silent other (List.mem_cons_of_mem _ member)

/-! ### The watchdog reads every error once -/

/-- The spikes in a row after an error. -/
def countSpike (series : List (Rat × Rat)) (error : Rat) (consecutive : Nat) : Nat :=
  if isCurrentErrorSpike error (rollingMedian series) then consecutive + 1 else 0

/-- The count the watchdog comes to at its next tick. -/
def pending (series : List (Rat × Rat)) (watchdog : Watchdog) : Nat :=
  match series.getLast? with
  | some newest =>
    if watchdog.lastErrorTs < newest.1 then
      countSpike series newest.2 watchdog.consecutiveBadTicks
    else watchdog.consecutiveBadTicks
  | none => watchdog.consecutiveBadTicks

/-- With the rolling median, an error that makes the third spike in a row fires and starts the
count again. -/
theorem readSample_eq (series : List (Rat × Rat)) (newest : Rat × Rat) (watchdog : Watchdog) :
    readSample false series newest watchdog =
      if kMinSustainedSpikes ≤ countSpike series newest.2 watchdog.consecutiveBadTicks then
        (true, ⟨0, newest.1, 0⟩)
      else (false, ⟨countSpike series newest.2 watchdog.consecutiveBadTicks, newest.1, 0⟩) := by
  show (if decide (kMinSustainedSpikes ≤
      countSpike series newest.2 watchdog.consecutiveBadTicks) = true then
        (true, (⟨0, newest.1, 0⟩ : Watchdog))
      else (decide (kMinSustainedSpikes ≤
        countSpike series newest.2 watchdog.consecutiveBadTicks), ⟨_, newest.1, 0⟩)) = _
  by_cases third : kMinSustainedSpikes ≤ countSpike series newest.2 watchdog.consecutiveBadTicks
  · rw [if_pos (decide_eq_true third), if_pos third]
  · rw [decide_eq_false third, if_neg Bool.false_ne_true, if_neg third]
    rfl

/-- A tick of the watchdog keeps its count below the limit, and its time stamp at an error it has
read. -/
theorem watchdogTick_bounds (calibrationValid : Bool) {series : List (Rat × Rat)}
    {watchdog : Watchdog} {clock : Rat} (counter : watchdog.consecutiveBadTicks < kMinSustainedSpikes)
    (stamp : watchdog.lastErrorTs ≤ clock) (newestBy : NewestBy clock series) :
    (watchdogTick false calibrationValid series watchdog).2.consecutiveBadTicks <
        kMinSustainedSpikes ∧
      (watchdogTick false calibrationValid series watchdog).2.lastErrorTs ≤ clock := by
  have positive : 0 < kMinSustainedSpikes := by decide
  unfold watchdogTick
  cases last : series.getLast? with
  | none => exact ⟨positive, stamp⟩
  | some newest =>
    dsimp only
    split
    · split
      · rw [readSample_eq]
        split
        · exact ⟨positive, newestBy newest last⟩
        · rename_i fewer
          exact ⟨not_le.mp fewer, newestBy newest last⟩
      · exact ⟨counter, stamp⟩
    · exact ⟨positive, stamp⟩

/-- With a valid calibration and five errors the watchdog reads an error it has not read yet. -/
theorem watchdogTick_eq {series : List (Rat × Rat)} {newest : Rat × Rat}
    (last : series.getLast? = some newest) (enough : 5 ≤ series.length) (watchdog : Watchdog) :
    watchdogTick false true series watchdog =
      if watchdog.lastErrorTs < newest.1 then readSample false series newest watchdog
      else (false, watchdog) := by
  unfold watchdogTick
  rw [last]
  exact if_pos ⟨enough, rfl⟩

theorem pending_eq {series : List (Rat × Rat)} {newest : Rat × Rat}
    (last : series.getLast? = some newest) (watchdog : Watchdog) :
    pending series watchdog =
      if watchdog.lastErrorTs < newest.1 then
        countSpike series newest.2 watchdog.consecutiveBadTicks
      else watchdog.consecutiveBadTicks := by
  rw [pending, last]

/-- With a valid calibration and five errors, a tick that does not fire leaves the count it came
to, which is below the limit, and will come to the same count without a new error. -/
theorem watchdogTick_silent {series : List (Rat × Rat)} {watchdog : Watchdog}
    (counter : watchdog.consecutiveBadTicks < kMinSustainedSpikes) (enough : 5 ≤ series.length)
    (silent : (watchdogTick false true series watchdog).1 = false) :
    (watchdogTick false true series watchdog).2.consecutiveBadTicks = pending series watchdog ∧
      pending series (watchdogTick false true series watchdog).2 = pending series watchdog ∧
      pending series watchdog < kMinSustainedSpikes := by
  cases last : series.getLast? with
  | none =>
    rw [List.getLast?_eq_none_iff] at last
    rw [last] at enough
    cases enough
  | some newest =>
    rw [watchdogTick_eq last enough] at silent ⊢
    by_cases unread : watchdog.lastErrorTs < newest.1
    · rw [if_pos unread, readSample_eq] at silent ⊢
      rw [pending_eq last watchdog, if_pos unread]
      split
      · rename_i third
        rw [if_pos third] at silent
        cases silent
      · rename_i fewer
        refine ⟨rfl, ?_, not_le.mp fewer⟩
        rw [pending_eq last]
        exact if_neg (lt_irrefl _)
    · rw [if_neg unread]
      refine ⟨?_, rfl, ?_⟩ <;> rw [pending_eq last, if_neg unread]
      exact counter

/-! ### The invariant -/

/-- What holds of the monitor: the watchdog has missed nothing and no error was withheld, and while
spikes are counted, the calibration is valid, the series is long enough and `count` keeps up with
them. -/
structure Sound (count : Nat) (monitor : Monitor) : Prop where
  counter : monitor.watchdog.consecutiveBadTicks < kMinSustainedSpikes
  stamp : monitor.watchdog.lastErrorTs ≤ monitor.clock
  newest : NewestBy monitor.clock monitor.errors
  complete : monitor.missed = false
  recorded : monitor.withheld = false
  counted : 0 < monitor.spikes →
    monitor.calibrationValid = true ∧ 5 ≤ monitor.errors.length ∧ monitor.spikes ≤ count

/-- Between two ticks the count is the one the watchdog comes to next. -/
def Tracked (monitor : Monitor) : Prop :=
  Sound (pending monitor.errors monitor.watchdog) monitor

theorem sound_clear {count : Nat} {monitor : Monitor} (sound : Sound count monitor) (other : Nat) :
    Sound other (clear monitor) where
  counter := sound.counter
  stamp := sound.stamp
  newest := sound.newest
  complete := sound.complete
  recorded := sound.recorded
  counted := fun counting => absurd counting (Nat.lt_irrefl 0)

/-- The watchdog's phase keeps the monitor sound for every count that a silent watchdog comes to. -/
theorem sound_watch {monitor : Monitor} (tracked : Tracked monitor) {count : Nat}
    (reached : monitor.calibrationValid = true → 5 ≤ monitor.errors.length →
      (watchdogTick false true monitor.errors monitor.watchdog).1 = false →
      pending monitor.errors monitor.watchdog ≤ count) :
    Sound count (watch monitor) := by
  obtain ⟨counter, stamp⟩ := watchdogTick_bounds monitor.calibrationValid tracked.counter
    tracked.stamp tracked.newest
  unfold watch
  dsimp only
  cases fired : (watchdogTick false monitor.calibrationValid monitor.errors monitor.watchdog).1 with
  | true =>
    rw [if_pos rfl]
    exact
      { counter := counter
        stamp := stamp
        newest := tracked.newest
        complete := by
          show (monitor.missed || _ && !true) = false
          rw [tracked.complete, Bool.not_true, Bool.and_false, Bool.or_false]
        recorded := tracked.recorded
        counted := fun counting => absurd counting (Nat.lt_irrefl 0) }
  | false =>
    have fewer : ¬kMinSustainedSpikes ≤ monitor.spikes := by
      intro third
      obtain ⟨valid, enough, kept⟩ := tracked.counted (lt_of_lt_of_le (by decide) third)
      rw [valid] at fired
      exact absurd ((third.trans kept).trans_lt
        (watchdogTick_silent tracked.counter enough fired).2.2) (lt_irrefl _)
    rw [if_neg Bool.false_ne_true]
    exact
      { counter := counter
        stamp := stamp
        newest := tracked.newest
        complete := by
          show (monitor.missed || decide (kMinSustainedSpikes ≤ monitor.spikes) && _ && _) = false
          rw [tracked.complete, decide_eq_false fewer, Bool.false_and, Bool.false_and,
            Bool.or_false]
        recorded := tracked.recorded
        counted := by
          intro counting
          obtain ⟨valid, enough, kept⟩ := tracked.counted counting
          rw [valid] at fired
          exact ⟨valid, enough, kept.trans (reached valid enough fired)⟩ }

/-- The watchdog of a monitor after its phase. -/
theorem watch_watchdog (monitor : Monitor) :
    (watch monitor).watchdog =
      (watchdogTick false monitor.calibrationValid monitor.errors monitor.watchdog).2 := by
  unfold watch
  dsimp only
  split_ifs <;> rfl

theorem watch_errors (monitor : Monitor) : (watch monitor).errors = monitor.errors := by
  unfold watch
  dsimp only
  split_ifs <;> rfl

/-- After its phase the watchdog has read the newest error: its own count keeps up. -/
theorem sound_counter_watch {monitor : Monitor} (tracked : Tracked monitor) :
    Sound (watch monitor).watchdog.consecutiveBadTicks (watch monitor) := by
  refine sound_watch tracked fun valid enough silent => ?_
  rw [watch_watchdog, valid]
  exact (watchdogTick_silent tracked.counter enough silent).1.ge

/-- A tick without a call leaves the monitor tracked. -/
theorem tracked_watch {monitor : Monitor} (tracked : Tracked monitor) : Tracked (watch monitor) := by
  refine sound_watch tracked fun valid enough silent => ?_
  rw [watch_watchdog, watch_errors, valid]
  exact (watchdogTick_silent tracked.counter enough silent).2.1.ge

/-- What a call leaves alone, and the series it leaves. -/
theorem computeIncremental_frame (call : Solve) (monitor : Monitor) :
    (computeIncremental call monitor).watchdog = monitor.watchdog ∧
      (computeIncremental call monitor).missed = monitor.missed ∧
      (computeIncremental call monitor).errors =
        pushError call.time (recordedError monitor.calibrationValid call) monitor.errors := by
  unfold computeIncremental observe
  cases currentError monitor.calibrationValid call <;> dsimp only <;> split_ifs <;>
    exact ⟨rfl, rfl, rfl⟩

/-- A call at which the calibration has no error ends the spikes. -/
theorem computeIncremental_of_no_error {call : Solve} {monitor : Monitor}
    (none : currentError monitor.calibrationValid call = none) :
    (computeIncremental call monitor).spikes = 0 ∧
      (computeIncremental call monitor).withheld = monitor.withheld := by
  unfold computeIncremental observe
  rw [none]
  dsimp only
  split_ifs <;> exact ⟨rfl, rfl⟩

/-- A call whose error passes the threshold withholds nothing, and counts a spike only with a
calibration that stays valid. -/
theorem computeIncremental_of_error {call : Solve} {monitor : Monitor} {error : Rat}
    (found : currentError monitor.calibrationValid call = some error)
    (validated : validateCalibration call = true) :
    (computeIncremental call monitor).withheld = monitor.withheld ∧
      (0 < (computeIncremental call monitor).spikes →
        isSpikeOfHistory monitor.history error = true ∧
          (computeIncremental call monitor).calibrationValid = true ∧
          (computeIncremental call monitor).spikes = monitor.spikes + 1) := by
  have kept : (monitor.withheld ||
      (recordedError monitor.calibrationValid call).isNone) = monitor.withheld := by
    rw [recordedError, if_pos validated, found, Option.isNone_some, Bool.or_false]
  have enough : ¬call.samples < minimumSamples := by
    unfold currentError at found
    split at found
    · rename_i present
      exact not_lt.mpr present.1
    · cases found
  unfold computeIncremental observe
  rw [found]
  dsimp only
  rw [if_neg enough]
  cases call.solveValid with
  | false => exact ⟨kept, fun counting => absurd counting (Nat.lt_irrefl 0)⟩
  | true =>
    refine ⟨kept, fun counting => ?_⟩
    cases spike : isSpikeOfHistory monitor.history error with
    | true => exact ⟨rfl, rfl, by rw [if_pos rfl, if_pos rfl]⟩
    | false =>
      rw [if_pos rfl, spike, if_neg Bool.false_ne_true] at counting
      exact absurd counting (Nat.lt_irrefl 0)

/-- The error of a call is its root-mean-square error in millimetres. -/
theorem currentError_eq {calibrationValid : Bool} {call : Solve} {error : Rat}
    (found : currentError calibrationValid call = some error) : error = call.rmsError * 1000 := by
  unfold currentError at found
  split at found
  · exact (Option.some.inj found).symm
  · cases found

/-- A spike the watchdog can see raises the count it comes to next. -/
theorem pending_of_seen {call : Solve} {monitor : Monitor}
    (later : monitor.watchdog.lastErrorTs < call.time)
    (seen : seenAsSpike call monitor = true) :
    5 ≤ (push call.time (call.rmsError * 1000) monitor.errors).length ∧
      pending (push call.time (call.rmsError * 1000) monitor.errors) monitor.watchdog =
        monitor.watchdog.consecutiveBadTicks + 1 := by
  obtain ⟨enough, spike⟩ := (Bool.and_eq_true _ _).mp seen
  refine ⟨of_decide_eq_true enough, ?_⟩
  rw [pending, getLast?_push]
  dsimp only
  rw [if_pos later, countSpike, if_pos spike]

theorem Sound.keepsUp {count : Nat} {monitor : Monitor} (sound : Sound count monitor) :
    monitor.spikes ≤ count := by
  rcases Nat.eq_zero_or_pos monitor.spikes with none | counting
  · rw [none]
    exact Nat.zero_le _
  · exact (sound.counted counting).2.2

/-- A call whose error reaches the watchdog withholds nothing, and a spike it counts is pending. -/
theorem solve_observed {monitor : Monitor} {calls : Calls}
    (sound : Sound monitor.watchdog.consecutiveBadTicks monitor)
    (later : monitor.clock < calls.primary.time) (reaches : ReachesWatchdog monitor calls) :
    (solve calls monitor).withheld = false ∧
      (0 < (solve calls monitor).spikes → (solve calls monitor).calibrationValid = true ∧
        5 ≤ (solve calls monitor).errors.length ∧
        (solve calls monitor).spikes ≤
          pending (solve calls monitor).errors (solve calls monitor).watchdog) := by
  obtain ⟨watchdogKept, -, series⟩ := computeIncremental_frame calls.primary monitor
  unfold ReachesWatchdog at reaches
  cases found : currentError monitor.calibrationValid calls.primary with
  | none =>
    obtain ⟨ended, kept⟩ := computeIncremental_of_no_error found
    refine ⟨kept.trans sound.recorded, fun counting => ?_⟩
    exact absurd (ended ▸ counting) (Nat.lt_irrefl 0)
  | some error =>
    rw [found] at reaches
    obtain ⟨validated, seenWhenSpike⟩ := reaches
    obtain ⟨kept, spikeCounted⟩ := computeIncremental_of_error found validated
    refine ⟨kept.trans sound.recorded, fun counting => ?_⟩
    obtain ⟨spike, valid, raised⟩ := spikeCounted counting
    obtain ⟨seen, silent⟩ := seenWhenSpike spike
    obtain ⟨enough, seenPending⟩ := pending_of_seen (sound.stamp.trans_lt later) seen
    have errors : (solve calls monitor).errors =
        push calls.primary.time (calls.primary.rmsError * 1000) monitor.errors := by
      show calls.extras.foldl pushExtra (computeIncremental calls.primary monitor).errors = _
      rw [foldl_pushExtra_of_silent silent, series, recordedError, if_pos validated, found,
        currentError_eq found]
      rfl
    refine ⟨valid, errors ▸ enough, ?_⟩
    show (computeIncremental calls.primary monitor).spikes ≤
      pending _ (computeIncremental calls.primary monitor).watchdog
    rw [errors, watchdogKept, seenPending, raised]
    exact Nat.succ_le_succ sound.keepsUp

/-- A call whose error reaches the watchdog leaves a count that keeps up with the spikes. -/
theorem tracked_solve {monitor : Monitor} {calls : Calls}
    (sound : Sound monitor.watchdog.consecutiveBadTicks monitor)
    (later : monitor.clock < calls.primary.time) (ordered : calls.times.IsChain (· ≤ ·))
    (reaches : ReachesWatchdog monitor calls) : Tracked (solve calls monitor) := by
  obtain ⟨watchdogKept, missedKept, series⟩ := computeIncremental_frame calls.primary monitor
  obtain ⟨recorded, counted⟩ := solve_observed sound later reaches
  have passed : monitor.clock ≤ (solve calls monitor).clock :=
    later.le.trans (first_le_last ordered)
  exact
    { counter := by
        show (computeIncremental calls.primary monitor).watchdog.consecutiveBadTicks < _
        rw [watchdogKept]
        exact sound.counter
      stamp := by
        show (computeIncremental calls.primary monitor).watchdog.lastErrorTs ≤ _
        rw [watchdogKept]
        exact sound.stamp.trans passed
      newest := by
        have primary : NewestBy calls.primary.time
            (computeIncremental calls.primary monitor).errors := by
          rw [series]
          exact (sound.newest.mono later.le).pushError _
        exact primary.pushExtras calls.extras ordered
      complete := missedKept.trans sound.complete
      recorded := recorded
      counted := counted }

theorem watch_clock (monitor : Monitor) : (watch monitor).clock = monitor.clock := by
  unfold watch
  dsimp only
  split_ifs <;> rfl

theorem tracked_step {monitor after : Monitor} {event : Event} (tracked : Tracked monitor)
    (reaches : ErrorsReachWatchdog monitor event) (stepped : step monitor event = some after) :
    Tracked after := by
  cases event with
  | clear =>
    obtain rfl : clear monitor = after := Option.some.inj stepped
    exact sound_clear tracked _
  | tick calls =>
    cases calls with
    | none =>
      obtain rfl : watch monitor = after := Option.some.inj stepped
      exact tracked_watch tracked
    | some calls =>
      dsimp only [step] at stepped
      split at stepped
      · rename_i enabled
        obtain rfl : solve calls (watch monitor) = after := Option.some.inj stepped
        refine tracked_solve (sound_counter_watch tracked) ?_ enabled.2 reaches
        rw [watch_clock]
        exact enabled.1
      · cases stepped

theorem tracked_start : Tracked {} where
  counter := by decide
  stamp := le_refl _
  newest := by
    intro newest last
    cases last
  complete := rfl
  recorded := rfl
  counted := fun counting => absurd counting (Nat.lt_irrefl 0)

/-! ### Completeness -/

/-- In every run whose errors all reach the watchdog, no error of the current calibration is
withheld from it, and it fires by the tick after the third spike in a row. -/
theorem watchdog_is_complete {monitor : Monitor}
    (reached : Reaches step ErrorsReachWatchdog {} monitor) :
    monitor.missed = false ∧ monitor.withheld = false := by
  have tracked : Tracked monitor := reached.invariant tracked_start fun _ _ _ before met stepped =>
    tracked_step before met stepped
  exact ⟨tracked.complete, tracked.recorded⟩

/-- A tick with one call of the primary calibration, at the given tenth of a second. -/
def solvedTick (tenths : Nat) (rmsError rmsThreshold : Rat) : Event :=
  .tick (some ⟨⟨tenths / 10, 100, rmsError, rmsThreshold, true⟩, []⟩)

/-- A calibration that becomes valid, is off by a millimetre at thirty calls and by a hundred at
the next three. -/
def shiftedSession (rmsThreshold : Rat) : List Event :=
  ((List.range 31).map fun index => solvedTick (index + 1) (1 / 1000) rmsThreshold) ++
    (List.range 3).map fun index => solvedTick (index + 32) (1 / 10) rmsThreshold

/-- With a threshold the shifted calibration passes, its errors reach the watchdog, which fires at
the next tick. -/
theorem watchdog_is_complete_shifted :
    ∃ monitor, Reaches step ErrorsReachWatchdog {} monitor ∧ monitor.spikes = 3 ∧
      monitor.calibrationValid = true ∧ (watch monitor).calibrationValid = false ∧
      monitor.missed = false ∧ monitor.withheld = false := by
  obtain ⟨monitor, reached, spikes, valid, fires⟩ : ∃ monitor,
      Reaches step ErrorsReachWatchdog {} monitor ∧ monitor.spikes = 3 ∧
        monitor.calibrationValid = true ∧ (watch monitor).calibrationValid = false :=
    reaches_evaluates (shiftedSession (1 / 5)) (by decide +kernel)
  exact ⟨monitor, reached, spikes, valid, fires, watchdog_is_complete reached⟩

/-- At the smallest threshold the same errors are withheld: the calibration stays valid, and the
tick after the third spike does not fire. -/
theorem large_errors_withheld :
    ∃ monitor, run step {} (shiftedSession (1 / 200) ++ [Event.tick none]) = some monitor ∧
      monitor.calibrationValid = true ∧ monitor.withheld = true ∧ monitor.missed = true :=
  run_evaluates (by decide +kernel)

end PairDriver.GeometryShift
