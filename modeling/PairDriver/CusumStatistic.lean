/-
This file proves what the statistic of the CUSUM detector is: the largest sum of
error minus baseline minus drift over the windows of readings that end now, or
zero if that is more. So the detector fires at a reading exactly if some window
that ends there exceeds the threshold.

The readings that count are those since the detector last fired or was reset. The
watchdog of the calibration tick feeds the detector in this way.
-/

import PairDriver.GeometryShift
import PairDriver.MaximalSuffix

namespace PairDriver.GeometryShift

open MaximalSuffix (level windowSums)

/-! ### The detector -/

/-- `UpdateCusumGeometryShift` with a drift and a threshold of the caller. -/
def updateCusum (driftMm threshold statistic currentErrorMm baselineMm : Rat) : Bool × Rat :=
  let increment := currentErrorMm - baselineMm - driftMm
  let raised := statistic + increment
  let kept := if raised < 0 then 0 else raised
  if threshold < kept then (true, 0) else (false, kept)

theorem updateCusum_eq (driftMm threshold statistic currentErrorMm baselineMm : Rat) :
    updateCusum driftMm threshold statistic currentErrorMm baselineMm =
      let kept := MaximalSuffix.raise statistic (currentErrorMm - baselineMm - driftMm)
      if threshold < kept then (true, 0) else (false, kept) := by
  have clamped : ∀ raised : Rat, (if raised < 0 then 0 else raised) = max 0 raised := by
    intro raised
    rw [max_comm, max_def_lt]
  unfold updateCusum MaximalSuffix.raise
  dsimp only
  rw [clamped]

/-- Without the two arguments the detector has the drift and the threshold of the header. -/
theorem updateCusumGeometryShift_eq (statistic currentErrorMm baselineMm : Rat) :
    updateCusumGeometryShift statistic currentErrorMm baselineMm =
      updateCusum kCusumDriftMm kCusumThreshold statistic currentErrorMm baselineMm := by
  rw [updateCusum_eq]
  rfl

/-! ### Runs -/

inductive CusumEvent where
  | reading (currentErrorMm baselineMm : Rat)
  | reset

/-- The statistic, and the readings since the detector last fired or was reset, each an error and
a baseline. -/
structure CusumTrace where
  statistic : Rat := 0
  since : List (Rat × Rat) := []

namespace CusumTrace

def next (driftMm threshold : Rat) (trace : CusumTrace) : CusumEvent → CusumTrace
  | .reading currentErrorMm baselineMm =>
    let update := updateCusum driftMm threshold trace.statistic currentErrorMm baselineMm
    { statistic := update.2
      since := if update.1 then [] else trace.since ++ [(currentErrorMm, baselineMm)] }
  | .reset => {}

/-- The detector after a sequence of readings and resets. -/
def after (driftMm threshold : Rat) (events : List CusumEvent) : CusumTrace :=
  events.foldl (next driftMm threshold) {}

end CusumTrace

/-- What each reading adds to the statistic. -/
def increments (driftMm : Rat) (readings : List (Rat × Rat)) : List Rat :=
  readings.map fun reading => reading.1 - reading.2 - driftMm

theorem statistic_eq_level (driftMm threshold : Rat) (events : List CusumEvent) :
    (CusumTrace.after driftMm threshold events).statistic =
      level (increments driftMm (CusumTrace.after driftMm threshold events).since) := by
  induction events using List.reverseRecOn with
  | nil => rfl
  | append_singleton events event inductionHypothesis =>
    unfold CusumTrace.after at inductionHypothesis ⊢
    rw [List.foldl_append, List.foldl_cons, List.foldl_nil]
    cases event with
    | reset => rfl
    | reading currentErrorMm baselineMm =>
      simp only [CusumTrace.next, updateCusum_eq]
      split
      · rfl
      · rw [inductionHypothesis, ← MaximalSuffix.level_append]
        simp [increments]

theorem updateCusum_fires_iff (driftMm threshold : Rat) (events : List CusumEvent)
    (currentErrorMm baselineMm : Rat) :
    (updateCusum driftMm threshold (CusumTrace.after driftMm threshold events).statistic
      currentErrorMm baselineMm).1 = true ↔
      threshold < 0 ∨ ∃ total ∈ windowSums (increments driftMm
        ((CusumTrace.after driftMm threshold events).since ++ [(currentErrorMm, baselineMm)])),
        threshold < total := by
  rw [← MaximalSuffix.lt_level_iff, increments, List.map_append, List.map_cons, List.map_nil,
    MaximalSuffix.level_append, ← increments, ← statistic_eq_level, updateCusum_eq]
  dsimp only
  split
  · next exceeds => exact ⟨fun _ => exceeds, fun _ => rfl⟩
  · next below => exact ⟨fun fired => absurd fired (by simp), fun exceeds => absurd exceeds below⟩

/-- At any time the statistic is zero or the largest sum over a window of the readings since the
detector last fired or was reset, whichever is greater, and the next reading fires exactly if the
sum over a window that ends with it exceeds the threshold; below zero every reading exceeds it. -/
theorem cusum_maximal_window_sum :
    (∀ (driftMm threshold : Rat) (events : List CusumEvent),
      let trace := CusumTrace.after driftMm threshold events
      IsGreatest (insert 0 (windowSums (increments driftMm trace.since))) trace.statistic ∧
      ∀ currentErrorMm baselineMm,
        (updateCusum driftMm threshold trace.statistic currentErrorMm baselineMm).1 = true ↔
          threshold < 0 ∨ ∃ total ∈ windowSums (increments driftMm
            (trace.since ++ [(currentErrorMm, baselineMm)])), threshold < total) ∧
    ∀ (events : List CusumEvent) (currentErrorMm baselineMm : Rat),
      let trace := CusumTrace.after kCusumDriftMm kCusumThreshold events
      (updateCusumGeometryShift trace.statistic currentErrorMm baselineMm).1 = true ↔
        ∃ total ∈ windowSums (increments kCusumDriftMm
          (trace.since ++ [(currentErrorMm, baselineMm)])), kCusumThreshold < total := by
  refine ⟨fun driftMm threshold events =>
    ⟨?_, updateCusum_fires_iff driftMm threshold events⟩, ?_⟩
  · rw [statistic_eq_level]
    exact MaximalSuffix.isGreatest_level _
  · intro events currentErrorMm baselineMm
    have positive : ¬kCusumThreshold < 0 := by decide +kernel
    dsimp only
    rw [updateCusumGeometryShift_eq, updateCusum_fires_iff, or_iff_right positive]

/-! ### The watchdog -/

/-- What a tick of the watchdog gives to the detector. -/
def cusumEvents (useCusum calibrationValid : Bool) (series : List (Rat × Rat))
    (watchdog : Watchdog) : List CusumEvent :=
  match series.getLast? with
  | some newest =>
    if 5 ≤ series.length ∧ calibrationValid then
      if watchdog.lastErrorTs < newest.1 then
        if useCusum then [.reading newest.2 (rollingMedian series)] else [.reset]
      else []
    else [.reset]
  | none => [.reset]

theorem updateCusumGeometryShift_fired {statistic currentErrorMm baselineMm : Rat}
    (fired : (updateCusumGeometryShift statistic currentErrorMm baselineMm).1 = true) :
    (updateCusumGeometryShift statistic currentErrorMm baselineMm).2 = 0 := by
  unfold updateCusumGeometryShift at fired ⊢
  dsimp only at fired ⊢
  split at fired
  · next exceeds => rw [if_pos exceeds]
  · exact absurd fired (by simp)

theorem readSample_cusum (series : List (Rat × Rat)) (newest : Rat × Rat) (watchdog : Watchdog) :
    (readSample true series newest watchdog).2.cusum =
      (updateCusumGeometryShift watchdog.cusum newest.2 (rollingMedian series)).2 := by
  simp only [readSample, if_true]
  split
  · next fired => exact (updateCusumGeometryShift_fired fired).symm
  · rfl

theorem readSample_spike_cusum (series : List (Rat × Rat)) (newest : Rat × Rat)
    (watchdog : Watchdog) : (readSample false series newest watchdog).2.cusum = 0 := by
  simp only [readSample, Bool.false_eq_true, if_false]
  split <;> split <;> rfl

/-- The statistic of the watchdog is that of the detector over what the ticks gave to it. -/
theorem watchdogTick_cusum (useCusum calibrationValid : Bool) (series : List (Rat × Rat))
    {watchdog : Watchdog} {events : List CusumEvent}
    (traced : watchdog.cusum =
      (CusumTrace.after kCusumDriftMm kCusumThreshold events).statistic) :
    (watchdogTick useCusum calibrationValid series watchdog).2.cusum =
      (CusumTrace.after kCusumDriftMm kCusumThreshold
        (events ++ cusumEvents useCusum calibrationValid series watchdog)).statistic := by
  unfold CusumTrace.after at traced ⊢
  rw [List.foldl_append]
  unfold watchdogTick cusumEvents
  cases series.getLast? with
  | none => rfl
  | some newest =>
    dsimp only
    split
    · split
      · cases useCusum with
        | true =>
          rw [readSample_cusum, updateCusumGeometryShift_eq, traced]
          rfl
        | false =>
          rw [readSample_spike_cusum]
          rfl
      · exact traced
    · rfl

/-- A tick of the watchdog: whether it uses the detector, whether the calibration is valid, and the
errors. -/
abbrev WatchdogInput := Bool × Bool × List (Rat × Rat)

/-- The watchdog after some ticks, and what they gave to the detector. -/
def watchdogAfter (ticks : List WatchdogInput) : Watchdog × List CusumEvent :=
  ticks.foldl (fun run tick =>
    ((watchdogTick tick.1 tick.2.1 tick.2.2 run.1).2,
      run.2 ++ cusumEvents tick.1 tick.2.1 tick.2.2 run.1)) ({}, [])

theorem watchdogAfter_cusum (ticks : List WatchdogInput) :
    (watchdogAfter ticks).1.cusum =
      (CusumTrace.after kCusumDriftMm kCusumThreshold (watchdogAfter ticks).2).statistic := by
  induction ticks using List.reverseRecOn with
  | nil => rfl
  | append_singleton ticks tick inductionHypothesis =>
    rw [watchdogAfter, List.foldl_concat]
    exact watchdogTick_cusum tick.1 tick.2.1 tick.2.2 inductionHypothesis

/-- After any ticks, with the detector or without, a tick with the detector fires exactly if the
calibration is valid, there are five errors of which the last is new, and over some window of what
the detector was given since it last fired or was reset, with the new error at its end, the errors
exceed the medians by more than the drift and the threshold. -/
theorem watchdog_fires_iff (ticks : List WatchdogInput) (calibrationValid : Bool)
    (series : List (Rat × Rat)) :
    (watchdogTick true calibrationValid series (watchdogAfter ticks).1).1 = true ↔
      calibrationValid = true ∧ 5 ≤ series.length ∧
        ∃ newest, series.getLast? = some newest ∧
          (watchdogAfter ticks).1.lastErrorTs < newest.1 ∧
            ∃ total ∈ windowSums (increments kCusumDriftMm
              ((CusumTrace.after kCusumDriftMm kCusumThreshold (watchdogAfter ticks).2).since ++
                [(newest.2, rollingMedian series)])), kCusumThreshold < total := by
  have fires (newest : Rat × Rat) :
      (readSample true series newest (watchdogAfter ticks).1).1 = true ↔
        ∃ total ∈ windowSums (increments kCusumDriftMm
          ((CusumTrace.after kCusumDriftMm kCusumThreshold (watchdogAfter ticks).2).since ++
            [(newest.2, rollingMedian series)])), kCusumThreshold < total := by
    have positive : ¬kCusumThreshold < 0 := by decide +kernel
    have window := updateCusum_fires_iff kCusumDriftMm kCusumThreshold (watchdogAfter ticks).2
      newest.2 (rollingMedian series)
    rw [or_iff_right positive, ← watchdogAfter_cusum, ← updateCusumGeometryShift_eq] at window
    rw [← window]
    simp only [readSample, if_true]
    split
    · next fired => exact iff_of_true rfl fired
    · exact Iff.rfl
  unfold watchdogTick
  cases last : series.getLast? with
  | none => simp
  | some newest =>
    dsimp only
    by_cases ready : 5 ≤ series.length ∧ calibrationValid = true
    · rw [if_pos ready]
      by_cases new : (watchdogAfter ticks).1.lastErrorTs < newest.1
      · rw [if_pos new, fires]
        simp only [ready.1, ready.2, true_and, Option.some.injEq, exists_eq_left', new]
      · simp [new]
    · rw [if_neg ready]
      exact iff_of_false Bool.false_ne_true fun all => ready ⟨all.2.1, all.1⟩

end PairDriver.GeometryShift
