/-
This file models the geometry-shift watchdog at the top of the calibration tick:
the time series of errors it reads, its two detectors and the counters it keeps
between ticks. Floating-point numbers are exact rationals here.
-/

import Mathlib

namespace PairDriver.GeometryShift

/-! ### The time series of errors -/

/-- The time span in seconds, and the number of points, a time series keeps. -/
def timeSpan : Rat := 30
def kMaxPoints : Nat := 4096

/-- Drops the oldest points that are before the cutoff or beyond the capacity. -/
def dropOld (cutoff : Rat) : List (Rat × Rat) → List (Rat × Rat)
  | [] => []
  | point :: rest =>
    if point.1 < cutoff ∨ rest.length + 1 > kMaxPoints then dropOld cutoff rest
    else point :: rest

/-- `TimeSeries::Push`; a series is listed oldest first. -/
def push (now value : Rat) (series : List (Rat × Rat)) : List (Rat × Rat) :=
  dropOld (now - timeSpan) (series ++ [(now, value)])

/-! ### The detectors -/

def kSpikeRatio : Rat := 5
def kMedianFloor : Rat := 1 / 1000000000
def kMinSustainedSpikes : Nat := 3
def kCusumDriftMm : Rat := 1 / 2
def kCusumThreshold : Rat := 5

/-- `IsCurrentErrorSpike`. -/
def isCurrentErrorSpike (currentError rollingMedian : Rat) : Bool :=
  kMedianFloor < rollingMedian && kSpikeRatio * rollingMedian < currentError

/-- `ShouldFireGeometryShiftRecovery`. -/
def shouldFireGeometryShiftRecovery (sustainedSpikes : Nat) : Bool :=
  kMinSustainedSpikes ≤ sustainedSpikes

/-- `UpdateCusumGeometryShift`: the statistic after a reading, and whether it fires. -/
def updateCusumGeometryShift (statistic currentErrorMm baselineMm : Rat) : Bool × Rat :=
  let raised := max 0 (statistic + (currentErrorMm - baselineMm - kCusumDriftMm))
  if kCusumThreshold < raised then (true, 0) else (false, raised)

/-- The median of the last thirty errors. -/
def rollingMedian (series : List (Rat × Rat)) : Rat :=
  let tail := (series.drop (series.length - 30)).map Prod.snd
  (tail.insertionSort (· ≤ ·)).getD (tail.length / 2) 0

/-! ### The watchdog -/

/-- The counters the watchdog keeps between ticks. -/
structure Watchdog where
  consecutiveBadTicks : Nat := 0
  lastErrorTs : Rat := 0
  cusum : Rat := 0
deriving DecidableEq

/-- The watchdog at one error sample it has not read yet. -/
def readSample (useCusum : Bool) (series : List (Rat × Rat)) (newest : Rat × Rat)
    (watchdog : Watchdog) : Bool × Watchdog :=
  let median := rollingMedian series
  let result :=
    if useCusum then
      let update := updateCusumGeometryShift watchdog.cusum newest.2 median
      (update.1, (⟨0, newest.1, update.2⟩ : Watchdog))
    else
      let spikes := if isCurrentErrorSpike newest.2 median then watchdog.consecutiveBadTicks + 1 else 0
      (shouldFireGeometryShiftRecovery spikes, (⟨spikes, newest.1, 0⟩ : Watchdog))
  if result.1 then (true, ⟨0, newest.1, 0⟩) else result

/-- The watchdog of one tick, and whether it fires. It needs a valid calibration and five errors,
and counts each error once. -/
def watchdogTick (useCusum calibrationValid : Bool) (series : List (Rat × Rat))
    (watchdog : Watchdog) : Bool × Watchdog :=
  match series.getLast? with
  | some newest =>
    if 5 ≤ series.length ∧ calibrationValid then
      if watchdog.lastErrorTs < newest.1 then readSample useCusum series newest watchdog
      else (false, watchdog)
    else (false, { watchdog with consecutiveBadTicks := 0, cusum := 0 })
  | none => (false, { watchdog with consecutiveBadTicks := 0, cusum := 0 })

/-- An invalid calibration keeps the watchdog silent. -/
theorem watchdogTick_of_invalid (useCusum : Bool) (series : List (Rat × Rat))
    (watchdog : Watchdog) : (watchdogTick useCusum false series watchdog).1 = false := by
  unfold watchdogTick
  cases series.getLast? with
  | none => rfl
  | some newest => simp only [Bool.false_eq_true, and_false, if_false]

end PairDriver.GeometryShift
