/-
This file models how the learning engine of the input health overlay counts the presses of a
button. A snapshot of a button has the press counter of the driver. The engine keeps the
greatest count it has seen; a snapshot counts if it is above, and the samples of the path are
the greatest of all counts. With enough samples the shortest intervals give a debounce time.

The driver sets its counter back when the statistics are reset and when it restarts. The
presses after that are credited only once the counter passes its old height.
-/

import PairDriver.CounterIncrements
import PairDriver.DeviceProfiles

namespace PairDriver.InputHealth.Presses

open Profiles CounterIncrements

/-! ### State -/

/-- A path of a device. -/
abbrev Component := UInt64 × Text

def kindString : Kind → Text
  | .stickX => ascii "stick_x"
  | .stickY => ascii "stick_y"
  | .boolean => ascii "boolean"
  | .scalarSingle => ascii "scalar_single"

def kindFromString (kind : Text) : Kind :=
  if kind = ascii "stick_x" then .stickX
  else if kind = ascii "stick_y" then .stickY
  else if kind = ascii "boolean" then .boolean
  else .scalarSingle

/-- The state of a path, without what only analog paths use. -/
structure PathState (Number : Type) where
  kind : Kind := .scalarSingle
  lastPressCount : UInt64 := 0
  lastPressTimeUs : UInt64 := 0
  interPressUs : List UInt64 := []
  sampleCount : UInt64 := 0
  ready : Bool := false
  lastPersistUs : UInt64 := 0
  learnedRestOffset : Number
  learnedStddev : Number
  learnedTriggerMin : Number
  learnedTriggerMax : Number
  learnedDeadzoneRadius : Number
  learnedDebounceUs : UInt32 := 0
  lastUpdatedUnix : UInt64 := 0
  driftShiftResets : UInt32 := 0

/-- The engine with the records of its profiles. -/
structure Engine (Number : Type) where
  states : Component → Option (PathState Number) := fun _ => none
  records : Component → Option (LearnedPathRecord Number)
  deviceButtonQuietUntilUs : UInt64 → Option UInt64 := fun _ => none

/-- What a snapshot says of a component; the path is a buffer. -/
structure Body where
  isBoolean : Bool
  deviceSerialHash : UInt64
  path : Text
  pressCount : UInt64

/-- A snapshot, and what the clocks and the disk answer while it is taken in. -/
structure Entry where
  body : Body
  unixSeconds : UInt64
  syncedAt : UInt64
  saved : Bool

/-- A tick at a time, with its snapshots in the order of the map. -/
structure Tick where
  nowUs : UInt64
  entries : List Entry

section Engine

variable {Number : Type} [Zero Number]

def fresh : PathState Number where
  learnedRestOffset := 0
  learnedStddev := 0
  learnedTriggerMin := 0
  learnedTriggerMax := 0
  learnedDeadzoneRadius := 0

def ofRecord (record : LearnedPathRecord Number) : PathState Number where
  kind := kindFromString record.kind
  sampleCount := record.sampleCount
  ready := record.ready
  learnedRestOffset := record.learnedRestOffset
  learnedStddev := record.learnedStddev
  learnedTriggerMin := record.learnedTriggerMin
  learnedTriggerMax := record.learnedTriggerMax
  learnedDeadzoneRadius := record.learnedDeadzoneRadius
  learnedDebounceUs := record.learnedDebounceUs
  lastUpdatedUnix := record.lastUpdatedUnix
  driftShiftResets := record.driftShiftResets

/-- The state of a path; a new one starts from the record of the profile. -/
def stateFor (engine : Engine Number) (component : Component) : PathState Number :=
  (engine.states component).getD (((engine.records component).map ofRecord).getD fresh)

/-! ### A snapshot -/

def pathFromBody (body : Body) : Text :=
  cString (body.path.take inputHealthPathLen)

/-- The component that a snapshot counts for: a button of a known device, on a path that is
compensated. -/
def buttonOf (body : Body) : Option Component :=
  if body.isBoolean = false ∨ body.deviceSerialHash = 0 ∨ pathFromBody body = [] then none
  else if isCompensationPath (classifyInputPath (pathFromBody body)) then
    some (body.deviceSerialHash, pathFromBody body)
  else none

def readyThreshold : Kind → UInt64
  | .boolean => 500
  | _ => 1024

/-- The hundredth part of the way up the sorted intervals, between one and twenty milliseconds. -/
def learnedDebounce (intervals : List UInt64) : UInt64 :=
  max 1000 (min 20000
    ((intervals.insertionSort fun one other => one ≤ other).getD ((intervals.length - 1) / 100) 0))

/-- At most 1024 intervals are kept. -/
def pushInterval (intervals : List UInt64) (interval : UInt64) : List UInt64 :=
  (if 1024 ≤ intervals.length then intervals.drop 1 else intervals) ++ [interval]

/-- The counter has risen. -/
def creditPress (nowUs pressCount : UInt64) (state : PathState Number) : PathState Number :=
  { state with
    interPressUs :=
      if state.lastPressTimeUs = 0 then state.interPressUs
      else pushInterval state.interPressUs (nowUs - state.lastPressTimeUs)
    lastPressTimeUs := nowUs
    lastPressCount := pressCount
    sampleCount := max state.sampleCount pressCount }

def becomesReady (state : PathState Number) : Bool :=
  !state.ready && readyThreshold state.kind ≤ state.sampleCount && !state.interPressUs.isEmpty

def learnDebounce (unixSeconds : UInt64) (state : PathState Number) : PathState Number :=
  { state with
    learnedDebounceUs := (learnedDebounce state.interPressUs).toUInt32
    ready := true
    lastUpdatedUnix := unixSeconds }

def recordOf (path : Text) (state : PathState Number) : LearnedPathRecord Number where
  path := path
  kind := kindString state.kind
  sampleCount := state.sampleCount
  ready := state.ready
  learnedRestOffset := state.learnedRestOffset
  learnedStddev := state.learnedStddev
  learnedTriggerMin := state.learnedTriggerMin
  learnedTriggerMax := state.learnedTriggerMax
  learnedDeadzoneRadius := state.learnedDeadzoneRadius
  learnedDebounceUs := state.learnedDebounceUs
  lastUpdatedUnix := state.lastUpdatedUnix
  driftShiftResets := state.driftShiftResets

def putState (engine : Engine Number) (component : Component) (state : PathState Number) :
    Engine Number :=
  { engine with states := Function.update engine.states component (some state) }

/-- The record follows the state, every five seconds or at once. -/
def syncProfile (component : Component) (state : PathState Number) (immediate : Bool)
    (syncedAt : UInt64) (saved : Bool) (engine : Engine Number) : Engine Number :=
  if !immediate && state.lastPersistUs != 0 && syncedAt - state.lastPersistUs < 5000000 then
    putState engine component state
  else
    putState { engine with
      records := Function.update engine.records component (some (recordOf component.2 state)) } component
      (if saved then { state with lastPersistUs := syncedAt } else state)

/-- The part of a tick that takes in the snapshot of a button. -/
def tickEntry (nowUs : UInt64) (engine : Engine Number) (entry : Entry) : Engine Number :=
  match buttonOf entry.body with
  | none => engine
  | some component =>
    let state := { stateFor engine component with kind := .boolean }
    if state.lastPressCount < entry.body.pressCount then
      let credited := creditPress nowUs entry.body.pressCount state
      let quiet := { engine with
        deviceButtonQuietUntilUs :=
          Function.update engine.deviceButtonQuietUntilUs entry.body.deviceSerialHash
            (some (nowUs + 500000)) }
      if becomesReady credited then
        syncProfile component (learnDebounce entry.unixSeconds credited) true entry.syncedAt
          entry.saved quiet
      else syncProfile component credited false entry.syncedAt entry.saved quiet
    else putState engine component state

def tick (engine : Engine Number) (tick : Tick) : Engine Number :=
  tick.entries.foldl (tickEntry tick.nowUs) engine

def run (engine : Engine Number) (ticks : List Tick) : Engine Number :=
  ticks.foldl tick engine

/-- An overlay that has just started. -/
def start (records : Component → Option (LearnedPathRecord Number)) : Engine Number where
  records := records

/-- The readings of the press counter of a component. -/
def countsIn (component : Component) (entries : List Entry) : List Nat :=
  entries.filterMap fun entry =>
    if buttonOf entry.body = some component then some entry.body.pressCount.toNat else none

def counts (component : Component) (ticks : List Tick) : List Nat :=
  ticks.flatMap fun tick => countsIn component tick.entries

/-! ### One snapshot -/

theorem stateFor_putState (engine : Engine Number) (component : Component)
    (state : PathState Number) : stateFor (putState engine component state) component = state := by
  unfold stateFor putState
  dsimp only
  rw [Function.update_self, Option.getD_some]

theorem stateFor_putState_other (engine : Engine Number) {component other : Component}
    (state : PathState Number) (different : other ≠ component) :
    stateFor (putState engine component state) other = stateFor engine other := by
  unfold stateFor putState
  dsimp only
  rw [Function.update_of_ne different]

/-- A sync changes nothing that is counted. -/
theorem stateFor_syncProfile (component : Component) (state : PathState Number)
    (immediate : Bool) (syncedAt : UInt64) (saved : Bool) (engine : Engine Number) :
    (stateFor (syncProfile component state immediate syncedAt saved engine) component).sampleCount =
        state.sampleCount ∧
      (stateFor (syncProfile component state immediate syncedAt saved engine)
        component).lastPressCount = state.lastPressCount := by
  unfold syncProfile
  split
  · rw [stateFor_putState]
    exact ⟨rfl, rfl⟩
  · rw [stateFor_putState]
    cases saved <;> exact ⟨rfl, rfl⟩

theorem stateFor_syncProfile_other {component other : Component} (different : other ≠ component)
    (state : PathState Number) (immediate : Bool) (syncedAt : UInt64) (saved : Bool)
    (engine : Engine Number) :
    stateFor (syncProfile component state immediate syncedAt saved engine) other =
      stateFor engine other := by
  unfold syncProfile
  split
  · exact stateFor_putState_other _ _ different
  · rw [stateFor_putState_other _ _ different]
    unfold stateFor
    dsimp only
    rw [Function.update_of_ne different]

theorem tickEntry_other (nowUs : UInt64) (engine : Engine Number) {entry : Entry}
    {component : Component} (different : buttonOf entry.body ≠ some component) :
    stateFor (tickEntry nowUs engine entry) component = stateFor engine component := by
  unfold tickEntry
  cases button : buttonOf entry.body with
  | none => rfl
  | some target =>
    have apart : component ≠ target := by
      rintro rfl
      exact different button
    dsimp only
    split
    · split
      · rw [stateFor_syncProfile_other apart]
        rfl
      · rw [stateFor_syncProfile_other apart]
        rfl
    · exact stateFor_putState_other _ _ apart

/-- A count above the mark raises the mark and the samples. -/
theorem tickEntry_above (nowUs : UInt64) {engine : Engine Number} {entry : Entry}
    {component : Component} (button : buttonOf entry.body = some component)
    (above : (stateFor engine component).lastPressCount < entry.body.pressCount) :
    (stateFor (tickEntry nowUs engine entry) component).sampleCount =
        max (stateFor engine component).sampleCount entry.body.pressCount ∧
      (stateFor (tickEntry nowUs engine entry) component).lastPressCount =
        entry.body.pressCount := by
  unfold tickEntry
  rw [button]
  dsimp only
  rw [if_pos above]
  split
  · exact stateFor_syncProfile component _ true entry.syncedAt entry.saved _
  · exact stateFor_syncProfile component _ false entry.syncedAt entry.saved _

/-- Any other count changes neither. -/
theorem tickEntry_below (nowUs : UInt64) {engine : Engine Number} {entry : Entry}
    {component : Component} (button : buttonOf entry.body = some component)
    (below : ¬(stateFor engine component).lastPressCount < entry.body.pressCount) :
    (stateFor (tickEntry nowUs engine entry) component).sampleCount =
        (stateFor engine component).sampleCount ∧
      (stateFor (tickEntry nowUs engine entry) component).lastPressCount =
        (stateFor engine component).lastPressCount := by
  unfold tickEntry
  rw [button]
  dsimp only
  rw [if_neg below, stateFor_putState]
  exact ⟨rfl, rfl⟩

/-! ### A run -/

/-- The mark is the greatest count so far, and the samples are at least the stored ones. -/
structure Counted (stored : Nat) (readings : List Nat) (state : PathState Number) : Prop where
  mark : state.lastPressCount.toNat = highest readings
  samples : state.sampleCount.toNat = max stored (highest readings)

theorem tickEntry_counted {stored : Nat} {readings : List Nat} {nowUs : UInt64}
    {engine : Engine Number} {component : Component}
    (counted : Counted stored readings (stateFor engine component)) (entry : Entry) :
    Counted stored (readings ++ countsIn component [entry])
      (stateFor (tickEntry nowUs engine entry) component) := by
  by_cases button : buttonOf entry.body = some component
  · have reading : countsIn component [entry] = [entry.body.pressCount.toNat] := by
      unfold countsIn
      rw [List.filterMap_cons, if_pos button, List.filterMap_nil]
    rw [reading]
    by_cases above : (stateFor engine component).lastPressCount < entry.body.pressCount
    · obtain ⟨samples, mark⟩ := tickEntry_above nowUs button above
      rw [UInt64.lt_iff_toNat_lt, counted.mark] at above
      refine ⟨?_, ?_⟩
      · rw [mark, highest_concat, Nat.max_eq_right (Nat.le_of_lt above)]
      · rw [samples, UInt64.toNat_max, counted.samples, highest_concat, Nat.max_assoc]
    · obtain ⟨samples, mark⟩ := tickEntry_below nowUs button above
      rw [UInt64.lt_iff_toNat_lt, counted.mark, Nat.not_lt] at above
      refine ⟨?_, ?_⟩
      · rw [mark, counted.mark, highest_concat, Nat.max_eq_left above]
      · rw [samples, counted.samples, highest_concat, Nat.max_eq_left above]
  · have silent : countsIn component [entry] = [] := by
      unfold countsIn
      rw [List.filterMap_cons, if_neg button, List.filterMap_nil]
    rw [silent, List.append_nil, tickEntry_other nowUs engine button]
    exact counted

theorem tick_counted {stored : Nat} {readings : List Nat} {nowUs : UInt64}
    {engine : Engine Number} {component : Component} (entries : List Entry)
    (counted : Counted stored readings (stateFor engine component)) :
    Counted stored (readings ++ countsIn component entries)
      (stateFor (entries.foldl (tickEntry nowUs) engine) component) := by
  induction entries generalizing engine readings with
  | nil => exact (List.append_nil readings).symm ▸ counted
  | cons entry entries inductionHypothesis =>
    have split : readings ++ countsIn component (entry :: entries) =
        readings ++ countsIn component [entry] ++ countsIn component entries := by
      rw [List.append_assoc]
      exact congrArg (readings ++ ·) (List.filterMap_append (l := [entry]))
    rw [split]
    exact inductionHypothesis (tickEntry_counted counted entry)

theorem run_counted {stored : Nat} {readings : List Nat} {engine : Engine Number}
    {component : Component} (ticks : List Tick)
    (counted : Counted stored readings (stateFor engine component)) :
    Counted stored (readings ++ counts component ticks)
      (stateFor (run engine ticks) component) := by
  induction ticks generalizing engine readings with
  | nil => exact (List.append_nil readings).symm ▸ counted
  | cons tick ticks inductionHypothesis =>
    have split : readings ++ counts component (tick :: ticks) =
        readings ++ countsIn component tick.entries ++ counts component ticks :=
      (List.append_assoc _ _ _).symm
    rw [split]
    exact inductionHypothesis (tick_counted tick.entries counted)

/-- The samples a component has before its first snapshot. -/
def storedSamples (records : Component → Option (LearnedPathRecord Number))
    (component : Component) : Nat :=
  (stateFor (start records) component).sampleCount.toNat

theorem start_counted (records : Component → Option (LearnedPathRecord Number))
    (component : Component) :
    Counted (storedSamples records component) [] (stateFor (start records) component) := by
  refine ⟨?_, (Nat.max_zero _).symm⟩
  unfold stateFor start
  dsimp only
  rw [Option.getD_none]
  cases records component with
  | none => rfl
  | some record => rfl

/-- All presses are credited exactly in the runs in which the counter of the driver rises from the
stored samples and at most falls to zero for good. -/
theorem press_learning_iff (records : Component → Option (LearnedPathRecord Number))
    (ticks : List Tick) (component : Component) :
    (stateFor (run (start records) ticks) component).sampleCount.toNat =
        storedSamples records component +
          increments (storedSamples records component) (counts component ticks) ↔
      Unbroken (storedSamples records component :: counts component ticks) := by
  have counted := (run_counted ticks (start_counted records component)).samples
  have sum : increments 0 (storedSamples records component :: counts component ticks) =
      storedSamples records component +
        increments (storedSamples records component) (counts component ticks) :=
    rfl
  rw [counted, List.nil_append, ← highest_cons, ← sum]
  exact highest_eq_increments_iff _

end Engine

/-! ### A reset -/

def click : Component :=
  (0x1234, ascii "/input/a/click")

/-- A tick with one count of the button. -/
def clickTick (nowUs pressCount : UInt64) : Tick :=
  ⟨nowUs, [⟨⟨true, click.1, click.2, pressCount⟩, 1700000000, nowUs, true⟩]⟩

/-- Five presses, a reset and two more presses. -/
def clicksAfterReset : List Tick :=
  [clickTick 1000000 5, clickTick 2000000 0, clickTick 3000000 2]

def noRecords : Component → Option (LearnedPathRecord Rat) :=
  fun _ => none

/-- The two presses after the reset are not credited. -/
theorem press_learning_reset :
    counts click clicksAfterReset = [5, 0, 2] ∧
      (stateFor (run (start noRecords) clicksAfterReset) click).sampleCount.toNat = 5 ∧
      (stateFor (run (start noRecords) clicksAfterReset) click).sampleCount.toNat ≠
        storedSamples noRecords click +
          increments (storedSamples noRecords click) (counts click clicksAfterReset) := by
  decide +kernel

end PairDriver.InputHealth.Presses
