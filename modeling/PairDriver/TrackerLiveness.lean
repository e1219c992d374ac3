/-
This file is about the detector that takes a tracker with a frozen pose for
disconnected.

A watch keeps the detector's state beside the ticks it has seen. While the detector
is online, the ticks since the stamp of the last pose are all connected and show that
pose, so an offline edge has a frozen window behind it. The debounce of a reconnect
is not cancelled by a disconnect, so the ticks since its start are live only in runs
where no tick disconnects the device while a debounce runs.
-/

import PairDriver.Machine

namespace PairDriver.Liveness

/-! ### The detector -/

section Detector

variable {Number : Type} [Field Number] [LinearOrder Number]

def kFrozenPoseThresholdSec : Number := 8.0
def kHmdMovedThresholdMps : Number := 0.02
def kReconnectDebounceSec : Number := 2.0

variable (Number) in
/-- The times are negative while they are unset. -/
structure TrackerLivenessState where
  poseHashSinceSec : Number := -1
  lastPoseHash : UInt64 := 0
  offlineSinceSec : Number := -1
  reconnectSinceSec : Number := -1
  hmdMovedDuringFreeze : Bool := false
deriving DecidableEq

variable (Number) in
structure TrackerLivenessInputs where
  posHash : UInt64
  deviceIsConnected : Bool
  hmdSpeedMps : Number
  now : Number
deriving DecidableEq

def TrackerLivenessState.IsOffline (state : TrackerLivenessState Number) : Prop :=
  0 ≤ state.offlineSinceSec

instance (state : TrackerLivenessState Number) : Decidable state.IsOffline :=
  inferInstanceAs (Decidable (_ ≤ _))

/-- The pose is another one than before. -/
def tickChangedPose (state : TrackerLivenessState Number) (inputs : TrackerLivenessInputs Number) :
    Bool × TrackerLivenessState Number :=
  let seen := { state with
    lastPoseHash := inputs.posHash
    poseHashSinceSec := inputs.now
    hmdMovedDuringFreeze := false }
  if seen.IsOffline then
    if seen.reconnectSinceSec < 0 then (false, { seen with reconnectSinceSec := inputs.now })
    else if kReconnectDebounceSec ≤ inputs.now - seen.reconnectSinceSec then (false, {})
    else (false, seen)
  else (false, seen)

/-- What a tick with the pose of before records first. -/
def recordFreeze (state : TrackerLivenessState Number) (inputs : TrackerLivenessInputs Number) :
    TrackerLivenessState Number :=
  { state with
    reconnectSinceSec := if 0 ≤ state.reconnectSinceSec then -1 else state.reconnectSinceSec
    hmdMovedDuringFreeze :=
      if kHmdMovedThresholdMps ≤ inputs.hmdSpeedMps then true else state.hmdMovedDuringFreeze }

/-- The pose is the one of before. -/
def tickSamePose (state : TrackerLivenessState Number) (inputs : TrackerLivenessInputs Number) :
    Bool × TrackerLivenessState Number :=
  let recorded := recordFreeze state inputs
  if recorded.IsOffline then (false, recorded)
  else if recorded.poseHashSinceSec < 0 then
    (false, { recorded with poseHashSinceSec := inputs.now })
  else if kFrozenPoseThresholdSec ≤ inputs.now - recorded.poseHashSinceSec ∧
      recorded.hmdMovedDuringFreeze = true then
    (true, { recorded with offlineSinceSec := inputs.now, reconnectSinceSec := -1 })
  else (false, recorded)

def tickTrackerLiveness (state : TrackerLivenessState Number)
    (inputs : TrackerLivenessInputs Number) : Bool × TrackerLivenessState Number :=
  if inputs.deviceIsConnected = false then
    if state.IsOffline then (false, state)
    else (true, { state with offlineSinceSec := inputs.now, reconnectSinceSec := -1 })
  else if inputs.posHash ≠ state.lastPoseHash then tickChangedPose state inputs
  else tickSamePose state inputs

/-! ### What a tick can do -/

/-- The pose of the tick, stamped. -/
def stampPose (state : TrackerLivenessState Number) (inputs : TrackerLivenessInputs Number) :
    TrackerLivenessState Number :=
  { state with
    lastPoseHash := inputs.posHash
    poseHashSinceSec := inputs.now
    hmdMovedDuringFreeze := false }

/-- The device went offline at the tick. -/
def goOffline (state : TrackerLivenessState Number) (inputs : TrackerLivenessInputs Number) :
    TrackerLivenessState Number :=
  { state with offlineSinceSec := inputs.now, reconnectSinceSec := -1 }

/-- The outcomes of a tick: what it returns and the state it leaves. -/
inductive Ticked (state : TrackerLivenessState Number) (inputs : TrackerLivenessInputs Number) :
    Bool × TrackerLivenessState Number → Prop
  | stayedAway : inputs.deviceIsConnected = false → state.IsOffline →
      Ticked state inputs (false, state)
  | dropped : inputs.deviceIsConnected = false → ¬state.IsOffline →
      Ticked state inputs (true, goOffline state inputs)
  | changed : inputs.deviceIsConnected = true → inputs.posHash ≠ state.lastPoseHash →
      ¬state.IsOffline → Ticked state inputs (false, stampPose state inputs)
  | debounceStarted : inputs.deviceIsConnected = true → inputs.posHash ≠ state.lastPoseHash →
      state.IsOffline → state.reconnectSinceSec < 0 →
      Ticked state inputs (false, { stampPose state inputs with reconnectSinceSec := inputs.now })
  | recovered : inputs.deviceIsConnected = true → inputs.posHash ≠ state.lastPoseHash →
      state.IsOffline → 0 ≤ state.reconnectSinceSec →
      kReconnectDebounceSec ≤ inputs.now - state.reconnectSinceSec → Ticked state inputs (false, {})
  | debouncing : inputs.deviceIsConnected = true → inputs.posHash ≠ state.lastPoseHash →
      state.IsOffline → 0 ≤ state.reconnectSinceSec →
      Ticked state inputs (false, stampPose state inputs)
  | stayedFrozen : inputs.deviceIsConnected = true → inputs.posHash = state.lastPoseHash →
      state.IsOffline → Ticked state inputs (false, recordFreeze state inputs)
  | stamped : inputs.deviceIsConnected = true → inputs.posHash = state.lastPoseHash →
      ¬state.IsOffline → state.poseHashSinceSec < 0 →
      Ticked state inputs
        (false, { recordFreeze state inputs with poseHashSinceSec := inputs.now })
  | froze : inputs.deviceIsConnected = true → inputs.posHash = state.lastPoseHash →
      ¬state.IsOffline → 0 ≤ state.poseHashSinceSec →
      kFrozenPoseThresholdSec ≤ inputs.now - state.poseHashSinceSec →
      (recordFreeze state inputs).hmdMovedDuringFreeze = true →
      Ticked state inputs (true, goOffline (recordFreeze state inputs) inputs)
  | watched : inputs.deviceIsConnected = true → inputs.posHash = state.lastPoseHash →
      ¬state.IsOffline → 0 ≤ state.poseHashSinceSec →
      Ticked state inputs (false, recordFreeze state inputs)

theorem ticked (state : TrackerLivenessState Number) (inputs : TrackerLivenessInputs Number) :
    Ticked state inputs (tickTrackerLiveness state inputs) := by
  unfold tickTrackerLiveness
  split
  · rename_i disconnected
    split
    · rename_i offline
      exact .stayedAway disconnected offline
    · rename_i online
      exact .dropped disconnected online
  · rename_i connected
    have connected := Bool.eq_true_of_not_eq_false connected
    split
    · rename_i different
      unfold tickChangedPose
      dsimp only
      split
      · rename_i offline
        split
        · rename_i unset
          exact .debounceStarted connected different offline unset
        · rename_i set
          split
          · rename_i stable
            exact .recovered connected different offline (not_lt.mp set) stable
          · exact .debouncing connected different offline (not_lt.mp set)
      · rename_i online
        exact .changed connected different online
    · rename_i same
      have same := not_not.mp same
      unfold tickSamePose
      dsimp only
      split
      · rename_i offline
        exact .stayedFrozen connected same offline
      · rename_i online
        split
        · rename_i unset
          exact .stamped connected same online unset
        · rename_i set
          split
          · rename_i frozen
            exact .froze connected same online (not_lt.mp set) frozen.1 frozen.2
          · exact .watched connected same online (not_lt.mp set)

end Detector

/-! ### Watches -/

section Watch

variable {Number : Type} [Field Number] [LinearOrder Number]

variable (Number) in
/-- A tick with the states around it and what it returned. -/
structure Tick where
  inputs : TrackerLivenessInputs Number
  before : TrackerLivenessState Number
  edge : Bool
  after : TrackerLivenessState Number
deriving DecidableEq

variable (Number) in
/-- The state of the detector and the ticks so far, the latest first. -/
structure Watch where
  state : TrackerLivenessState Number := {}
  ticks : List (Tick Number) := []
deriving DecidableEq

def Watch.next (watch : Watch Number) (inputs : TrackerLivenessInputs Number) : Tick Number :=
  { inputs := inputs
    before := watch.state
    edge := (tickTrackerLiveness watch.state inputs).1
    after := (tickTrackerLiveness watch.state inputs).2 }

def Watch.step (watch : Watch Number) (inputs : TrackerLivenessInputs Number) :
    Option (Watch Number) :=
  some ⟨(watch.next inputs).after, watch.next inputs :: watch.ticks⟩

/-- The time is not before that of the last tick, and not negative. -/
def Timely (watch : Watch Number) (inputs : TrackerLivenessInputs Number) : Prop :=
  0 ≤ inputs.now ∧ ∀ last ∈ watch.ticks.head?, last.inputs.now ≤ inputs.now

/-- The tick is the first of those from the debounce of a reconnect. -/
def StartsDebounce (state : TrackerLivenessState Number) (inputs : TrackerLivenessInputs Number) :
    Prop :=
  inputs.deviceIsConnected = true ∧ inputs.posHash ≠ state.lastPoseHash ∧ state.IsOffline ∧
    state.reconnectSinceSec < 0

/-- Every tick since the given time is connected and shows another pose than the tick before it. -/
def LiveSince (since : Number) : List (Tick Number) → Prop
  | [] => True
  | tick :: older =>
    (since ≤ tick.inputs.now → tick.inputs.deviceIsConnected = true ∧
      ∀ last ∈ older.head?, last.inputs.posHash ≠ tick.inputs.posHash) ∧
    LiveSince since older

/-- No tick disconnects the device while a debounce runs, and a debounce starts with live ticks. -/
def Undisturbed (watch : Watch Number) (inputs : TrackerLivenessInputs Number) : Prop :=
  (0 ≤ watch.state.reconnectSinceSec → inputs.deviceIsConnected = true) ∧
    (StartsDebounce watch.state inputs → LiveSince inputs.now (watch.next inputs :: watch.ticks))

instance (watch : Watch Number) (inputs : TrackerLivenessInputs Number) :
    Decidable (Timely watch inputs) :=
  inferInstanceAs (Decidable (_ ∧ _))

instance LiveSince.decidable (since : Number) :
    (ticks : List (Tick Number)) → Decidable (LiveSince since ticks)
  | [] => isTrue trivial
  | _ :: older =>
    have := LiveSince.decidable since older
    inferInstanceAs (Decidable (_ ∧ _))

instance (watch : Watch Number) (inputs : TrackerLivenessInputs Number) :
    Decidable (Undisturbed watch inputs) :=
  inferInstanceAs (Decidable ((_ → _) ∧ ((_ ∧ _ ∧ _ ∧ _) → _)))

/-- The ticks are all connected with the pose of the last one, last for the threshold, and on one of
them the headset moved. -/
structure FrozenWindow (last : Tick Number) (window : List (Tick Number)) : Prop where
  same : ∀ tick ∈ window, tick.inputs.deviceIsConnected = true ∧
    tick.inputs.posHash = last.inputs.posHash
  long : ∃ tick ∈ window, kFrozenPoseThresholdSec ≤ last.inputs.now - tick.inputs.now
  moved : ∃ tick ∈ window, kHmdMovedThresholdMps ≤ tick.inputs.hmdSpeedMps

/-! ### The offline edge -/

/-- The states around the ticks follow each other up to the given one. -/
def Chained : TrackerLivenessState Number → List (Tick Number) → Prop
  | _, [] => True
  | state, tick :: older => tick.after = state ∧ Chained tick.before older

/-- The ticks since the stamp of the pose are connected and show it. -/
structure Stamped (state : TrackerLivenessState Number) (ticks : List (Tick Number)) : Prop where
  unseen : state.poseHashSinceSec < 0 → state.hmdMovedDuringFreeze = false
  seen : 0 ≤ state.poseHashSinceSec → ∃ recent rest, ticks = recent ++ rest ∧
    (∀ tick ∈ recent, tick.inputs.deviceIsConnected = true ∧
      tick.inputs.posHash = state.lastPoseHash) ∧
    (∃ tick ∈ recent, tick.inputs.now = state.poseHashSinceSec) ∧
    (state.hmdMovedDuringFreeze = true →
      ∃ tick ∈ recent, kHmdMovedThresholdMps ≤ tick.inputs.hmdSpeedMps)

/-- The invariant of a watch. -/
structure Sound (watch : Watch Number) : Prop where
  chained : Chained watch.state watch.ticks
  edges : ∀ tick ∈ watch.ticks, tick.edge = true → tick.after.IsOffline
  stamped : ¬watch.state.IsOffline → Stamped watch.state watch.ticks

theorem recordFreeze_moved {state : TrackerLivenessState Number}
    {inputs : TrackerLivenessInputs Number}
    (moved : (recordFreeze state inputs).hmdMovedDuringFreeze = true) :
    kHmdMovedThresholdMps ≤ inputs.hmdSpeedMps ∨ state.hmdMovedDuringFreeze = true := by
  unfold recordFreeze at moved
  dsimp only at moved
  split at moved
  · rename_i reached
    exact Or.inl reached
  · exact Or.inr moved

/-- A stamp of this tick needs no other tick. -/
theorem Stamped.single {state : TrackerLivenessState Number} {tick : Tick Number}
    (older : List (Tick Number)) (connected : tick.inputs.deviceIsConnected = true)
    (pose : tick.inputs.posHash = state.lastPoseHash)
    (time : tick.inputs.now = state.poseHashSinceSec) (set : 0 ≤ state.poseHashSinceSec)
    (moved : state.hmdMovedDuringFreeze = true →
      kHmdMovedThresholdMps ≤ tick.inputs.hmdSpeedMps) :
    Stamped state (tick :: older) := by
  refine ⟨fun unset => absurd set unset.not_ge, fun _ => ⟨[tick], older, rfl, ?_, ?_, ?_⟩⟩
  · exact List.forall_mem_singleton.mpr ⟨connected, pose⟩
  · exact ⟨tick, List.mem_singleton_self tick, time⟩
  · exact fun met => ⟨tick, List.mem_singleton_self tick, moved met⟩

/-- One more tick with the same pose. -/
theorem Stamped.cons {state : TrackerLivenessState Number} {tick : Tick Number}
    {ticks : List (Tick Number)} (stamped : Stamped state ticks)
    (set : 0 ≤ state.poseHashSinceSec) (connected : tick.inputs.deviceIsConnected = true)
    (pose : tick.inputs.posHash = state.lastPoseHash) :
    Stamped (recordFreeze state tick.inputs) (tick :: ticks) := by
  obtain ⟨recent, rest, rfl, same, ⟨first, within, time⟩, moved⟩ := stamped.seen set
  refine ⟨fun unset => absurd set unset.not_ge,
    fun _ => ⟨tick :: recent, rest, rfl, ?_, ?_, fun met => ?_⟩⟩
  · exact List.forall_mem_cons.mpr ⟨⟨connected, pose⟩, same⟩
  · exact ⟨first, List.mem_cons_of_mem tick within, time⟩
  · rcases recordFreeze_moved met with reached | before
    · exact ⟨tick, List.mem_cons_self, reached⟩
    · obtain ⟨other, among, reached⟩ := moved before
      exact ⟨other, List.mem_cons_of_mem tick among, reached⟩

/-- The function returns true exactly if the device goes offline. -/
theorem edge_iff {watch : Watch Number} {inputs : TrackerLivenessInputs Number}
    (time : 0 ≤ inputs.now) :
    (watch.next inputs).edge = true ↔
      ¬(watch.next inputs).before.IsOffline ∧ (watch.next inputs).after.IsOffline := by
  have outcome := ticked watch.state inputs
  unfold Watch.next
  dsimp only
  generalize tickTrackerLiveness watch.state inputs = returned at outcome
  cases outcome with
  | stayedAway _ offline => exact iff_of_false nofun fun both => both.1 offline
  | dropped _ online => exact iff_of_true rfl ⟨online, time⟩
  | changed _ _ online => exact iff_of_false nofun fun both => online both.2
  | debounceStarted _ _ offline _ => exact iff_of_false nofun fun both => both.1 offline
  | recovered _ _ offline _ _ => exact iff_of_false nofun fun both => both.1 offline
  | debouncing _ _ offline _ => exact iff_of_false nofun fun both => both.1 offline
  | stayedFrozen _ _ offline => exact iff_of_false nofun fun both => both.1 offline
  | stamped _ _ online _ => exact iff_of_false nofun fun both => online both.2
  | froze _ _ online _ _ _ => exact iff_of_true rfl ⟨online, time⟩
  | watched _ _ online _ => exact iff_of_false nofun fun both => online both.2

/-- Behind an online state, an edge is followed by a reconnect. -/
theorem reconnect_of_edge {state : TrackerLivenessState Number}
    {between : List (Tick Number)} {edge : Tick Number} {older : List (Tick Number)}
    (chained : Chained state (between ++ edge :: older)) (offline : edge.after.IsOffline)
    (online : ¬state.IsOffline) :
    ∃ change ∈ between, change.before.IsOffline ∧ ¬change.after.IsOffline := by
  induction between generalizing state with
  | nil =>
    rw [← chained.1] at online
    exact absurd offline online
  | cons tick rest inductionHypothesis =>
    obtain ⟨rfl, later⟩ := chained
    by_cases before : tick.before.IsOffline
    · exact ⟨tick, List.mem_cons_self, before, online⟩
    · obtain ⟨change, among, reconnects⟩ := inductionHypothesis later before
      exact ⟨change, List.mem_cons_of_mem tick among, reconnects⟩

variable [IsStrictOrderedRing Number]

theorem neg_one_unset : (-1 : Number) < 0 :=
  neg_lt_zero.mpr one_pos

/-- A tick with the pose of before ends a debounce. -/
theorem recordFreeze_unset (state : TrackerLivenessState Number)
    (inputs : TrackerLivenessInputs Number) :
    (recordFreeze state inputs).reconnectSinceSec < 0 := by
  unfold recordFreeze
  dsimp only
  split
  · exact neg_one_unset
  · rename_i unset
    exact not_le.mp unset

/-- An online state after a tick has its stamp. -/
theorem stamped_next {watch : Watch Number} {inputs : TrackerLivenessInputs Number}
    (stamped : ¬watch.state.IsOffline → Stamped watch.state watch.ticks) (time : 0 ≤ inputs.now)
    (online : ¬(watch.next inputs).after.IsOffline) :
    Stamped (watch.next inputs).after (watch.next inputs :: watch.ticks) := by
  have outcome := ticked watch.state inputs
  have result : (watch.next inputs).after = (tickTrackerLiveness watch.state inputs).2 := rfl
  rw [result] at online ⊢
  generalize tickTrackerLiveness watch.state inputs = returned at outcome online
  cases outcome with
  | stayedAway disconnected offline => exact absurd offline online
  | dropped disconnected before => exact absurd time online
  | changed connected different before =>
    exact Stamped.single _ connected rfl rfl time nofun
  | debounceStarted connected different offline unset => exact absurd offline online
  | recovered connected different offline set stable =>
    exact ⟨fun _ => rfl, fun set => absurd set neg_one_unset.not_ge⟩
  | debouncing connected different offline set => exact absurd offline online
  | stayedFrozen connected same offline => exact absurd offline online
  | stamped connected same before unset =>
    refine Stamped.single _ connected same rfl time fun moved => ?_
    rcases recordFreeze_moved moved with reached | earlier
    · exact reached
    · exact absurd (((stamped before).unseen unset).symm.trans earlier) nofun
  | froze connected same before set long moved => exact absurd time online
  | watched connected same before set =>
    have kept : Stamped (recordFreeze watch.state (watch.next inputs).inputs)
        (watch.next inputs :: watch.ticks) := (stamped before).cons set connected same
    exact kept

theorem Sound.next {watch : Watch Number} {inputs : TrackerLivenessInputs Number}
    (sound : Sound watch) (time : 0 ≤ inputs.now) :
    Sound ⟨(watch.next inputs).after, watch.next inputs :: watch.ticks⟩ where
  chained := ⟨rfl, sound.chained⟩
  edges := List.forall_mem_cons.mpr ⟨fun edge => ((edge_iff time).mp edge).2, sound.edges⟩
  stamped := stamped_next sound.stamped time

theorem sound_of_reaches {allowed : Watch Number → TrackerLivenessInputs Number → Prop}
    {watch : Watch Number} (reached : Reaches Watch.step allowed {} watch)
    (timely : ∀ watch inputs, allowed watch inputs → Timely watch inputs) : Sound watch := by
  refine reached.invariant ⟨trivial, nofun, fun _ => ⟨fun _ => rfl, fun set => ?_⟩⟩ ?_
  · exact absurd set neg_one_unset.not_ge
  · intro before inputs after sound met stepped
    obtain rfl := Option.some.inj stepped
    exact sound.next (timely _ _ met).1

/-- The detector returns true exactly on the ticks that take the device offline, never twice without
a reconnect in between, and only on a disconnect or after a frozen window on which the headset
moved. -/
theorem offline_edges {watch : Watch Number} {inputs : TrackerLivenessInputs Number}
    (reached : Reaches Watch.step Timely {} watch) (timely : Timely watch inputs) :
    ((watch.next inputs).edge = true ↔
      ¬(watch.next inputs).before.IsOffline ∧ (watch.next inputs).after.IsOffline) ∧
    ((watch.next inputs).edge = true →
      (∀ between first older, watch.ticks = between ++ first :: older → first.edge = true →
        ∃ change ∈ between, change.before.IsOffline ∧ ¬change.after.IsOffline) ∧
      (inputs.deviceIsConnected = false ∨ ∃ recent rest, watch.ticks = recent ++ rest ∧
        FrozenWindow (watch.next inputs) (watch.next inputs :: recent))) := by
  have sound := sound_of_reaches reached fun _ _ met => met
  refine ⟨edge_iff timely.1, fun edge => ⟨?_, ?_⟩⟩
  · intro between first older split earlier
    have online := ((edge_iff timely.1).mp edge).1
    have chained := sound.chained
    have offline := sound.edges first (split ▸ List.mem_append_right between List.mem_cons_self)
    rw [split] at chained
    exact reconnect_of_edge chained (offline earlier) online
  · have outcome := ticked watch.state inputs
    have returned : (watch.next inputs).edge = (tickTrackerLiveness watch.state inputs).1 := rfl
    rw [returned] at edge
    generalize tickTrackerLiveness watch.state inputs = result at outcome edge
    cases outcome with
    | dropped disconnected _ => exact Or.inl disconnected
    | froze connected same online set long moved =>
      obtain ⟨recent, rest, split, shown, ⟨first, within, time⟩, speeds⟩ :=
        (sound.stamped online).seen set
      refine Or.inr ⟨recent, rest, split, ?_, ⟨first, List.mem_cons_of_mem _ within, ?_⟩, ?_⟩
      · refine List.forall_mem_cons.mpr ⟨⟨connected, rfl⟩, fun tick among => ?_⟩
        exact ⟨(shown tick among).1, (shown tick among).2.trans same.symm⟩
      · rw [time]
        exact long
      · rcases recordFreeze_moved moved with fast | before
        · exact ⟨_, List.mem_cons_self, fast⟩
        · obtain ⟨tick, among, fast⟩ := speeds before
          exact ⟨tick, List.mem_cons_of_mem _ among, fast⟩
    | _ => cases edge

/-! ### The debounce -/

/-- While a debounce runs, the device is offline, the ticks since its start are live, and the last
one shows the pose that is stored. -/
structure Debounced (watch : Watch Number) : Prop where
  offline : 0 ≤ watch.state.reconnectSinceSec → watch.state.IsOffline
  live : 0 ≤ watch.state.reconnectSinceSec → LiveSince watch.state.reconnectSinceSec watch.ticks
  pose : 0 ≤ watch.state.reconnectSinceSec → ∀ last ∈ watch.ticks.head?,
    last.inputs.posHash = watch.state.lastPoseHash

omit [IsStrictOrderedRing Number] in
theorem LiveSince.later {since time : Number} {ticks : List (Tick Number)}
    (live : LiveSince since ticks) (later : since ≤ time) : LiveSince time ticks := by
  induction ticks with
  | nil => trivial
  | cons tick older inductionHypothesis =>
    exact ⟨fun within => live.1 (later.trans within), inductionHypothesis live.2⟩

omit [IsStrictOrderedRing Number] in
/-- A connected tick with another pose goes on with a debounce. -/
theorem Debounced.goesOn {watch : Watch Number} {inputs : TrackerLivenessInputs Number}
    (debounced : Debounced watch) (set : 0 ≤ watch.state.reconnectSinceSec)
    (connected : inputs.deviceIsConnected = true)
    (different : inputs.posHash ≠ watch.state.lastPoseHash) :
    LiveSince watch.state.reconnectSinceSec (watch.next inputs :: watch.ticks) := by
  refine ⟨fun _ => ⟨connected, fun last among same => different ?_⟩, debounced.live set⟩
  rw [← debounced.pose set last among]
  exact same.symm

omit [IsStrictOrderedRing Number] in
theorem Debounced.unset {watch : Watch Number} (unset : watch.state.reconnectSinceSec < 0) :
    Debounced watch :=
  ⟨fun set => absurd set unset.not_ge, fun set => absurd set unset.not_ge,
    fun set => absurd set unset.not_ge⟩

/-- An undisturbed tick keeps the debounce, and a reconnect at the tick ends one. -/
theorem Debounced.next {watch : Watch Number} {inputs : TrackerLivenessInputs Number}
    (debounced : Debounced watch) (undisturbed : Undisturbed watch inputs) :
    Debounced ⟨(watch.next inputs).after, watch.next inputs :: watch.ticks⟩ ∧
      (watch.state.IsOffline → ¬(watch.next inputs).after.IsOffline →
        LiveSince (inputs.now - kReconnectDebounceSec) (watch.next inputs :: watch.ticks)) := by
  have outcome := ticked watch.state inputs
  have result : (watch.next inputs).after = (tickTrackerLiveness watch.state inputs).2 := rfl
  rw [result]
  generalize tickTrackerLiveness watch.state inputs = returned at outcome
  cases outcome with
  | stayedAway disconnected offline =>
    refine ⟨.unset (not_le.mp fun set => ?_), fun _ online => absurd offline online⟩
    exact absurd ((undisturbed.1 set).symm.trans disconnected) nofun
  | dropped disconnected online =>
    exact ⟨.unset neg_one_unset, fun offline => absurd offline online⟩
  | changed connected different online =>
    refine ⟨.unset (not_le.mp fun set => ?_), fun offline => absurd offline online⟩
    exact online (debounced.offline set)
  | debounceStarted connected different offline unset =>
    refine ⟨⟨fun _ => offline, fun _ => ?_, fun _ last among => ?_⟩,
      fun _ online => absurd offline online⟩
    · exact undisturbed.2 ⟨connected, different, offline, unset⟩
    · obtain rfl := Option.some.inj among
      rfl
  | recovered connected different offline set stable =>
    refine ⟨.unset neg_one_unset, fun _ _ => ?_⟩
    exact (debounced.goesOn set connected different).later (le_sub_comm.mp stable)
  | debouncing connected different offline set =>
    refine ⟨⟨fun _ => offline, fun _ => ?_, fun _ last among => ?_⟩,
      fun _ online => absurd offline online⟩
    · exact debounced.goesOn set connected different
    · obtain rfl := Option.some.inj among
      rfl
  | stayedFrozen connected same offline =>
    exact ⟨.unset (recordFreeze_unset _ inputs), fun _ online => absurd offline online⟩
  | stamped connected same online unset =>
    exact ⟨.unset (recordFreeze_unset _ inputs), fun offline => absurd offline online⟩
  | froze connected same online set long moved =>
    exact ⟨.unset neg_one_unset, fun offline => absurd offline online⟩
  | watched connected same online set =>
    exact ⟨.unset (recordFreeze_unset _ inputs), fun offline => absurd offline online⟩

/-- In a run in which no tick disconnects the device while a debounce runs, and every debounce
starts with live ticks, a reconnect is preceded by live ticks for as long as a debounce takes. -/
theorem reconnect_debounce {watch : Watch Number} {inputs : TrackerLivenessInputs Number}
    (reached : Reaches Watch.step Undisturbed {} watch) (undisturbed : Undisturbed watch inputs)
    (offline : watch.state.IsOffline) (online : ¬(watch.next inputs).after.IsOffline) :
    LiveSince (inputs.now - kReconnectDebounceSec) (watch.next inputs :: watch.ticks) := by
  have debounced : Debounced watch := by
    refine reached.invariant (Debounced.unset neg_one_unset) ?_
    intro before inputs after debounced met stepped
    obtain rfl := Option.some.inj stepped
    exact (debounced.next met).1
  exact (debounced.next undisturbed).2 offline online

end Watch

/-! ### A freeze and two reconnects -/

/-- A tick with a headset at rest. -/
def shows (time : Rat) (posHash : UInt64) : TrackerLivenessInputs Rat :=
  ⟨posHash, true, 0, time⟩

def disconnects (time : Rat) : TrackerLivenessInputs Rat :=
  ⟨0, false, 0, time⟩

theorem offline_edges_froze : ∃ watch : Watch Rat,
    (watch.next (shows 9 1)).edge = true ∧
    ∃ recent rest, watch.ticks = recent ++ rest ∧
      FrozenWindow (watch.next (shows 9 1)) (watch.next (shows 9 1) :: recent) := by
  obtain ⟨watch, reached, timely, edge⟩ : ∃ watch : Watch Rat,
      Reaches Watch.step Timely {} watch ∧ Timely watch (shows 9 1) ∧
        (watch.next (shows 9 1)).edge = true :=
    reaches_evaluates [shows 0 1, { shows 5 1 with hmdSpeedMps := 1 }] (by decide +kernel)
  exact ⟨watch, edge, ((offline_edges reached timely).2 edge).2.resolve_left nofun⟩

theorem reconnect_debounce_live : ∃ watch : Watch Rat,
    watch.state.IsOffline ∧ ¬(watch.next (shows 4 4)).after.IsOffline ∧
    LiveSince ((shows 4 4).now - kReconnectDebounceSec)
      (watch.next (shows 4 4) :: watch.ticks) := by
  obtain ⟨watch, reached, undisturbed, offline, online⟩ : ∃ watch : Watch Rat,
      Reaches Watch.step Undisturbed {} watch ∧ Undisturbed watch (shows 4 4) ∧
        watch.state.IsOffline ∧ ¬(watch.next (shows 4 4)).after.IsOffline :=
    reaches_evaluates [shows 0 1, disconnects 1, shows 2 2, shows 3 3] (by decide +kernel)
  exact ⟨watch, offline, online, reconnect_debounce reached undisturbed offline online⟩

/-- A disconnect in the debounce that starts at time 2 does not cancel it. -/
theorem reconnect_after_disconnect : ∃ watch : Watch Rat,
    Reaches Watch.step Timely {} watch ∧ Timely watch (shows 4 3) ∧ watch.state.IsOffline ∧
    ¬(watch.next (shows 4 3)).after.IsOffline ∧
    ¬LiveSince ((shows 4 3).now - kReconnectDebounceSec)
      (watch.next (shows 4 3) :: watch.ticks) :=
  reaches_evaluates [shows 0 1, disconnects 1, shows 2 2, disconnects 3] (by decide +kernel)

end PairDriver.Liveness
