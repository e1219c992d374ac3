/-
This file models how the driver debounces a button and proves that a swallowed edge is
never the last word. An edge that comes too soon after the last forwarded one is swallowed,
and the driver remembers the value and the time of that last one. What it remembers is an
update that a device delivered, so once every update of the other value is older than the
debounce interval, the next update is forwarded.

The configuration, the learned entries, the query of a late serial number and the time are
given with each update. A call in the observation that throws leaves the component as it is
by then, and the update is forwarded.
-/

import PairDriver.InputComponents

namespace PairDriver.InputHealth

/-! ### Compensation of a button -/

section Debounce

variable {Single : Type}

/-- `LookupInputHealthCompensation`. -/
def lookupInputHealthCompensation (comp : Compensation Single) (serialHash : UInt64)
    (path : Text) : Option (CompensationEntry Single) :=
  if serialHash = 0 ∨ path = [] then none
  else (comp ⟨serialHash.toNat, path⟩).filter CompensationEntry.enabled

/-- `ShouldSwallowBooleanUpdate`. -/
def shouldSwallowBooleanUpdate (stats : ComponentStats) (entry : CompensationEntry Single)
    (newValue : Bool) (nowUs : UInt64) : Bool :=
  entry.kind == .boolean && entry.debounceUs != 0 && newValue != stats.lastBoolean &&
    stats.lastCommittedUs != 0 &&
    decide ((nowUs - stats.lastCommittedUs).toNat < entry.debounceUs)

/-- The calls of the observation that can throw: the query of the serial number, the log line about
it, the lookup, and the log line about the first update. -/
inductive Fault where
  | resolve
  | resolvedLog
  | lookup
  | updateLog
deriving DecidableEq

structure InputHealthConfig where
  masterEnabled : Bool
  diagnosticsOnly : Bool
deriving DecidableEq

/-- An update of a button, with what the driver finds when it arrives. There is no configuration
without a driver. -/
structure BooleanUpdate (Single : Type) where
  newValue : Bool
  nowUs : UInt64
  config : Option InputHealthConfig
  comp : Compensation Single
  serialHash : UInt64 := 0
  fault : Option Fault := none

/-- `ObserveBooleanSample`. -/
def observeBooleanSample (newValue : Bool) (stats : ComponentStats) : ComponentStats :=
  if newValue != stats.pendingState then
    { stats with
      pressCount := if newValue then stats.pressCount + 1 else stats.pressCount
      pendingState := newValue }
  else stats

/-- The retry of the query for the serial number, at most once in a second. -/
def resolveLateSerial (update : BooleanUpdate Single) (stats : ComponentStats) :
    Except ComponentStats ComponentStats :=
  if stats.deviceSerialHash = 0 ∧ update.nowUs - stats.lastSerialResolveAttemptUs > 1000000 then
    let attempted := { stats with lastSerialResolveAttemptUs := update.nowUs }
    if update.fault = some .resolve then .error attempted
    else
      let resolved := { attempted with deviceSerialHash := update.serialHash }
      if resolved.deviceSerialHash ≠ 0 ∧ resolved.serialResolutionLogged = false then
        let logged := { resolved with serialResolutionLogged := true }
        if update.fault = some .resolvedLog then .error logged else .ok logged
      else .ok resolved
  else .ok stats

/-- Whether the update is swallowed, by the entry of the component. -/
def judgeUpdate (update : BooleanUpdate Single) (stats : ComponentStats) :
    Except ComponentStats Bool :=
  if stats.deviceSerialHash = 0 then .ok false
  else if update.fault = some .lookup then .error stats
  else
    .ok ((lookupInputHealthCompensation update.comp stats.deviceSerialHash stats.path).any
      fun entry => shouldSwallowBooleanUpdate stats entry update.newValue update.nowUs)

/-- An edge that is not swallowed is remembered. -/
def commitUpdate (swallow : Bool) (update : BooleanUpdate Single) (stats : ComponentStats) :
    ComponentStats :=
  if !swallow && update.newValue != stats.lastBoolean then
    { stats with lastBoolean := update.newValue, lastCommittedUs := update.nowUs }
  else stats

/-- The time of the update, and the log line if it is the first. -/
def finishUpdate (update : BooleanUpdate Single) (stats : ComponentStats) :
    Except ComponentStats ComponentStats :=
  let updated := { stats with lastUpdateUs := update.nowUs }
  if updated.firstUpdateLogged then .ok updated
  else
    let logged := { updated with firstUpdateLogged := true }
    if update.fault = some .updateLog then .error logged else .ok logged

/-- What the hook does to a component: whether the update is swallowed, and the component after it,
or the component that is left behind when a call throws. -/
def observeUpdate (diagnosticsOnly : Bool) (update : BooleanUpdate Single)
    (stats : ComponentStats) : Except ComponentStats (Bool × ComponentStats) := do
  let observed := observeBooleanSample update.newValue stats
  let resolved ← (if diagnosticsOnly then .ok observed else resolveLateSerial update observed)
  let swallow ← (if diagnosticsOnly then .ok false else judgeUpdate update resolved)
  let finished ← finishUpdate update (commitUpdate swallow update resolved)
  .ok (swallow, finished)

/-- `DetourUpdateBooleanComponent`: whether the update is forwarded, and the component after it. -/
def detourUpdateBooleanComponent (update : BooleanUpdate Single)
    (component : Option ComponentStats) : Bool × Option ComponentStats :=
  match update.config, component with
  | some config, some stats =>
    if config.masterEnabled then
      match observeUpdate config.diagnosticsOnly update stats with
      | .ok (swallow, after) => (!swallow, some after)
      | .error left => (true, some left)
    else (true, some stats)
  | _, _ => (true, component)

/-- An `InputHealthResetStats` request. -/
structure ResetRequest where
  serialHash : UInt64
  resetPassive : Bool
deriving DecidableEq

def kSerialHashAllDevices : UInt64 := 0

/-- The last pass of `ApplyResetRequest` over a component that was there in the first one, with the
hash it was found to have then. -/
def ResetRequest.apply (request : ResetRequest) (hash : UInt64) (stats : ComponentStats) :
    ComponentStats :=
  let known :=
    if hash ≠ 0 ∧ stats.deviceSerialHash = 0 then { stats with deviceSerialHash := hash } else stats
  if request.serialHash ≠ kSerialHashAllDevices ∧ known.deviceSerialHash ≠ request.serialHash then
    known
  else if request.resetPassive then known.resetPassive
  else known

/-! ### Runs -/

/-- The registered components, and the value of each handle that SteamVR was given last. -/
structure ButtonSystem where
  components : Components := noComponents
  forwarded : UInt64 → Option Bool := fun _ => none

/-- What happens to the components. A reset comes with the components its first pass found, and the
hashes they were found to have. -/
inductive ButtonEvent (Single : Type) where
  | register (registration : Registration)
  | update (handle : UInt64) (update : BooleanUpdate Single)
  | reset (request : ResetRequest) (found : UInt64 → Option UInt64)

def ButtonSystem.step (system : ButtonSystem) : ButtonEvent Single → ButtonSystem
  | .register registration =>
    { system with components := system.components.register registration }
  | .update handle update =>
    let result := detourUpdateBooleanComponent update (system.components handle)
    { components := Function.update system.components handle result.2
      forwarded :=
        if result.1 then Function.update system.forwarded handle (some update.newValue)
        else system.forwarded }
  | .reset request found =>
    { system with
      components := fun handle =>
        match found handle with
        | some hash => (system.components handle).map (request.apply hash)
        | none => system.components handle }

/-- The system some events lead to from the start. -/
def afterEvents (events : List (ButtonEvent Single)) : ButtonSystem :=
  events.foldl ButtonSystem.step {}

/-- The update of a handle an event is. -/
def ButtonEvent.rawUpdate (handle : UInt64) : ButtonEvent Single → Option (BooleanUpdate Single)
  | .update other raw => if other = handle then some raw else none
  | _ => none

/-- The updates of a handle, in order. -/
def rawUpdates (handle : UInt64) (events : List (ButtonEvent Single)) :
    List (BooleanUpdate Single) :=
  events.filterMap (ButtonEvent.rawUpdate handle)

/-- The last value a device delivered for a handle. -/
def lastRaw (handle : UInt64) (events : List (ButtonEvent Single)) : Option Bool :=
  (rawUpdates handle events).getLast?.map BooleanUpdate.newValue

/-- The hash a component is looked up with: its own, or what a late query comes to. -/
def ComponentStats.lookupHash (stats : ComponentStats) (update : BooleanUpdate Single) : UInt64 :=
  if stats.deviceSerialHash = 0 then update.serialHash else stats.deviceSerialHash

/-- The learned debounce interval of a component when an update arrives, or 0. -/
def ComponentStats.debounceUs (stats : ComponentStats) (update : BooleanUpdate Single) : Nat :=
  ((lookupInputHealthCompensation update.comp (stats.lookupHash update) stats.path).map
    CompensationEntry.debounceUs).getD 0

/-- The age of an earlier update, as the clock of the driver counts. -/
def BooleanUpdate.age (update earlier : BooleanUpdate Single) : Nat :=
  (update.nowUs - earlier.nowUs).toNat

/-- The raw input has been stable for the debounce interval when an update arrives: every earlier
update of the other value is that old. -/
def StableFor (handle : UInt64) (before : List (ButtonEvent Single))
    (update : BooleanUpdate Single) : Prop :=
  ∀ stats, (afterEvents before).components handle = some stats →
    ∀ earlier ∈ rawUpdates handle before, earlier.newValue ≠ update.newValue →
      stats.debounceUs update ≤ update.age earlier

/-- The last update of a handle came when the raw input had been stable. -/
def Settled (handle : UInt64) (events : List (ButtonEvent Single)) : Prop :=
  ∃ before update after, events = before ++ .update handle update :: after ∧
    (∀ event ∈ after, event.rawUpdate handle = none) ∧ StableFor handle before update

/-! ### What an update does to a component -/

/-- A computation that succeeds has succeeded in its first part. -/
theorem bind_ok {Failure First Second : Type} {first : Except Failure First}
    {next : First → Except Failure Second} {result : Second}
    (done : (first >>= next) = .ok result) :
    ∃ produced, first = .ok produced ∧ next produced = .ok result := by
  cases first with
  | error failure => exact nomatch done
  | ok produced => exact ⟨produced, rfl, done⟩

theorem bind_error {Failure First Second : Type} {first : Except Failure First}
    {next : First → Except Failure Second} {failure : Failure}
    (thrown : (first >>= next) = .error failure) :
    first = .error failure ∨ ∃ produced, first = .ok produced ∧ next produced = .error failure := by
  cases first with
  | error earlier => exact Or.inl (congrArg Except.error (Except.error.inj thrown))
  | ok produced => exact Or.inr ⟨produced, rfl, thrown⟩

/-- The edge a component remembers. -/
def ComponentStats.edge (stats : ComponentStats) : Bool × UInt64 :=
  (stats.lastBoolean, stats.lastCommittedUs)

/-- The component an observation ends with, whether or not a call threw. -/
def leftBehind : Except ComponentStats ComponentStats → ComponentStats
  | .ok stats => stats
  | .error stats => stats

theorem observeBooleanSample_edge (newValue : Bool) (stats : ComponentStats) :
    (observeBooleanSample newValue stats).edge = stats.edge := by
  unfold observeBooleanSample
  split <;> rfl

theorem observeBooleanSample_path (newValue : Bool) (stats : ComponentStats) :
    (observeBooleanSample newValue stats).path = stats.path := by
  unfold observeBooleanSample
  split <;> rfl

theorem observeBooleanSample_serial (newValue : Bool) (stats : ComponentStats) :
    (observeBooleanSample newValue stats).deviceSerialHash = stats.deviceSerialHash := by
  unfold observeBooleanSample
  split <;> rfl

theorem resolveLateSerial_edge (update : BooleanUpdate Single) (stats : ComponentStats) :
    (leftBehind (resolveLateSerial update stats)).edge = stats.edge := by
  unfold resolveLateSerial
  dsimp only
  split_ifs <;> rfl

theorem finishUpdate_edge (update : BooleanUpdate Single) (stats : ComponentStats) :
    (leftBehind (finishUpdate update stats)).edge = stats.edge := by
  unfold finishUpdate
  dsimp only
  split_ifs <;> rfl

/-- After the retry a component has no serial number, or the one it is looked up with. -/
theorem resolveLateSerial_ok {update : BooleanUpdate Single} {stats resolved : ComponentStats}
    (done : resolveLateSerial update stats = .ok resolved) :
    resolved.path = stats.path ∧
      (resolved.deviceSerialHash = 0 ∨ resolved.deviceSerialHash = stats.lookupHash update) := by
  unfold resolveLateSerial at done
  unfold ComponentStats.lookupHash
  dsimp only at done
  by_cases unknown : stats.deviceSerialHash = 0
  · rw [if_pos unknown]
    split_ifs at done <;> cases done <;> simp_all
  · rw [if_neg fun both => unknown both.1] at done
    rw [if_neg unknown]
    cases done
    exact ⟨rfl, Or.inr rfl⟩

/-- A lookup that throws leaves the component alone. -/
theorem judgeUpdate_error {update : BooleanUpdate Single} {stats left : ComponentStats}
    (thrown : judgeUpdate update stats = .error left) : left = stats := by
  unfold judgeUpdate at thrown
  split_ifs at thrown
  exact (Except.error.inj thrown).symm

theorem commitUpdate_edge (swallow : Bool) (update : BooleanUpdate Single)
    (stats : ComponentStats) :
    (commitUpdate swallow update stats).edge = stats.edge ∨
      (commitUpdate swallow update stats).edge = (update.newValue, update.nowUs) := by
  unfold commitUpdate
  split
  · exact Or.inr rfl
  · exact Or.inl rfl

/-- An update is swallowed only if it is an edge that comes too soon after the last one. -/
theorem judgeUpdate_true {update : BooleanUpdate Single} {stats : ComponentStats}
    (swallowed : judgeUpdate update stats = .ok true) :
    stats.deviceSerialHash ≠ 0 ∧ ∃ entry,
      lookupInputHealthCompensation update.comp stats.deviceSerialHash stats.path = some entry ∧
        update.newValue ≠ stats.lastBoolean ∧ stats.lastCommittedUs ≠ 0 ∧
          (update.nowUs - stats.lastCommittedUs).toNat < entry.debounceUs := by
  unfold judgeUpdate at swallowed
  by_cases unknown : stats.deviceSerialHash = 0
  · rw [if_pos unknown] at swallowed
    exact nomatch swallowed
  by_cases thrown : update.fault = some .lookup
  · rw [if_neg unknown, if_pos thrown] at swallowed
    exact nomatch swallowed
  rw [if_neg unknown, if_neg thrown] at swallowed
  cases entry : lookupInputHealthCompensation update.comp stats.deviceSerialHash stats.path with
  | none =>
    rw [entry] at swallowed
    exact nomatch swallowed
  | some found =>
    rw [entry, Option.any_some] at swallowed
    have judged := Except.ok.inj swallowed
    simp only [shouldSwallowBooleanUpdate, Bool.and_eq_true, bne_iff_ne, beq_iff_eq,
      decide_eq_true_eq] at judged
    exact ⟨unknown, found, rfl, judged.1.1.2, judged.1.2, judged.2⟩

/-- A swallowed update was judged, and by a component nothing had thrown for. -/
theorem observeUpdate_judged {diagnosticsOnly : Bool} {update : BooleanUpdate Single}
    {stats after : ComponentStats}
    (swallowed : observeUpdate diagnosticsOnly update stats = .ok (true, after)) :
    ∃ resolved, resolveLateSerial update (observeBooleanSample update.newValue stats) =
        .ok resolved ∧ judgeUpdate update resolved = .ok true := by
  unfold observeUpdate at swallowed
  obtain ⟨resolved, known, rest⟩ := bind_ok swallowed
  obtain ⟨swallow, judged, rest⟩ := bind_ok rest
  obtain ⟨finished, -, same⟩ := bind_ok rest
  obtain rfl : swallow = true := congrArg Prod.fst (Except.ok.inj same)
  cases diagnosticsOnly with
  | true => exact nomatch judged
  | false => exact ⟨resolved, known, judged⟩

/-- A swallowed update is an edge that comes within the interval of the component. -/
theorem observeUpdate_swallowed {diagnosticsOnly : Bool} {update : BooleanUpdate Single}
    {stats after : ComponentStats}
    (swallowed : observeUpdate diagnosticsOnly update stats = .ok (true, after)) :
    update.newValue ≠ stats.lastBoolean ∧ stats.lastCommittedUs ≠ 0 ∧
      (update.nowUs - stats.lastCommittedUs).toNat < stats.debounceUs update := by
  obtain ⟨resolved, known, judged⟩ := observeUpdate_judged swallowed
  obtain ⟨identified, entry, found, edge, committed, soon⟩ := judgeUpdate_true judged
  have same : resolved.edge = stats.edge := by
    have kept := resolveLateSerial_edge update (observeBooleanSample update.newValue stats)
    rw [known] at kept
    exact kept.trans (observeBooleanSample_edge update.newValue stats)
  have value : resolved.lastBoolean = stats.lastBoolean := congrArg Prod.fst same
  have time : resolved.lastCommittedUs = stats.lastCommittedUs := congrArg Prod.snd same
  obtain ⟨path, serial⟩ := resolveLateSerial_ok known
  have hash : resolved.deviceSerialHash = stats.lookupHash update := by
    rw [serial.resolve_left identified]
    unfold ComponentStats.lookupHash
    rw [observeBooleanSample_serial]
  rw [path, observeBooleanSample_path, hash] at found
  rw [value] at edge
  rw [time] at committed soon
  refine ⟨edge, committed, ?_⟩
  unfold ComponentStats.debounceUs
  rw [found]
  exact soon

/-- The update finishes with the edge it was given, or with its own. -/
theorem finished_edge {swallow : Bool} {update : BooleanUpdate Single}
    {stats resolved : ComponentStats} (same : resolved.edge = stats.edge)
    {result : Except ComponentStats ComponentStats}
    (finished : finishUpdate update (commitUpdate swallow update resolved) = result) :
    (leftBehind result).edge = stats.edge ∨
      (leftBehind result).edge = (update.newValue, update.nowUs) := by
  rw [← finished, finishUpdate_edge, ← same]
  exact commitUpdate_edge swallow update resolved

section Observation

variable {diagnosticsOnly : Bool} {update : BooleanUpdate Single} {stats : ComponentStats}

/-- The retry of the query keeps the remembered edge, whether or not it throws. -/
theorem resolved_edge {result : Except ComponentStats ComponentStats}
    (resolved : (if diagnosticsOnly then .ok (observeBooleanSample update.newValue stats)
      else resolveLateSerial update (observeBooleanSample update.newValue stats)) = result) :
    (leftBehind result).edge = stats.edge := by
  rw [← resolved, ← observeBooleanSample_edge update.newValue stats]
  cases diagnosticsOnly with
  | true => rfl
  | false => exact resolveLateSerial_edge update _

/-- An update that is observed leaves the remembered edge or makes it its own. -/
theorem observeUpdate_ok_edge {swallow : Bool} {after : ComponentStats}
    (observed : observeUpdate diagnosticsOnly update stats = .ok (swallow, after)) :
    after.edge = stats.edge ∨ after.edge = (update.newValue, update.nowUs) := by
  unfold observeUpdate at observed
  obtain ⟨resolved, known, rest⟩ := bind_ok observed
  obtain ⟨judged, -, rest⟩ := bind_ok rest
  obtain ⟨finished, ends, same⟩ := bind_ok rest
  obtain rfl : finished = after := congrArg Prod.snd (Except.ok.inj same)
  exact finished_edge (resolved_edge known) ends

/-- So does one whose observation throws. -/
theorem observeUpdate_error_edge {left : ComponentStats}
    (thrown : observeUpdate diagnosticsOnly update stats = .error left) :
    left.edge = stats.edge ∨ left.edge = (update.newValue, update.nowUs) := by
  unfold observeUpdate at thrown
  rcases bind_error thrown with early | ⟨resolved, known, rest⟩
  · exact Or.inl (resolved_edge early)
  rcases bind_error rest with judged | ⟨swallow, -, rest⟩
  · cases diagnosticsOnly with
    | true => exact nomatch judged
    | false => exact Or.inl (judgeUpdate_error judged ▸ resolved_edge known)
  rcases bind_error rest with late | ⟨finished, -, done⟩
  · exact finished_edge (resolved_edge known) late
  · exact nomatch done

end Observation

/-- An update leaves the remembered edge of a component or makes it its own. -/
theorem detour_edge (update : BooleanUpdate Single) (stats : ComponentStats) :
    ∃ after, (detourUpdateBooleanComponent update (some stats)).2 = some after ∧
      (after.edge = stats.edge ∨ after.edge = (update.newValue, update.nowUs)) := by
  unfold detourUpdateBooleanComponent
  cases update.config with
  | none => exact ⟨stats, rfl, Or.inl rfl⟩
  | some config =>
    by_cases enabled : config.masterEnabled = true
    · simp only [if_pos enabled]
      cases observed : observeUpdate config.diagnosticsOnly update stats with
      | ok result => exact ⟨result.2, rfl, observeUpdate_ok_edge observed⟩
      | error left => exact ⟨left, rfl, observeUpdate_error_edge observed⟩
    · simp only [if_neg enabled]
      exact ⟨stats, rfl, Or.inl rfl⟩

/-- A handle that is not registered stays so. -/
theorem detour_none (update : BooleanUpdate Single) :
    detourUpdateBooleanComponent update none = (true, none) := by
  unfold detourUpdateBooleanComponent
  cases update.config <;> rfl

/-- An update that is not forwarded is an edge that comes within the interval of its component. -/
theorem detour_swallowed {update : BooleanUpdate Single} {component : Option ComponentStats}
    (swallowed : (detourUpdateBooleanComponent update component).1 = false) :
    ∃ stats, component = some stats ∧ update.newValue ≠ stats.lastBoolean ∧
      stats.lastCommittedUs ≠ 0 ∧
        (update.nowUs - stats.lastCommittedUs).toNat < stats.debounceUs update := by
  cases component with
  | none => exact nomatch (congrArg Prod.fst (detour_none update)).symm.trans swallowed
  | some stats =>
    refine ⟨stats, rfl, ?_⟩
    unfold detourUpdateBooleanComponent at swallowed
    cases configured : update.config with
    | none =>
      rw [configured] at swallowed
      exact nomatch swallowed
    | some config =>
      simp only [configured] at swallowed
      by_cases enabled : config.masterEnabled = true
      · rw [if_pos enabled] at swallowed
        cases observed : observeUpdate config.diagnosticsOnly update stats with
        | error left =>
          rw [observed] at swallowed
          exact nomatch swallowed
        | ok result =>
          rw [observed] at swallowed
          obtain ⟨swallow, after⟩ := result
          obtain rfl : swallow = true := by simpa using swallowed
          exact observeUpdate_swallowed observed
      · rw [if_neg enabled] at swallowed
        exact nomatch swallowed

/-! ### What the components remember -/

/-- The edge a handle remembers; a handle that is not registered remembers none. -/
def Components.edgeOf (components : Components) (handle : UInt64) : Bool × UInt64 :=
  ((components handle).getD {}).edge

theorem write_edgeOf (components : Components) (handle other : UInt64)
    {change : ComponentStats → ComponentStats} (keeps : ∀ stats, (change stats).edge = stats.edge) :
    (components.write handle change).edgeOf other = components.edgeOf other := by
  unfold Components.edgeOf
  by_cases here : other = handle
  · rw [here, write_self]
    exact keeps _
  · rw [write_other _ _ here]

theorem linkTo_edge (partner : UInt64) (stats : ComponentStats) :
    (stats.linkTo partner).edge = stats.edge := rfl

/-- A component keeps its edge when it is registered again. -/
theorem register_edgeOf (components : Components) (registration : Registration)
    (handle : UInt64) :
    (components.register registration).edgeOf handle = components.edgeOf handle := by
  unfold Components.register
  by_cases missing : registration.creation.handle = invalidHandle
  · rw [if_pos missing]
  · rw [if_neg missing]
    cases registration with
    | boolean creation => exact write_edgeOf components _ handle fun _ => rfl
    | scalar creation order =>
      have entered : (components.enterScalar creation).edgeOf handle = components.edgeOf handle :=
        write_edgeOf components _ handle fun _ => rfl
      show (components.registerScalar creation order).edgeOf handle = _
      unfold Components.registerScalar
      by_cases found : components.partnerFor creation order = 0
      · simp only [if_pos found]
        exact entered
      · simp only [if_neg found]
        rw [write_edgeOf _ _ handle (linkTo_edge _), write_edgeOf _ _ handle (linkTo_edge _), entered]

/-- A reset keeps the edge of a component or forgets it. -/
theorem reset_edge (request : ResetRequest) (hash : UInt64) (stats : ComponentStats) :
    (request.apply hash stats).edge = stats.edge ∨ (request.apply hash stats).edge = (false, 0) := by
  unfold ResetRequest.apply
  dsimp only
  split_ifs <;> first | exact Or.inl rfl | exact Or.inr rfl

/-- An event leaves the edge a handle remembers, forgets it, or is an update of the handle that
takes its place. -/
theorem step_edgeOf (system : ButtonSystem) (event : ButtonEvent Single) (handle : UInt64) :
    (system.step event).components.edgeOf handle = system.components.edgeOf handle ∨
      (system.step event).components.edgeOf handle = (false, 0) ∨
        ∃ update, event.rawUpdate handle = some update ∧
          (system.step event).components.edgeOf handle = (update.newValue, update.nowUs) := by
  cases event with
  | register registration => exact Or.inl (register_edgeOf _ registration handle)
  | update other update =>
    by_cases here : handle = other
    · subst here
      unfold ButtonSystem.step Components.edgeOf
      dsimp only
      rw [Function.update_self]
      cases entry : system.components handle with
      | none =>
        rw [detour_none]
        exact Or.inl rfl
      | some stats =>
        obtain ⟨after, same, edge⟩ := detour_edge update stats
        rw [same]
        exact edge.imp id fun own => Or.inr ⟨update, if_pos rfl, own⟩
    · unfold ButtonSystem.step Components.edgeOf
      dsimp only
      rw [Function.update_of_ne here]
      exact Or.inl rfl
  | reset request found =>
    unfold ButtonSystem.step Components.edgeOf
    dsimp only
    cases found handle with
    | none => exact Or.inl rfl
    | some hash =>
      cases entry : system.components handle with
      | none => exact Or.inl rfl
      | some stats => exact (reset_edge request hash stats).imp id Or.inl

theorem afterEvents_snoc (events : List (ButtonEvent Single)) (event : ButtonEvent Single) :
    afterEvents (events ++ [event]) = (afterEvents events).step event :=
  List.foldl_concat _ _ _ _

theorem rawUpdates_snoc (handle : UInt64) (events : List (ButtonEvent Single))
    (event : ButtonEvent Single) :
    rawUpdates handle (events ++ [event]) =
      rawUpdates handle events ++ (event.rawUpdate handle).toList := by
  unfold rawUpdates
  rw [List.filterMap_append, List.filterMap_cons]
  cases event.rawUpdate handle <;> rfl

theorem rawUpdates_quiet (handle : UInt64) (before after : List (ButtonEvent Single))
    (quiet : ∀ event ∈ after, event.rawUpdate handle = none) :
    rawUpdates handle (before ++ after) = rawUpdates handle before := by
  unfold rawUpdates
  rw [List.filterMap_append, List.filterMap_eq_nil_iff.mpr quiet, List.append_nil]

/-- The edge a handle remembers is an update that was delivered for it. -/
theorem edge_delivered (events : List (ButtonEvent Single)) (handle : UInt64)
    (committed : ((afterEvents events).components.edgeOf handle).2 ≠ 0) :
    ∃ earlier ∈ rawUpdates handle events,
      (earlier.newValue, earlier.nowUs) = (afterEvents events).components.edgeOf handle := by
  induction events using List.reverseRecOn with
  | nil => exact absurd rfl committed
  | append_singleton events event inductionHypothesis =>
    rw [afterEvents_snoc] at committed ⊢
    rw [rawUpdates_snoc]
    rcases step_edgeOf (afterEvents events) event handle with same | none | ⟨update, raw, own⟩
    · rw [same] at committed ⊢
      obtain ⟨earlier, member, edge⟩ := inductionHypothesis committed
      exact ⟨earlier, List.mem_append_left _ member, edge⟩
    · rw [none] at committed
      exact absurd rfl committed
    · refine ⟨update, List.mem_append_right _ ?_, own.symm⟩
      rw [raw]
      exact List.mem_singleton_self update

/-! ### The last update -/

/-- An update that comes when the raw input has been stable is forwarded. -/
theorem stable_forwarded {handle : UInt64} {before : List (ButtonEvent Single)}
    {update : BooleanUpdate Single} (stable : StableFor handle before update) :
    (afterEvents (before ++ [.update handle update])).forwarded handle = some update.newValue := by
  rw [afterEvents_snoc]
  unfold ButtonSystem.step
  dsimp only
  have forwards : (detourUpdateBooleanComponent update
      ((afterEvents before).components handle)).1 = true := by
    by_contra swallowed
    obtain ⟨stats, entry, edge, committed, soon⟩ :=
      detour_swallowed (Bool.eq_false_of_not_eq_true swallowed)
    have remembered : (afterEvents before).components.edgeOf handle = stats.edge := by
      rw [Components.edgeOf, entry]
      rfl
    obtain ⟨earlier, member, same⟩ := edge_delivered before handle (remembered ▸ committed)
    rw [remembered] at same
    have value : earlier.newValue = stats.lastBoolean := congrArg Prod.fst same
    have time : earlier.nowUs = stats.lastCommittedUs := congrArg Prod.snd same
    have old := stable stats entry earlier member fun equal => edge (equal.symm.trans value)
    rw [BooleanUpdate.age, time] at old
    exact Nat.not_lt.mpr old soon
  rw [if_pos forwards, Function.update_self]

/-- Other events forward nothing for a handle. -/
theorem step_forwarded_other (system : ButtonSystem) (event : ButtonEvent Single)
    {handle : UInt64} (quiet : event.rawUpdate handle = none) :
    (system.step event).forwarded handle = system.forwarded handle := by
  cases event with
  | register registration => rfl
  | reset request found => rfl
  | update other update =>
    have different : handle ≠ other := by
      rintro rfl
      exact nomatch (if_pos rfl).symm.trans quiet
    unfold ButtonSystem.step
    dsimp only
    split_ifs
    · rw [Function.update_of_ne different]
    · rfl

theorem afterEvents_forwarded_quiet (handle : UInt64) (before after : List (ButtonEvent Single))
    (quiet : ∀ event ∈ after, event.rawUpdate handle = none) :
    (afterEvents (before ++ after)).forwarded handle = (afterEvents before).forwarded handle := by
  induction after using List.reverseRecOn with
  | nil => rw [List.append_nil]
  | append_singleton after event inductionHypothesis =>
    rw [← List.append_assoc, afterEvents_snoc, step_forwarded_other _ event
      (quiet event (List.mem_append_right _ (List.mem_singleton_self event)))]
    exact inductionHypothesis fun other member => quiet other (List.mem_append_left _ member)

/-- A swallowed edge is never the last word: once a button has settled, SteamVR has the value the
device delivered last. -/
theorem settled_button_forwarded (handle : UInt64) (events : List (ButtonEvent Single))
    (settled : Settled handle events) :
    (afterEvents events).forwarded handle = lastRaw handle events := by
  obtain ⟨before, update, after, rfl, quiet, stable⟩ := settled
  have raws : rawUpdates handle (before ++ .update handle update :: after) =
      rawUpdates handle before ++ [update] := by
    rw [List.append_cons, rawUpdates_quiet handle _ after quiet, rawUpdates_snoc]
    simp only [ButtonEvent.rawUpdate, if_pos, Option.toList_some]
  rw [List.append_cons, afterEvents_forwarded_quiet handle _ after quiet, stable_forwarded stable,
    lastRaw, ← List.append_cons, raws, List.getLast?_concat]
  rfl

end Debounce

/-! ### A button that bounces -/

/-- A button whose entry has an interval of a millisecond. -/
def bouncingEntry : CompensationEntry Unit where
  serial := 5
  path := ascii "/input/a/click"
  kind := .boolean
  enabled := true
  restOffset := ()
  triggerMin := ()
  triggerMax := ()
  deadzoneRadius := ()
  debounceUs := 1000

def bouncingUpdate (newValue : Bool) (nowUs : UInt64) : BooleanUpdate Unit where
  newValue := newValue
  nowUs := nowUs
  config := some ⟨true, false⟩
  comp := fun key => if key = ⟨5, ascii "/input/a/click"⟩ then some bouncingEntry else none

/-- The button is pressed, and released within the interval. -/
def bounceEvents : List (ButtonEvent Unit) :=
  [.register (.boolean ⟨1, 7, ascii "/input/a/click", 5⟩), .update 1 (bouncingUpdate true 1000),
    .update 1 (bouncingUpdate false 1500)]

/-- The release is swallowed, and is forwarded when it is delivered again later. -/
theorem bounced_release_forwarded :
    (afterEvents bounceEvents).forwarded 1 = some true ∧
      (afterEvents (bounceEvents ++ [.update 1 (bouncingUpdate false 4000)])).forwarded 1 =
        lastRaw 1 (bounceEvents ++ [.update 1 (bouncingUpdate false 4000)]) := by
  refine ⟨by decide +kernel, settled_button_forwarded 1 _
    ⟨bounceEvents, bouncingUpdate false 4000, [], rfl, List.forall_mem_nil _, ?_⟩⟩
  intro stats entry
  have known : (afterEvents bounceEvents).components 1 =
      some
        { path := ascii "/input/a/click"
          isBoolean := true
          containerHandle := 7
          deviceSerialHash := 5
          firstUpdateLogged := true
          lastUpdateUs := 1500
          pressCount := 1
          lastBoolean := true
          lastCommittedUs := 1000 } := by
    decide +kernel
  obtain rfl := Option.some.inj (known.symm.trans entry)
  decide +kernel

end PairDriver.InputHealth
