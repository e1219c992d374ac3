/-
This file proves what the circuit breaker of the face module host does. A log
records beside the host what happens to the runs of its loop. Runs whose process
started are counted, and no more of them than the threshold end fast in a row; an
attempt that fails to start returns before it is counted and is made again at once.
The counter asks only how long a run has lasted, so the breaker trips for three
crashes of a module as long as no run is cut short by something else.
-/

import PairDriver.ModuleHost

namespace PairDriver.ModuleHost

/-! ### The log -/

/-- A run that has ended: whether it was fast, and whether its process had ended by itself. -/
structure EndedRun where
  uuid : Text
  fast : Bool
  crashed : Bool
deriving DecidableEq

/-- What is recorded beside the host. -/
inductive Record where
  | selected
  | failed (uuid : Text)
  | ended (run : EndedRun)
  | tripped (uuid : Text)
deriving DecidableEq

/-- A host with the log of its runs, newest first; `crashed` tells whether the process of a run in
its teardown had already ended when that began. -/
structure Watched (Number : Type) where
  host : Host Number := {}
  log : List Record := []
  crashed : Bool := false

/-- The runs of a log. -/
def runsOf (log : List Record) : List EndedRun :=
  log.filterMap fun
    | .ended run => some run
    | _ => none

/-- How many of the latest attempts since the last selection are attempts of a module that were
fast or failed to start. -/
def shortAttempts (uuid : Text) : List Record → Nat
  | [] => 0
  | .selected :: _ => 0
  | .tripped _ :: rest => shortAttempts uuid rest
  | .failed other :: rest => if other = uuid then shortAttempts uuid rest + 1 else 0
  | .ended run :: rest =>
    if run.uuid = uuid ∧ run.fast = true then shortAttempts uuid rest + 1 else 0

section Breaker

variable {Number : Type}

/-- The module of a run, from its start to the end of its teardown. -/
def Phase.module : Phase Number → Option DiscoveredModule
  | .idle => none
  | .spawning module => some module
  | .waitingForHandshake running | .queryingCapabilities running | .initializing running
  | .pulling running _ _ | .delaying running _ _ | .tearingDown running => some running.module

/-- The process of the current run has exited. -/
def Host.processExited (host : Host Number) : Bool :=
  host.phase.running.any fun running => host.subprocesses[running.number]?.any (·.exited)

/-- The breaker has counted up to the threshold for a module. -/
def Host.Halts (host : Host Number) (uuid : Text) : Prop :=
  host.breakerUuid = some uuid ∧ crashHaltThreshold ≤ host.breakerCount

instance (host : Host Number) (uuid : Text) : Decidable (host.Halts uuid) :=
  inferInstanceAs (Decidable (_ ∧ _))

/-- What an event adds to the log. The breaker trips where the loop finds that it is to halt, and
where the count of a fast run reaches the threshold. -/
def records (watched : Watched Number) (after : Host Number) : Event Number → List Record
  | .select _ _ => [.selected]
  | .begin =>
    match watched.host.activeModule with
    | some module => if watched.host.Halts module.uuid then [.tripped module.uuid] else []
    | none => []
  | .spawn started =>
    match watched.host.phase.module with
    | some module => if started then [] else [.failed module.uuid]
    | none => []
  | .tearDown fast _ =>
    match watched.host.phase.module with
    | some module =>
      let run := Record.ended ⟨module.uuid, fast, watched.crashed⟩
      if fast ∧ after.Halts module.uuid then [.tripped module.uuid, run] else [run]
    | none => []
  | _ => []

/-! ### Conditions -/

/-- Every attempt starts a process. -/
def Starts (_ : Watched Number) : Event Number → Prop
  | .spawn started => started = true
  | _ => True

/-- A run that is fast was ended by its own process. -/
def EndsByItself (watched : Watched Number) : Event Number → Prop
  | .tearDown fast _ => fast = true → watched.crashed = true
  | _ => True

instance (watched : Watched Number) (event : Event Number) : Decidable (Starts watched event) :=
  match event with
  | .spawn _ => inferInstanceAs (Decidable (_ = _))
  | .select _ _ | .send _ _ | .exit _ | .deliver _ | .lose _ | .begin | .advance | .giveUp | .pull _
  | .snapshot | .tearDown _ _ => isTrue trivial

instance (watched : Watched Number) (event : Event Number) :
    Decidable (EndsByItself watched event) :=
  match event with
  | .tearDown _ _ => inferInstanceAs (Decidable (_ → _))
  | .select _ _ | .send _ _ | .exit _ | .deliver _ | .lose _ | .begin | .advance | .giveUp | .pull _
  | .snapshot | .spawn _ => isTrue trivial

/-! ### Steps beside the breaker -/

/-- A step that leaves the breaker and the run alone, and selects no module. -/
structure Beside (host after : Host Number) : Prop where
  uuid : after.breakerUuid = host.breakerUuid
  count : after.breakerCount = host.breakerCount
  active : ∀ module ∈ after.activeModule, module ∈ host.activeModule
  running : ∀ module ∈ after.phase.module, module ∈ host.phase.module

/-- The events that do not touch the breaker. -/
def Event.isBeside : Event Number → Bool
  | .select _ _ | .begin | .tearDown _ _ => false
  | _ => true

theorem Beside.samePhase {host after : Host Number} (uuid : after.breakerUuid = host.breakerUuid)
    (count : after.breakerCount = host.breakerCount)
    (active : after.activeModule = host.activeModule)
    (phase : after.phase.module = host.phase.module) : Beside host after :=
  ⟨uuid, count, fun _ member => active ▸ member, fun _ member => phase ▸ member⟩

/-! ### Steps of the breaker -/

/-- What a selection does: it keeps the breaker or clears it, and it clears it for the module it
selects. -/
structure Selects (host after : Host Number) : Prop where
  phase : after.phase = host.phase
  breaker : after.breakerUuid = host.breakerUuid ∧ after.breakerCount = host.breakerCount ∨
    after.breakerUuid = none ∧ after.breakerCount = 0
  active : ∀ module ∈ after.activeModule,
    module ∈ host.activeModule ∨ after.breakerUuid ≠ some module.uuid

theorem selectActive_selects (host : Host Number) (uuid : Option Text)
    (manifests : List (Text × Text)) : Selects host (host.selectActive uuid manifests) := by
  unfold Host.selectActive
  split
  · exact ⟨rfl, .inr ⟨rfl, rfl⟩, nofun⟩
  · rename_i uuid
    dsimp only
    split
    · refine ⟨rfl, .inl ⟨rfl, rfl⟩, fun module member => .inl ?_⟩
      split at member
      · cases member
      · exact member
    · rename_i module found
      have matched := List.find?_some found
      have same : module.uuid = uuid := of_decide_eq_true matched
      refine ⟨rfl, ?_, fun other member => .inr ?_⟩
      · by_cases counted : host.breakerUuid = some uuid
        · exact .inr ⟨if_pos counted, if_pos counted⟩
        · exact .inl ⟨if_neg counted, if_neg counted⟩
      · obtain rfl := Option.some.inj member
        by_cases counted : host.breakerUuid = some uuid
        · rw [if_pos counted]
          exact nofun
        · rw [if_neg counted, same]
          exact counted

/-- The top of the loop waits, halts for the active module, or begins a run of it. -/
theorem begin_cases (host : Host Number) :
    host.activeModule = none ∧ host.begin = host ∨
      ∃ module, host.activeModule = some module ∧
        (host.Halts module.uuid ∧ host.begin = { host with activeModule := none } ∨
          ¬host.Halts module.uuid ∧ host.begin = { host with
            handshake := false
            supported := false
            init := none
            teardown := false
            latestUpdate := none
            phase := .spawning module }) := by
  unfold Host.begin
  cases host.activeModule with
  | none => exact .inl ⟨rfl, rfl⟩
  | some module =>
    refine .inr ⟨module, rfl, ?_⟩
    by_cases halts : host.Halts module.uuid
    · exact .inl ⟨halts, if_pos halts⟩
    · exact .inr ⟨halts, if_neg halts⟩

/-- What the end of a run does. -/
structure Ends (host after : Host Number) (fast : Bool) (module : DiscoveredModule) : Prop where
  running : host.phase.module = some module
  idle : after.phase = .idle
  active : after.activeModule = host.activeModule
  breaker : fast = true ∧ after.breakerUuid = some module.uuid ∧
        (host.breakerUuid = some module.uuid ∧ after.breakerCount = host.breakerCount + 1 ∨
          host.breakerUuid ≠ some module.uuid ∧ after.breakerCount = 1) ∨
      fast = false ∧ after.breakerUuid ≠ some module.uuid ∧
        (after.breakerUuid = none ∧ after.breakerCount = 0 ∨
          after.breakerUuid = host.breakerUuid ∧ after.breakerCount = host.breakerCount)

/-- A run is counted for its module, starts the count anew, or clears the count of its module. -/
theorem recordLifetime_ends {host idle : Host Number} (fast : Bool) {module : DiscoveredModule}
    (running : host.phase.module = some module) (phase : idle.phase = .idle)
    (active : idle.activeModule = host.activeModule)
    (uuid : idle.breakerUuid = host.breakerUuid) (count : idle.breakerCount = host.breakerCount) :
    Ends host (idle.recordLifetime fast module) fast module := by
  unfold Host.recordLifetime
  rw [uuid]
  cases fast with
  | true =>
    rw [if_pos rfl]
    by_cases counted : host.breakerUuid = some module.uuid
    · rw [if_pos counted]
      exact ⟨running, phase, active, .inl ⟨rfl, counted, .inl ⟨counted, congrArg (· + 1) count⟩⟩⟩
    · rw [if_neg counted]
      exact ⟨running, phase, active, .inl ⟨rfl, rfl, .inr ⟨counted, rfl⟩⟩⟩
  | false =>
    rw [if_neg Bool.false_ne_true]
    by_cases counted : host.breakerUuid = some module.uuid
    · rw [if_pos counted]
      exact ⟨running, phase, active, .inr ⟨rfl, nofun, .inl ⟨rfl, rfl⟩⟩⟩
    · rw [if_neg counted]
      exact ⟨running, phase, active, .inr ⟨rfl, uuid ▸ counted, .inr ⟨uuid, count⟩⟩⟩

/-! ### Other steps -/

theorem onServerPacket_beside (host : Host Number) (datagram : Datagram Number) :
    Beside host (host.onServerPacket datagram) := by
  unfold Host.onServerPacket
  split <;> exact .samePhase rfl rfl rfl rfl

theorem pull_beside {host : Host Number} {running : Running} {init : InitReply}
    {eye : EyeFrameSink Number} (phase : host.phase = .pulling running init eye)
    (moduleGone : Bool) : Beside host (host.pull moduleGone running init eye) := by
  have module : host.phase.module = some running.module := by rw [phase]; rfl
  unfold Host.pull
  split
  · exact .samePhase rfl rfl rfl module.symm
  · split
    · exact ⟨rfl, rfl, nofun, fun _ member => module ▸ member⟩
    · exact .samePhase rfl rfl rfl module.symm

theorem phase_running_module {phase : Phase Number} {running : Running}
    (found : phase.running = some running) : phase.module = some running.module := by
  cases phase with
  | idle | spawning _ | tearingDown _ => cases found
  | waitingForHandshake _ | queryingCapabilities _ | initializing _ | pulling _ _ _
  | delaying _ _ _ =>
    obtain rfl := Option.some.inj found
    rfl

/-- Only a failed start is recorded beside the breaker. -/
theorem records_beside (watched : Watched Number) (after : Host Number) {event : Event Number}
    (beside : event.isBeside = true) :
    records watched after event = [] ∨
      ∃ uuid, event = .spawn false ∧ records watched after event = [.failed uuid] := by
  cases event with
  | select _ _ | begin | tearDown _ _ => cases beside
  | send _ _ | exit _ | deliver _ | lose _ | advance | giveUp | pull _ | snapshot => exact .inl rfl
  | spawn started =>
    dsimp only [records]
    split
    · cases started with
      | true => exact .inl rfl
      | false => exact .inr ⟨_, rfl, rfl⟩
    · exact .inl rfl

/-! ### Fast attempts in a row -/

/-- At no time are there more short attempts of a module in a row than the threshold. -/
def Bounded (log : List Record) : Prop :=
  ∀ older, older <:+ log → ∀ uuid, shortAttempts uuid older ≤ crashHaltThreshold

theorem Bounded.cons {log : List Record} {record : Record} (bounded : Bounded log)
    (next : ∀ uuid, shortAttempts uuid (record :: log) ≤ crashHaltThreshold) :
    Bounded (record :: log) := by
  intro older isSuffix uuid
  rcases List.suffix_cons_iff.mp isSuffix with rfl | earlier
  · exact next uuid
  · exact bounded older earlier uuid

/-- The short attempts since the last selection are counted, a run is only begun below the
threshold, and so the count never passes it. -/
structure Counted (watched : Watched Number) : Prop where
  short : ∀ uuid, 0 < shortAttempts uuid watched.log →
    watched.host.breakerUuid = some uuid ∧
      shortAttempts uuid watched.log ≤ watched.host.breakerCount
  below : ∀ module ∈ watched.host.phase.module, ¬watched.host.Halts module.uuid
  count : watched.host.breakerCount ≤ crashHaltThreshold
  bounded : Bounded watched.log

theorem Counted.attempts_le {watched : Watched Number} (counted : Counted watched) (uuid : Text) :
    shortAttempts uuid watched.log ≤ crashHaltThreshold := by
  rcases Nat.eq_zero_or_pos (shortAttempts uuid watched.log) with zero | positive
  · rw [zero]
    exact Nat.zero_le _
  · exact Nat.le_trans (counted.short uuid positive).2 counted.count

/-- A selection ends the row. -/
theorem Counted.select {watched after : Watched Number} (counted : Counted watched)
    (selects : Selects watched.host after.host) (log : after.log = .selected :: watched.log) :
    Counted after := by
  refine ⟨fun uuid positive => ?_, fun module member halts => ?_, ?_, ?_⟩
  · rw [log] at positive
    exact absurd positive (Nat.lt_irrefl 0)
  · rw [selects.phase] at member
    rcases selects.breaker with ⟨uuid, count⟩ | ⟨uuid, count⟩
    · exact counted.below module member ⟨uuid ▸ halts.1, count ▸ halts.2⟩
    · exact absurd (uuid ▸ halts.1) nofun
  · rcases selects.breaker with ⟨-, count⟩ | ⟨-, count⟩
    · rw [count]
      exact counted.count
    · rw [count]
      exact Nat.zero_le _
  · rw [log]
    exact counted.bounded.cons fun uuid => Nat.zero_le _

/-- A step that leaves the breaker alone leaves the row alone. -/
theorem Counted.same {watched after : Watched Number} (counted : Counted watched)
    (uuid : after.host.breakerUuid = watched.host.breakerUuid)
    (count : after.host.breakerCount = watched.host.breakerCount)
    (below : ∀ module ∈ after.host.phase.module, ¬after.host.Halts module.uuid)
    (log : after.log = watched.log ∨ ∃ tripped, after.log = .tripped tripped :: watched.log) :
    Counted after := by
  have attempts : ∀ uuid, shortAttempts uuid after.log = shortAttempts uuid watched.log := by
    intro uuid
    rcases log with same | ⟨tripped, added⟩
    · rw [same]
    · rw [added]
      rfl
  refine ⟨fun module positive => ?_, below, ?_, ?_⟩
  · rw [attempts] at positive ⊢
    rw [uuid, count]
    exact counted.short module positive
  · rw [count]
    exact counted.count
  · rcases log with same | ⟨tripped, added⟩
    · rw [same]
      exact counted.bounded
    · rw [added]
      exact counted.bounded.cons counted.attempts_le

theorem Counted.ends_count {watched after : Watched Number} {fast : Bool}
    {module : DiscoveredModule} (counted : Counted watched)
    (ends : Ends watched.host after.host fast module) :
    after.host.breakerCount ≤ crashHaltThreshold := by
  have below := counted.below module ends.running
  have before := counted.count
  rcases ends.breaker with ⟨-, -, ⟨same, more⟩ | ⟨-, one⟩⟩ | ⟨-, -, ⟨-, zero⟩ | ⟨-, same⟩⟩
  · have room : ¬crashHaltThreshold ≤ watched.host.breakerCount := fun le => below ⟨same, le⟩
    omega
  · rw [one]
    decide
  · omega
  · omega

/-- The breaker counts a row with the run that has ended. -/
theorem Counted.ends_short {watched after : Watched Number} {fast crashed : Bool}
    {module : DiscoveredModule} (counted : Counted watched)
    (ends : Ends watched.host after.host fast module) {uuid : Text}
    (positive : 0 < shortAttempts uuid (.ended ⟨module.uuid, fast, crashed⟩ :: watched.log)) :
    after.host.breakerUuid = some uuid ∧
      shortAttempts uuid (.ended ⟨module.uuid, fast, crashed⟩ :: watched.log) ≤
        after.host.breakerCount := by
  unfold shortAttempts at positive ⊢
  by_cases adds : module.uuid = uuid ∧ fast = true
  · obtain ⟨rfl, rfl⟩ := adds
    simp only [true_and, if_true] at positive ⊢
    have earlier : 0 < shortAttempts module.uuid watched.log →
        watched.host.breakerUuid = some module.uuid ∧
          shortAttempts module.uuid watched.log ≤ watched.host.breakerCount :=
      counted.short module.uuid
    rcases ends.breaker with ⟨-, breaker, ⟨same, more⟩ | ⟨different, one⟩⟩ | ⟨slow, -⟩
    · refine ⟨breaker, ?_⟩
      rcases Nat.eq_zero_or_pos (shortAttempts module.uuid watched.log) with zero | row
      · omega
      · have le := (earlier row).2
        omega
    · have zero : shortAttempts module.uuid watched.log = 0 := by
        rcases Nat.eq_zero_or_pos (shortAttempts module.uuid watched.log) with zero | row
        · exact zero
        · exact absurd (earlier row).1 different
      exact ⟨breaker, by omega⟩
    · cases slow
  · rw [if_neg adds] at positive
    exact absurd positive (Nat.lt_irrefl 0)

/-- A run that ends adds to the row of its module, or ends every row. -/
theorem Counted.ends {watched after : Watched Number} {fast crashed : Bool}
    {module : DiscoveredModule} (counted : Counted watched)
    (ends : Ends watched.host after.host fast module)
    (log : after.log = .ended ⟨module.uuid, fast, crashed⟩ :: watched.log ∨
      after.log = .tripped module.uuid :: .ended ⟨module.uuid, fast, crashed⟩ :: watched.log) :
    Counted after := by
  have attempts : ∀ uuid, shortAttempts uuid after.log =
      shortAttempts uuid (.ended ⟨module.uuid, fast, crashed⟩ :: watched.log) := by
    intro uuid
    rcases log with added | added
    · rw [added]
    · rw [added]
      rfl
  have count := counted.ends_count ends
  have short : ∀ uuid, 0 < shortAttempts uuid after.log →
      after.host.breakerUuid = some uuid ∧
        shortAttempts uuid after.log ≤ after.host.breakerCount := by
    intro uuid positive
    rw [attempts] at positive ⊢
    exact counted.ends_short ends positive
  have next : ∀ uuid, shortAttempts uuid after.log ≤ crashHaltThreshold := by
    intro uuid
    rcases Nat.eq_zero_or_pos (shortAttempts uuid after.log) with zero | row
    · rw [zero]
      exact Nat.zero_le _
    · exact Nat.le_trans (short uuid row).2 count
  refine ⟨short, ?_, count, ?_⟩
  · rw [ends.idle]
    exact nofun
  · have run := counted.bounded.cons fun uuid => attempts uuid ▸ next uuid
    rcases log with added | added
    · rw [added]
      exact run
    · rw [added] at next ⊢
      exact run.cons next

/-! ### Trips -/

/-- A fast run whose process ended by itself. -/
def crashOf (uuid : Text) : EndedRun := ⟨uuid, true, true⟩

/-- Before every trip the latest runs are crashes of its module, as many as the threshold. -/
def TripsAfterCrashes (log : List Record) : Prop :=
  ∀ uuid older, .tripped uuid :: older <:+ log →
    List.replicate crashHaltThreshold (crashOf uuid) <+: runsOf older

theorem TripsAfterCrashes.cons {log : List Record} {record : Record}
    (trips : TripsAfterCrashes log)
    (next : ∀ uuid, record = .tripped uuid →
      List.replicate crashHaltThreshold (crashOf uuid) <+: runsOf log) :
    TripsAfterCrashes (record :: log) := by
  intro uuid older isSuffix
  rcases List.suffix_cons_iff.mp isSuffix with same | earlier
  · obtain ⟨rfl, rfl⟩ := List.cons.inj same
    exact next uuid rfl
  · exact trips uuid older earlier

/-- The count of the breaker is a row of crashes, the latest runs, as long as its module is active
or has a run; and while another module has one, it is not active. -/
structure Charged (watched : Watched Number) : Prop where
  active : ∀ uuid, watched.host.breakerUuid = some uuid →
    ∀ module ∈ watched.host.activeModule, module.uuid = uuid →
      List.replicate watched.host.breakerCount (crashOf uuid) <+: runsOf watched.log
  running : ∀ uuid, watched.host.breakerUuid = some uuid →
    ∀ module ∈ watched.host.phase.module, module.uuid = uuid →
      List.replicate watched.host.breakerCount (crashOf uuid) <+: runsOf watched.log
  other : ∀ uuid, watched.host.breakerUuid = some uuid →
    ∀ module ∈ watched.host.phase.module, module.uuid ≠ uuid →
      ∀ chosen ∈ watched.host.activeModule, chosen.uuid ≠ uuid
  trips : TripsAfterCrashes watched.log

theorem replicate_le_prefix {count less : Nat} {run : EndedRun} {runs : List EndedRun}
    (le : less ≤ count) (counted : List.replicate count run <+: runs) :
    List.replicate less run <+: runs := by
  refine List.IsPrefix.trans ?_ counted
  rw [← Nat.add_sub_of_le le, List.replicate_add]
  exact List.prefix_append _ _

theorem Charged.select {watched after : Watched Number} (charged : Charged watched)
    (selects : Selects watched.host after.host) (log : after.log = .selected :: watched.log) :
    Charged after := by
  have runs : runsOf after.log = runsOf watched.log := by rw [log]; rfl
  have trips : TripsAfterCrashes after.log := log ▸ charged.trips.cons nofun
  rcases selects.breaker with ⟨uuid, count⟩ | ⟨uuid, -⟩
  · refine ⟨fun counted breaker module member same => ?_, fun counted breaker module member same => ?_,
      fun counted breaker module member different chosen chosenMember => ?_, trips⟩
    · rcases selects.active module member with kept | cleared
      · rw [runs, count]
        exact charged.active counted (uuid ▸ breaker) module kept same
      · exact absurd (same ▸ breaker) cleared
    · rw [runs, count]
      rw [selects.phase] at member
      exact charged.running counted (uuid ▸ breaker) module member same
    · rw [selects.phase] at member
      rcases selects.active chosen chosenMember with kept | cleared
      · exact charged.other counted (uuid ▸ breaker) module member different chosen kept
      · exact fun same => cleared (same ▸ breaker)
  · have none : ∀ counted, after.host.breakerUuid ≠ some counted := by
      rw [uuid]
      exact nofun
    exact ⟨fun counted breaker => absurd breaker (none counted),
      fun counted breaker => absurd breaker (none counted),
      fun counted breaker => absurd breaker (none counted), trips⟩

/-- A step that keeps the breaker, selects nothing and runs what was run or is active. -/
theorem Charged.same {watched after : Watched Number} (charged : Charged watched)
    (uuid : after.host.breakerUuid = watched.host.breakerUuid)
    (count : after.host.breakerCount = watched.host.breakerCount)
    (active : ∀ module ∈ after.host.activeModule, module ∈ watched.host.activeModule)
    (running : ∀ module ∈ after.host.phase.module,
      module ∈ watched.host.phase.module ∨ watched.host.activeModule = some module)
    (runs : runsOf after.log = runsOf watched.log) (trips : TripsAfterCrashes after.log) :
    Charged after := by
  refine ⟨fun counted breaker module member same => ?_, fun counted breaker module member same => ?_,
    fun counted breaker module member different chosen chosenMember => ?_, trips⟩
  · rw [runs, count]
    exact charged.active counted (uuid ▸ breaker) module (active module member) same
  · rw [runs, count]
    rcases running module member with kept | begun
    · exact charged.running counted (uuid ▸ breaker) module kept same
    · exact charged.active counted (uuid ▸ breaker) module begun same
  · have kept := active chosen chosenMember
    rcases running module member with before | begun
    · exact charged.other counted (uuid ▸ breaker) module before different chosen kept
    · obtain rfl : module = chosen := Option.some.inj (begun.symm.trans kept)
      exact different

/-- The end of a run that was fast only if it crashed. -/
theorem Charged.ends {watched after : Watched Number} {fast crashed : Bool}
    {module : DiscoveredModule} (charged : Charged watched)
    (ends : Ends watched.host after.host fast module) (byItself : fast = true → crashed = true)
    (log : after.log = .ended ⟨module.uuid, fast, crashed⟩ :: watched.log ∨
      (fast = true ∧ after.host.Halts module.uuid) ∧
        after.log = .tripped module.uuid :: .ended ⟨module.uuid, fast, crashed⟩ :: watched.log) :
    Charged after := by
  have runs : runsOf after.log = ⟨module.uuid, fast, crashed⟩ :: runsOf watched.log := by
    rcases log with added | ⟨-, added⟩
    · rw [added]
      rfl
    · rw [added]
      rfl
  have row : fast = true → List.replicate after.host.breakerCount (crashOf module.uuid) <+:
      ⟨module.uuid, fast, crashed⟩ :: runsOf watched.log := by
    intro isFast
    obtain rfl := isFast
    rw [byItself rfl]
    rcases ends.breaker with ⟨-, -, ⟨same, more⟩ | ⟨-, one⟩⟩ | ⟨slow, -⟩
    · rw [more, List.replicate_succ]
      exact (List.prefix_cons_inj _).mpr (charged.running module.uuid same module ends.running rfl)
    · rw [one]
      exact (List.prefix_cons_inj _).mpr List.nil_prefix
    · cases slow
  have trips : TripsAfterCrashes after.log := by
    have run : TripsAfterCrashes (.ended ⟨module.uuid, fast, crashed⟩ :: watched.log) :=
      charged.trips.cons nofun
    rcases log with added | ⟨⟨isFast, halts⟩, added⟩
    · rw [added]
      exact run
    · rw [added]
      refine run.cons fun uuid tripped => ?_
      obtain rfl := Record.tripped.inj tripped
      exact replicate_le_prefix halts.2 (row isFast)
  have idle : after.host.phase.module = none := by
    rw [ends.idle]
    rfl
  refine ⟨fun counted breaker chosen member same => ?_, ?_, ?_, trips⟩
  · rw [ends.active] at member
    rw [runs]
    rcases ends.breaker with ⟨isFast, own, -⟩ | ⟨-, notOwn, ⟨cleared, -⟩ | ⟨kept, -⟩⟩
    · obtain rfl : module.uuid = counted := Option.some.inj (own.symm.trans breaker)
      exact row isFast
    · exact absurd (cleared.symm.trans breaker) nofun
    · have different : module.uuid ≠ counted := fun equal => notOwn (equal ▸ breaker)
      exact absurd same (charged.other counted (kept ▸ breaker) module ends.running different
        chosen member)
  · rw [idle]
    exact nofun
  · rw [idle]
    exact nofun

end Breaker

/-! ### Recorded steps -/

section Steps

variable {Number : Type} [Zero Number] [DecidableEq Number] (kInvalid : Number) (isFinite : Number → Bool)

/-- A step of the host, recorded. -/
def watch (watched : Watched Number) (event : Event Number) : Option (Watched Number) :=
  (step kInvalid isFinite watched.host event).map fun after =>
    { host := after
      log := records watched after event ++ watched.log
      crashed := match event with
        | .giveUp | .pull _ => watched.host.processExited
        | _ => watched.crashed }

omit [DecidableEq Number] in
theorem advance_beside {host after : Host Number} (advanced : host.advance = some after) :
    Beside host after := by
  unfold Host.advance at advanced
  split at advanced
  · rename_i phase
    split at advanced
    · obtain rfl := Option.some.inj advanced
      exact .samePhase rfl rfl rfl (by rw [phase]; rfl)
    · cases advanced
  · rename_i phase
    split at advanced
    · obtain rfl := Option.some.inj advanced
      exact .samePhase rfl rfl rfl (by rw [phase]; rfl)
    · cases advanced
  · rename_i phase
    split at advanced
    · obtain rfl := Option.some.inj advanced
      exact .samePhase rfl rfl rfl (by rw [phase]; rfl)
    · cases advanced
  · cases advanced

theorem snapshot_beside {host : Host Number} {running : Running} {init : InitReply}
    {eye : EyeFrameSink Number} (phase : host.phase = .delaying running init eye) :
    Beside host (host.snapshot kInvalid isFinite running init eye) := by
  unfold Host.snapshot
  split
  · exact .samePhase rfl rfl rfl (by rw [phase]; rfl)
  · exact .samePhase rfl rfl rfl (by rw [phase]; rfl)

theorem step_beside {host after : Host Number} {event : Event Number}
    (beside : event.isBeside = true) (stepped : step kInvalid isFinite host event = some after) :
    Beside host after := by
  cases event with
  | select _ _ | begin | tearDown _ _ => cases beside
  | exit _ | lose _ =>
    obtain rfl := Option.some.inj stepped
    exact .samePhase rfl rfl rfl rfl
  | send number packet =>
    dsimp only [step] at stepped
    split at stepped
    · split at stepped
      · cases stepped
      · obtain rfl := Option.some.inj stepped
        exact .samePhase rfl rfl rfl rfl
    · cases stepped
  | deliver index =>
    dsimp only [step] at stepped
    split at stepped
    · rename_i datagram found
      obtain rfl := Option.some.inj stepped
      have taken := onServerPacket_beside { host with inFlight := host.inFlight.eraseIdx index }
        datagram
      exact ⟨taken.uuid, taken.count, taken.active, taken.running⟩
    · cases stepped
  | spawn started =>
    dsimp only [step] at stepped
    split at stepped
    · rename_i phase
      split at stepped
      · obtain rfl := Option.some.inj stepped
        exact .samePhase rfl rfl rfl (by rw [phase]; rfl)
      · obtain rfl := Option.some.inj stepped
        exact ⟨rfl, rfl, fun _ => id, nofun⟩
    · cases stepped
  | advance => exact advance_beside stepped
  | giveUp =>
    dsimp only [step] at stepped
    split at stepped
    · rename_i found
      obtain rfl := Option.some.inj stepped
      exact .samePhase rfl rfl rfl (phase_running_module found).symm
    · cases stepped
  | pull moduleGone =>
    dsimp only [step] at stepped
    split at stepped
    · rename_i phase
      obtain rfl := Option.some.inj stepped
      exact pull_beside phase moduleGone
    · cases stepped
  | snapshot =>
    dsimp only [step] at stepped
    split at stepped
    · rename_i phase
      obtain rfl := Option.some.inj stepped
      exact snapshot_beside kInvalid isFinite phase
    · cases stepped

/-- A recorded step is a step of the host. -/
theorem watch_eq_some {watched after : Watched Number} {event : Event Number}
    (stepped : watch kInvalid isFinite watched event = some after) :
    step kInvalid isFinite watched.host event = some after.host ∧
      after.log = records watched after.host event ++ watched.log := by
  obtain ⟨host, taken, rfl⟩ := Option.map_eq_some_iff.mp stepped
  exact ⟨taken, rfl⟩

/-- The end of a run, and what it records. -/
theorem watch_tearDown {watched after : Watched Number} {fast killed : Bool}
    (stepped : watch kInvalid isFinite watched (.tearDown fast killed) = some after) :
    ∃ module, Ends watched.host after.host fast module ∧
      (after.log = .ended ⟨module.uuid, fast, watched.crashed⟩ :: watched.log ∨
        (fast = true ∧ after.host.Halts module.uuid) ∧ after.log = .tripped module.uuid ::
          .ended ⟨module.uuid, fast, watched.crashed⟩ :: watched.log) := by
  obtain ⟨taken, log⟩ := watch_eq_some kInvalid isFinite stepped
  dsimp only [step] at taken
  split at taken
  · rename_i running phase
    have module : watched.host.phase.module = some running.module := by rw [phase]; rfl
    refine ⟨running.module, ?_, ?_⟩
    · rw [← Option.some.inj taken]
      exact recordLifetime_ends fast module rfl rfl rfl rfl
    · rw [log]
      simp only [records, module]
      by_cases trips : fast = true ∧ after.host.Halts running.module.uuid
      · rw [if_pos trips]
        exact .inr ⟨trips, rfl⟩
      · rw [if_neg trips]
        exact .inl rfl
  · cases taken

/-- The top of the loop, and what it records. -/
theorem watch_begin {watched after : Watched Number}
    (stepped : watch kInvalid isFinite watched .begin = some after) :
    after.host.breakerUuid = watched.host.breakerUuid ∧
      after.host.breakerCount = watched.host.breakerCount ∧
      (∀ module ∈ after.host.activeModule, module ∈ watched.host.activeModule) ∧
      (after.host.phase.module = none ∧ after.log = watched.log ∨
        ∃ module, watched.host.activeModule = some module ∧
          (watched.host.Halts module.uuid ∧ after.host.phase.module = none ∧
              after.log = .tripped module.uuid :: watched.log ∨
            ¬watched.host.Halts module.uuid ∧ after.host.phase.module = some module ∧
              after.log = watched.log)) := by
  obtain ⟨taken, log⟩ := watch_eq_some kInvalid isFinite stepped
  dsimp only [step] at taken
  split at taken
  · rename_i phase
    have idle : watched.host.phase.module = none := by rw [phase]; rfl
    have begun := Option.some.inj taken
    rcases begin_cases watched.host with ⟨inactive, same⟩ | ⟨module, active, outcome⟩
    · rw [same] at begun
      simp only [records, inactive] at log
      rw [← begun]
      exact ⟨rfl, rfl, fun _ => id, .inl ⟨idle, log⟩⟩
    · simp only [records, active] at log
      rcases outcome with ⟨halts, same⟩ | ⟨runs, same⟩
      · rw [same] at begun
        rw [if_pos halts] at log
        rw [← begun]
        exact ⟨rfl, rfl, nofun, .inr ⟨module, active, .inl ⟨halts, idle, log⟩⟩⟩
      · rw [same] at begun
        rw [if_neg runs] at log
        rw [← begun]
        exact ⟨rfl, rfl, fun _ => id, .inr ⟨module, active, .inr ⟨runs, rfl, log⟩⟩⟩
  · cases taken

/-- The steps of a host whose attempts all start a process keep the rows counted. -/
theorem watch_counted {watched after : Watched Number} {event : Event Number}
    (counted : Counted watched) (starts : Starts watched event)
    (stepped : watch kInvalid isFinite watched event = some after) : Counted after := by
  cases kind : event.isBeside with
  | true =>
    obtain ⟨taken, log⟩ := watch_eq_some kInvalid isFinite stepped
    have beside := step_beside kInvalid isFinite kind taken
    refine counted.same beside.uuid beside.count (fun module member halts => ?_) (.inl ?_)
    · exact counted.below module (beside.running module member)
        ⟨beside.uuid ▸ halts.1, beside.count ▸ halts.2⟩
    · rcases records_beside watched after.host kind with nothing | failed
      · rw [log, nothing, List.nil_append]
      · obtain ⟨uuid, rfl, -⟩ := failed
        cases starts
  | false =>
    cases event with
    | send _ _ | exit _ | deliver _ | lose _ | spawn _ | advance | giveUp | pull _ | snapshot =>
      cases kind
    | select uuid manifests =>
      obtain ⟨taken, log⟩ := watch_eq_some kInvalid isFinite stepped
      have selects := selectActive_selects watched.host uuid manifests
      rw [Option.some.inj taken] at selects
      exact counted.select selects log
    | begin =>
      obtain ⟨uuid, count, -, outcome⟩ := watch_begin kInvalid isFinite stepped
      refine counted.same uuid count (fun module member halts => ?_) ?_
      · rcases outcome with ⟨idle, -⟩ | ⟨active, -, ⟨-, idle, -⟩ | ⟨below, begun, -⟩⟩
        · exact absurd (idle.symm.trans member) nofun
        · exact absurd (idle.symm.trans member) nofun
        · obtain rfl : active = module := Option.some.inj (begun.symm.trans member)
          exact below ⟨uuid ▸ halts.1, count ▸ halts.2⟩
      · rcases outcome with ⟨-, log⟩ | ⟨active, -, ⟨-, -, log⟩ | ⟨-, -, log⟩⟩
        · exact .inl log
        · exact .inr ⟨active.uuid, log⟩
        · exact .inl log
    | tearDown fast killed =>
      obtain ⟨module, ends, log⟩ := watch_tearDown kInvalid isFinite stepped
      exact counted.ends ends (log.imp id And.right)

/-- The steps of a host whose fast runs all crash keep every trip deserved. -/
theorem watch_charged {watched after : Watched Number} {event : Event Number}
    (charged : Charged watched) (byItself : EndsByItself watched event)
    (stepped : watch kInvalid isFinite watched event = some after) : Charged after := by
  cases kind : event.isBeside with
  | true =>
    obtain ⟨taken, log⟩ := watch_eq_some kInvalid isFinite stepped
    have beside := step_beside kInvalid isFinite kind taken
    have running : ∀ module ∈ after.host.phase.module,
        module ∈ watched.host.phase.module ∨ watched.host.activeModule = some module :=
      fun module member => .inl (beside.running module member)
    rcases records_beside watched after.host kind with nothing | failed
    · rw [nothing, List.nil_append] at log
      exact charged.same beside.uuid beside.count beside.active running (by rw [log])
        (log ▸ charged.trips)
    · obtain ⟨uuid, -, failed⟩ := failed
      rw [failed] at log
      exact charged.same beside.uuid beside.count beside.active running (by rw [log]; rfl)
        (log ▸ charged.trips.cons nofun)
  | false =>
    cases event with
    | send _ _ | exit _ | deliver _ | lose _ | spawn _ | advance | giveUp | pull _ | snapshot =>
      cases kind
    | select uuid manifests =>
      obtain ⟨taken, log⟩ := watch_eq_some kInvalid isFinite stepped
      have selects := selectActive_selects watched.host uuid manifests
      rw [Option.some.inj taken] at selects
      exact charged.select selects log
    | begin =>
      obtain ⟨uuid, count, active, outcome⟩ := watch_begin kInvalid isFinite stepped
      rcases outcome with ⟨idle, log⟩ | ⟨module, chosen, ⟨halts, idle, log⟩ | ⟨-, begun, log⟩⟩
      · refine charged.same uuid count active ?_ (by rw [log]) (log ▸ charged.trips)
        rw [idle]
        exact nofun
      · refine charged.same uuid count active ?_ (by rw [log]; rfl) ?_
        · rw [idle]
          exact nofun
        · rw [log]
          refine charged.trips.cons fun tripped same => ?_
          obtain rfl := Record.tripped.inj same
          exact replicate_le_prefix halts.2 (charged.active module.uuid halts.1 module chosen rfl)
      · refine charged.same uuid count active (fun other member => .inr ?_) (by rw [log])
          (log ▸ charged.trips)
        rw [chosen, ← begun]
        exact member
    | tearDown fast killed =>
      obtain ⟨module, ends, log⟩ := watch_tearDown kInvalid isFinite stepped
      exact charged.ends ends byItself log

/-- Along every run in which each attempt starts a process, no more attempts of a module in a row
than the threshold are fast between two selections; and along every run in which only a crash
ends a run fast, the breaker trips for a module only after as many crashes of it in a row. -/
theorem breaker_bounds_and_trips :
    (∀ watched : Watched Number, Reaches (watch kInvalid isFinite) Starts {} watched →
      ∀ older, older <:+ watched.log → ∀ uuid, shortAttempts uuid older ≤ crashHaltThreshold) ∧
    (∀ watched : Watched Number, Reaches (watch kInvalid isFinite) EndsByItself {} watched →
      ∀ uuid older, .tripped uuid :: older <:+ watched.log →
        List.replicate crashHaltThreshold (crashOf uuid) <+: runsOf older) := by
  refine ⟨fun watched reached => ?_, fun watched reached => ?_⟩
  · have fresh : Counted ({} : Watched Number) := by
      refine ⟨fun uuid positive => absurd positive (Nat.lt_irrefl 0), nofun, Nat.zero_le _, ?_⟩
      intro older isSuffix uuid
      rw [List.suffix_nil.mp isSuffix]
      exact Nat.zero_le _
    exact (reached.invariant fresh fun _ _ _ counted starts stepped =>
      watch_counted kInvalid isFinite counted starts stepped).bounded
  · have fresh : Charged ({} : Watched Number) := by
      refine ⟨nofun, nofun, nofun, fun uuid older isSuffix => ?_⟩
      exact absurd (List.suffix_nil.mp isSuffix) nofun
    exact (reached.invariant fresh fun _ _ _ charged byItself stepped =>
      watch_charged kInvalid isFinite charged byItself stepped).trips

end Steps

/-! ### Crashes, failed starts and selections -/

/-- A run of a subprocess that crashes soon after it was initialized. -/
def crashes (number : Nat) : List (Event Rat) :=
  [Event.begin, .spawn true] ++ answers number ++
    [Event.exit number, .pull false, .tearDown true false]

def watchRat : Watched Rat → Event Rat → Option (Watched Rat) :=
  watch 4294967296 fun _ => true

/-- Three crashes in a row trip the breaker, and the loop halts. -/
theorem breaker_three_crashes : ∃ watched : Watched Rat,
    (Reaches watchRat Starts {} watched ∧ Reaches watchRat EndsByItself {} watched) ∧
    (watched.host.activeModule = none ∧ shortAttempts firstUuid watched.log = 3) ∧
    shortAttempts firstUuid watched.log ≤ crashHaltThreshold ∧
    ∃ older, .tripped firstUuid :: older <:+ watched.log ∧
      List.replicate crashHaltThreshold (crashOf firstUuid) <+: runsOf older := by
  let events : List (Event Rat) := [Event.select (some firstUuid) installed] ++ crashes 0 ++
    crashes 1 ++ crashes 2 ++ [Event.begin]
  obtain ⟨watched, reached, halted, three, tripped⟩ : ∃ watched : Watched Rat,
      Reaches watchRat (fun state event => Starts state event ∧ EndsByItself state event) {}
        watched ∧ watched.host.activeModule = none ∧ shortAttempts firstUuid watched.log = 3 ∧
      watched.log.head? = some (.tripped firstUuid) :=
    reaches_evaluates events (by decide +kernel)
  have starts : Reaches watchRat Starts {} watched := reached.mono fun _ _ => And.left
  have byItself : Reaches watchRat EndsByItself {} watched := reached.mono fun _ _ => And.right
  obtain ⟨older, log⟩ : ∃ older, watched.log = .tripped firstUuid :: older :=
    ⟨_, (List.cons_head?_tail (Option.mem_def.mpr tripped)).symm⟩
  have isSuffix : .tripped firstUuid :: older <:+ watched.log := log ▸ List.suffix_refl _
  exact ⟨watched, ⟨starts, byItself⟩, ⟨halted, three⟩,
    (breaker_bounds_and_trips 4294967296 fun _ => true).1 watched starts _ (List.suffix_refl _) _,
    older, isSuffix,
    (breaker_bounds_and_trips 4294967296 fun _ => true).2 watched byItself _ _ isSuffix⟩

/-- A module whose process cannot be started is tried a fourth time, and one that was selected
again is charged for the run that this ended: two crashes later the breaker trips. -/
theorem breaker_misses_starts_and_charges_selections :
    (∃ watched, run watchRat {} [.select (some firstUuid) installed, .begin, .spawn false, .begin,
        .spawn false, .begin, .spawn false, .begin, .spawn false] = some watched ∧
      crashHaltThreshold < shortAttempts firstUuid watched.log) ∧
    ∃ watched, run watchRat {} ([Event.select (some firstUuid) installed, .begin, .spawn true] ++
        answers 0 ++ [Event.select (some firstUuid) installed, .pull false, .tearDown true true] ++
        crashes 1 ++ crashes 2) = some watched ∧
      watched.log.head? = some (.tripped firstUuid) ∧
      runsOf watched.log = [crashOf firstUuid, crashOf firstUuid, ⟨firstUuid, true, false⟩] := by
  refine ⟨run_evaluates ?_, run_evaluates ?_⟩
  · decide +kernel
  · decide +kernel

end PairDriver.ModuleHost
