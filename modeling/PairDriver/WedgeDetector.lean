/-
This file models the wedge detector of the face tracking driver beside the host
supervisor, and proves when its restarts hit only wedged hosts. The worker polls
two words the hosts write into shared memory, their state and the time of their
last heartbeat. Nothing in the words tells which host wrote them, and they are
cleared on one path only, after a restart by the worker itself; so a heartbeat a
crashed host left behind can be taken for that of its successor, and can start a
host the breaker had given up.
-/

import PairDriver.SupervisorHosts

namespace PairDriver.Wedge

open Supervisor (Environment Live)

/-! ### The words in shared memory -/

inductive HostState where
  | legacy
  | publishing
  | idle
  | draining
deriving DecidableEq

/-- A host process: one the supervisor has spawned, or one that ran before it. -/
inductive Instance where
  | spawned (host : Nat)
  | existing
deriving DecidableEq

/-- The age at which a heartbeat counts as that of a wedged host; none in the other states. -/
def wedgeThresholdMs : HostState → Option Nat
  | .publishing => some 2000
  | .idle => some 5000
  | .legacy | .draining => none

/-- The age of a heartbeat; zero stands for none, and one from the future is fresh. -/
def heartbeatAgeMs (heartbeat now : Nat) : Option Nat :=
  if heartbeat = 0 then none else some (now - heartbeat)

/-- The test of the worker. -/
def isWedged (state : HostState) (heartbeat now : Nat) : Bool :=
  match wedgeThresholdMs state, heartbeatAgeMs heartbeat now with
  | some threshold, some age => threshold < age
  | _, _ => false

/-! ### The worker and the supervisor -/

/-- A restart by the worker: when it was decided, and how many hosts had been spawned by then. -/
structure Restarting where
  decidedAt : Nat
  spawnedBefore : Nat
deriving DecidableEq

/-- Where the worker stands: at its two reads, at the critical sections of `Restart`, and at the two
writes of `ResetHostLiveness`. -/
inductive WorkerPc where
  | top
  | sampled (state : HostState)
  | call (restarting : Restarting)
  | kill (restarting : Restarting)
  | check (restarting : Restarting)
  | spawn (restarting : Restarting)
  | clearState (restarting : Restarting)
  | clearHeartbeat (restarting : Restarting)
deriving DecidableEq

/-- The supervisor, the words and the worker. `writer` is the host whose heartbeat the word holds;
`tripped` tells whether the breaker has halted since the last request of the user. -/
structure System where
  supervisor : Supervisor.State := {}
  hostState : HostState := .legacy
  heartbeat : Nat := 0
  writer : Option Instance := none
  tripped : Bool := false
  worker : WorkerPc := .top
  restartPending : Bool := false
  lastRestart : Nat := 0

/-- Restarts come at most every ten seconds until a heartbeat was seen. -/
def System.restartAllowed (system : System) : Bool :=
  !system.restartPending || 10 ≤ (system.supervisor.now - system.lastRestart) / 1000

/-- One step of the worker. -/
def System.work (env : Environment) (dies : Bool) (system : System) : System :=
  match system.worker with
  | .top => { system with worker := .sampled system.hostState }
  | .sampled state =>
    if isWedged state system.heartbeat system.supervisor.now then
      if system.restartAllowed then
        { system with worker := .call ⟨system.supervisor.now, system.supervisor.spawned⟩ }
      else { system with worker := .top }
    else if system.restartPending && system.heartbeat ≠ 0 then
      { system with worker := .top, restartPending := false }
    else { system with worker := .top }
  | .call restarting =>
    { system with
      supervisor := { system.supervisor with halted := false, consecutiveFastExits := 0 }
      worker := .kill restarting }
  | .kill restarting =>
    { system with supervisor := Supervisor.kill dies system.supervisor, worker := .check restarting }
  | .check restarting =>
    { system with
      worker := if system.supervisor.stopRequested then .clearState restarting
        else .spawn restarting }
  | .spawn restarting =>
    { system with
      supervisor := (Supervisor.spawn env system.supervisor).2
      worker := .clearState restarting }
  | .clearState restarting =>
    { system with hostState := .legacy, worker := .clearHeartbeat restarting }
  | .clearHeartbeat restarting =>
    { system with
      heartbeat := 0
      writer := none
      worker := .top
      restartPending := true
      lastRestart := restarting.decidedAt }

inductive Event where
  | supervisor (event : Supervisor.Event)
  | writeState (host : Instance) (state : HostState)
  | beat (host : Instance)
  | worker (env : Environment) (dies : Bool)

/-- A process that can write. -/
def Writes (supervisor : Supervisor.State) : Instance → Prop
  | .spawned host => Live supervisor host
  | .existing => True

instance (supervisor : Supervisor.State) (host : Instance) : Decidable (Writes supervisor host) :=
  match host with
  | .spawned host => inferInstanceAs (Decidable (Live supervisor host))
  | .existing => isTrue trivial

/-- The breaker halts in this step. -/
def Trips (before after : Supervisor.State) : Prop :=
  before.halted = false ∧ after.halted = true

instance (before after : Supervisor.State) : Decidable (Trips before after) :=
  inferInstanceAs (Decidable (_ ∧ _))

/-- Whether the breaker has halted since the user last asked for a host. -/
def trippedAfter (before after : Supervisor.State) (tripped : Bool) : Supervisor.Event → Bool
  | .restartReset | .startReset => false
  | _ => tripped || decide (Trips before after)

def step (system : System) : Event → Option System
  | .supervisor event => (Supervisor.step system.supervisor event).map fun after =>
      { system with
        supervisor := after
        tripped := trippedAfter system.supervisor after system.tripped event }
  | .writeState host state =>
    if Writes system.supervisor host then some { system with hostState := state } else none
  | .beat host =>
    if Writes system.supervisor host then
      some { system with heartbeat := system.supervisor.now, writer := some host }
    else none
  | .worker env dies => some (system.work env dies)

/-! ### The property and the condition -/

/-- The host the supervisor tracks, or has attached to. -/
def Running (supervisor : Supervisor.State) : Instance → Prop
  | .spawned host => Live supervisor host ∧
      (supervisor.handle = some host ∨ supervisor.attachedToExisting = true)
  | .existing => supervisor.attachedToExisting = true

instance (supervisor : Supervisor.State) (host : Instance) : Decidable (Running supervisor host) :=
  match host with
  | .spawned _ => inferInstanceAs (Decidable (_ ∧ _))
  | .existing => inferInstanceAs (Decidable (_ = _))

/-- The heartbeat is that of the running host. -/
def System.Own (system : System) : Prop :=
  ∃ host ∈ system.writer, Running system.supervisor host

instance (system : System) : Decidable system.Own :=
  match written : system.writer with
  | some host => decidable_of_iff (Running system.supervisor host) (by simp [System.Own, written])
  | none => isFalse (by simp [System.Own, written])

/-- A host that was started after the worker had decided on a restart. -/
def StartedSince (restarting : Restarting) : Instance → Prop
  | .spawned host => restarting.spawnedBefore ≤ host
  | .existing => False

instance (restarting : Restarting) (host : Instance) : Decidable (StartedSince restarting host) :=
  match host with
  | .spawned _ => inferInstanceAs (Decidable (_ ≤ _))
  | .existing => isFalse id

/-- The heartbeat is not that of a host started since. -/
def System.Older (system : System) (restarting : Restarting) : Prop :=
  ∀ host ∈ system.writer, ¬StartedSince restarting host

instance (system : System) (restarting : Restarting) : Decidable (system.Older restarting) :=
  inferInstanceAs (Decidable (∀ _ ∈ _, _))

/-- What is claimed of a state. At the call of `Restart` the running host has itself written the
heartbeat, which is older than the threshold of its state; the heartbeat that is about to be erased
is not that of a host just started; and a spawn by the worker follows no halt of the breaker the
user has not answered. -/
structure System.Fair (system : System) : Prop where
  call : ∀ restarting, system.worker = .call restarting →
    system.Own ∧ isWedged system.hostState system.heartbeat system.supervisor.now = true
  erase : ∀ restarting, system.worker = .clearHeartbeat restarting → system.Older restarting
  spawn : ∀ restarting, system.worker = .spawn restarting → system.tripped = false

/-- The host that wrote the heartbeat is the running one. -/
def System.Current (system : System) : Prop :=
  ∀ host ∈ system.writer, Running system.supervisor host

instance (system : System) : Decidable system.Current :=
  inferInstanceAs (Decidable (∀ _ ∈ _, _))

/-- The breaker does not halt in a step of the supervisor. -/
def Steady (system : System) (event : Supervisor.Event) : Prop :=
  ∀ after ∈ Supervisor.step system.supervisor event, ¬Trips system.supervisor after

/-- The host that wrote the heartbeat goes on running in a step of the supervisor. -/
def Retains (system : System) (event : Supervisor.Event) : Prop :=
  ∀ after ∈ Supervisor.step system.supervisor event, ∀ host ∈ system.writer,
    Running system.supervisor host → Running after host

/-- The condition on a step while the worker stands at a place. -/
def UndisturbedAt (system : System) : WorkerPc → Event → Prop
  | .sampled state, .worker _ _ => isWedged state system.heartbeat system.supervisor.now = true →
      system.restartAllowed = true →
        system.Current ∧ isWedged system.hostState system.heartbeat system.supervisor.now = true ∧
          system.tripped = false
  | .call _, .beat _ => False
  | .kill restarting, .beat host | .check restarting, .beat host | .spawn restarting, .beat host
  | .clearState restarting, .beat host | .clearHeartbeat restarting, .beat host =>
    ¬StartedSince restarting host
  | .call _, .writeState _ state => isWedged state system.heartbeat system.supervisor.now = true
  | .call _, .supervisor event => Steady system event ∧ Retains system event
  | .kill _, .supervisor event | .check _, .supervisor event | .spawn _, .supervisor event =>
    Steady system event
  | _, _ => True

/-- The condition on the steps. At a poll that leads to a restart the host that wrote the heartbeat
has not gone, the state written since the worker read it allows no more time, and the breaker has
not halted. Between that poll and the call no heartbeat and no state that allows more time is
written, and the host goes on running; until the spawn the breaker does not halt; and until the
words are cleared no host started since writes a heartbeat. -/
def Undisturbed (system : System) (event : Event) : Prop :=
  UndisturbedAt system system.worker event

instance (system : System) (event : Supervisor.Event) : Decidable (Steady system event) :=
  inferInstanceAs (Decidable (∀ _ ∈ _, _))

instance (system : System) (event : Supervisor.Event) : Decidable (Retains system event) :=
  inferInstanceAs (Decidable (∀ _ ∈ _, _))

instance (system : System) (place : WorkerPc) (event : Event) :
    Decidable (UndisturbedAt system place event) :=
  match place, event with
  | .sampled _, .worker _ _ => inferInstanceAs (Decidable (_ → _ → _))
  | .call _, .beat _ => isFalse id
  | .kill _, .beat _ | .check _, .beat _ | .spawn _, .beat _ | .clearState _, .beat _
  | .clearHeartbeat _, .beat _ => inferInstanceAs (Decidable (¬_))
  | .call _, .writeState _ _ => inferInstanceAs (Decidable (_ = _))
  | .call _, .supervisor _ => inferInstanceAs (Decidable (_ ∧ _))
  | .kill _, .supervisor event | .check _, .supervisor event | .spawn _, .supervisor event =>
    inferInstanceAs (Decidable (Steady system event))
  | .top, .worker _ _ | .top, .beat _ | .top, .writeState _ _ | .top, .supervisor _
  | .sampled _, .beat _ | .sampled _, .writeState _ _ | .sampled _, .supervisor _
  | .call _, .worker _ _ | .kill _, .worker _ _ | .kill _, .writeState _ _ | .check _, .worker _ _
  | .check _, .writeState _ _ | .spawn _, .worker _ _ | .spawn _, .writeState _ _
  | .clearState _, .worker _ _ | .clearState _, .writeState _ _ | .clearState _, .supervisor _
  | .clearHeartbeat _, .worker _ _ | .clearHeartbeat _, .writeState _ _
  | .clearHeartbeat _, .supervisor _ => isTrue trivial

instance (system : System) (event : Event) : Decidable (Undisturbed system event) :=
  inferInstanceAs (Decidable (UndisturbedAt system system.worker event))

/-! ### One step -/

/-- What holds while the worker restarts a host: up to the call the property itself, up to the spawn
that the breaker has not halted, and up to the end that the heartbeat is an old one. -/
def System.Window (system : System) : WorkerPc → Prop
  | .top | .sampled _ => True
  | .call restarting => system.Own ∧
      isWedged system.hostState system.heartbeat system.supervisor.now = true ∧
      system.tripped = false ∧ system.Older restarting
  | .kill restarting | .check restarting | .spawn restarting =>
    system.tripped = false ∧ system.Older restarting
  | .clearState restarting | .clearHeartbeat restarting => system.Older restarting

structure System.Sound (system : System) : Prop where
  noted : system.heartbeat ≠ 0 → system.writer ≠ none
  written : ∀ host, system.writer = some (.spawned host) → host < system.supervisor.spawned
  window : system.Window system.worker

theorem System.Sound.fair {system : System} (sound : system.Sound) : system.Fair := by
  have window := sound.window
  refine ⟨fun restarting place => ?_, fun restarting place => ?_, fun restarting place => ?_⟩
  · rw [place] at window
    exact ⟨window.1, window.2.1⟩
  · rw [place] at window
    exact window
  · rw [place] at window
    exact window.1

/-- Time makes a wedged host no fresher. -/
theorem isWedged_mono {state : HostState} {heartbeat now later : Nat} (passed : now ≤ later)
    (wedged : isWedged state heartbeat now = true) : isWedged state heartbeat later = true := by
  unfold isWedged heartbeatAgeMs at wedged ⊢
  cases state with
  | legacy | draining => cases wedged
  | publishing | idle =>
    split at wedged
    · rename_i threshold age known found
      split at found
      · cases found
      · rename_i nonzero
        obtain rfl := Option.some.inj found
        obtain rfl := Option.some.inj known
        rw [if_neg nonzero]
        simp only [wedgeThresholdMs, decide_eq_true_eq] at wedged ⊢
        omega
    · cases wedged

theorem exitHost_now (state : Supervisor.State) (host code : Nat) :
    (Supervisor.exitHost state host code).now = state.now := by
  unfold Supervisor.exitHost
  split <;> rfl

theorem kill_now (dies : Bool) (state : Supervisor.State) :
    (Supervisor.kill dies state).now = state.now := by
  unfold Supervisor.kill
  split
  · rfl
  · dsimp only
    split
    · exact exitHost_now state _ 0
    · rfl

theorem spawn_now (env : Environment) (state : Supervisor.State) :
    (Supervisor.spawn env state).2.now = state.now := by
  unfold Supervisor.spawn
  split
  · rfl
  · split
    · rfl
    · split <;> rfl

/-- The clock of the supervisor never goes back. -/
theorem supervisor_now_le {before after : Supervisor.State} {event : Supervisor.Event}
    (stepped : Supervisor.step before event = some after) : before.now ≤ after.now := by
  cases event with
  | tick ms =>
    obtain rfl := Option.some.inj stepped
    exact Nat.le_add_right _ _
  | hostExits host code =>
    dsimp only [Supervisor.step] at stepped
    split at stepped
    · obtain rfl := Option.some.inj stepped
      exact (exitHost_now before host code).ge
    · cases stepped
  | startReset | stopRequest | stopJoin =>
    dsimp only [Supervisor.step] at stepped
    split at stepped
    · obtain rfl := Option.some.inj stepped
      exact le_rfl
    · cases stepped
  | startSpawn env =>
    dsimp only [Supervisor.step] at stepped
    split at stepped
    · obtain rfl := Option.some.inj stepped
      exact (spawn_now env before).ge
    · cases stepped
  | stopKill dies =>
    dsimp only [Supervisor.step] at stepped
    split at stepped
    · obtain rfl := Option.some.inj stepped
      exact (kill_now dies before).ge
    · cases stepped
  | restartReset =>
    obtain rfl := Option.some.inj stepped
    exact le_rfl
  | restartKill dies =>
    dsimp only [Supervisor.step] at stepped
    split at stepped
    · cases stepped
    · obtain rfl := Option.some.inj stepped
      exact (kill_now dies before).ge
  | restartCheck =>
    dsimp only [Supervisor.step] at stepped
    split at stepped
    · cases stepped
    · obtain rfl := Option.some.inj stepped
      exact le_rfl
  | restartSpawn env =>
    dsimp only [Supervisor.step] at stepped
    split at stepped
    · cases stepped
    · obtain rfl := Option.some.inj stepped
      exact (spawn_now env before).ge
  | monitor env =>
    rcases Supervisor.monitorStep_respawn_or stepped with ⟨_, rfl⟩ | working
    · exact (spawn_now env { before with attempts := before.now :: before.attempts }).ge
    · exact (Supervisor.monitorStep_frame stepped working).2.2.1.ge

/-- A wedged host has written a heartbeat. -/
theorem heartbeat_of_isWedged {state : HostState} {heartbeat now : Nat}
    (wedged : isWedged state heartbeat now = true) : heartbeat ≠ 0 := by
  rintro rfl
  cases state with
  | _ => cases wedged

theorem trippedAfter_eq_false {before after : Supervisor.State} {tripped : Bool}
    (event : Supervisor.Event) (clear : tripped = false) (steady : ¬Trips before after) :
    trippedAfter before after tripped event = false := by
  subst clear
  cases event with
  | startReset | restartReset => rfl
  | _ => exact decide_eq_false steady

theorem supervisor_sound {system : System} {event : Supervisor.Event} {after : Supervisor.State}
    (sound : system.Sound) (undisturbed : Undisturbed system (.supervisor event))
    (moved : Supervisor.step system.supervisor event = some after) :
    System.Sound { system with
      supervisor := after
      tripped := trippedAfter system.supervisor after system.tripped event } := by
  refine ⟨sound.noted, ?_, ?_⟩
  · intro host written
    exact Nat.lt_of_lt_of_le (sound.written host written)
      (Supervisor.step_evolves moved).spawned_le
  · have window := sound.window
    unfold Undisturbed at undisturbed
    show System.Window _ system.worker
    cases place : system.worker with
    | top | sampled _ => trivial
    | call restarting =>
      rw [place] at window undisturbed
      obtain ⟨⟨host, written, running⟩, wedged, clear, older⟩ := window
      obtain ⟨steady, retains⟩ := undisturbed
      refine ⟨⟨host, written, retains after moved host written running⟩, ?_, ?_, older⟩
      · exact isWedged_mono (supervisor_now_le moved) wedged
      · exact trippedAfter_eq_false event clear (steady after moved)
    | kill restarting | check restarting | spawn restarting =>
      rw [place] at window undisturbed
      exact ⟨trippedAfter_eq_false event window.1 (undisturbed after moved), window.2⟩
    | clearState restarting | clearHeartbeat restarting =>
      rw [place] at window
      exact window

theorem writeState_sound {system : System} {host : Instance} {state : HostState}
    (sound : system.Sound) (undisturbed : Undisturbed system (.writeState host state)) :
    System.Sound { system with hostState := state } := by
  refine ⟨sound.noted, sound.written, ?_⟩
  have window := sound.window
  unfold Undisturbed at undisturbed
  show System.Window _ system.worker
  cases place : system.worker with
  | top | sampled _ => trivial
  | call restarting =>
    rw [place] at window undisturbed
    exact ⟨window.1, undisturbed, window.2.2⟩
  | kill restarting | check restarting | spawn restarting | clearState restarting
  | clearHeartbeat restarting =>
    rw [place] at window
    exact window

theorem beat_sound {system : System} {host : Instance} (sound : system.Sound)
    (undisturbed : Undisturbed system (.beat host)) (writes : Writes system.supervisor host) :
    System.Sound { system with heartbeat := system.supervisor.now, writer := some host } := by
  refine ⟨fun _ => Option.some_ne_none host, ?_, ?_⟩
  · intro spawned written
    obtain rfl := Option.some.inj written
    exact writes.1
  · have window := sound.window
    unfold Undisturbed at undisturbed
    show System.Window _ system.worker
    cases place : system.worker with
    | top | sampled _ => trivial
    | call restarting =>
      rw [place] at undisturbed
      exact undisturbed.elim
    | kill restarting | check restarting | spawn restarting =>
      rw [place] at window undisturbed
      refine ⟨window.1, ?_⟩
      rintro _ ⟨⟩
      exact undisturbed
    | clearState restarting | clearHeartbeat restarting =>
      rw [place] at undisturbed
      rintro _ ⟨⟩
      exact undisturbed

theorem worker_sound {system : System} {env : Environment} {dies : Bool} (sound : system.Sound)
    (undisturbed : Undisturbed system (.worker env dies)) : (system.work env dies).Sound := by
  have window := sound.window
  unfold Undisturbed at undisturbed
  unfold System.work
  cases place : system.worker with
  | top => exact ⟨sound.noted, sound.written, trivial⟩
  | sampled state =>
    rw [place] at undisturbed
    dsimp only
    split
    · rename_i wedged
      split
      · rename_i allowed
        obtain ⟨current, old, clear⟩ := undisturbed wedged allowed
        obtain ⟨host, written⟩ :=
          Option.ne_none_iff_exists'.mp (sound.noted (heartbeat_of_isWedged wedged))
        refine ⟨sound.noted, sound.written, ⟨host, written, current host written⟩, old, clear, ?_⟩
        intro writer found since
        cases writer with
        | existing => exact since
        | spawned host => exact absurd (sound.written host found) (Nat.not_lt.mpr since)
      · exact ⟨sound.noted, sound.written, trivial⟩
    · split
      · exact ⟨sound.noted, sound.written, trivial⟩
      · exact ⟨sound.noted, sound.written, trivial⟩
  | call restarting =>
    rw [place] at window
    exact ⟨sound.noted, sound.written, window.2.2⟩
  | kill restarting =>
    rw [place] at window
    refine ⟨sound.noted, ?_, window⟩
    intro host written
    exact Nat.lt_of_lt_of_le (sound.written host written)
      (Supervisor.kill_evolves dies system.supervisor).spawned_le
  | check restarting =>
    rw [place] at window
    refine ⟨sound.noted, sound.written, ?_⟩
    dsimp only
    split
    · exact window.2
    · exact window
  | spawn restarting =>
    rw [place] at window
    refine ⟨sound.noted, ?_, window.2⟩
    intro host written
    exact Nat.lt_of_lt_of_le (sound.written host written)
      (Supervisor.spawn_evolves env system.supervisor).spawned_le
  | clearState restarting =>
    rw [place] at window
    exact ⟨sound.noted, sound.written, window⟩
  | clearHeartbeat restarting =>
    refine ⟨fun nonzero => absurd rfl nonzero, ?_, trivial⟩
    rintro _ ⟨⟩

theorem step_sound {system after : System} {event : Event} (sound : system.Sound)
    (undisturbed : Undisturbed system event) (stepped : step system event = some after) :
    after.Sound := by
  cases event with
  | supervisor event =>
    obtain ⟨later, moved, rfl⟩ := Option.map_eq_some_iff.mp stepped
    exact supervisor_sound sound undisturbed moved
  | writeState host state =>
    dsimp only [step] at stepped
    split at stepped
    · obtain rfl := Option.some.inj stepped
      exact writeState_sound sound undisturbed
    · cases stepped
  | beat host =>
    dsimp only [step] at stepped
    split at stepped
    · rename_i writes
      obtain rfl := Option.some.inj stepped
      exact beat_sound sound undisturbed writes
    · cases stepped
  | worker env dies =>
    obtain rfl := Option.some.inj stepped
    exact worker_sound sound undisturbed

/-! ### Every run -/

theorem sound_initial : System.Sound {} := by
  refine ⟨fun nonzero => absurd rfl nonzero, ?_, trivial⟩
  rintro _ ⟨⟩

/-- In a run whose steps all meet the condition, restarts hit only wedged hosts: at every state
reached, a worker about to call `Restart` finds the running host with an old heartbeat of its own,
one about to erase the heartbeat does not erase that of a host started since, and one about to spawn
follows no unanswered halt of the breaker. -/
theorem wedge_restarts_fair {system : System} (reached : Reaches step Undisturbed {} system) :
    system.Fair :=
  (reached.invariant sound_initial
    fun _ _ _ sound undisturbed stepped => step_sound sound undisturbed stepped).fair

/-- Steps of the monitor and of the worker. -/
def monitors (count : Nat) : List Event :=
  List.replicate count (.supervisor (.monitor {}))

def works (count : Nat) : List Event :=
  List.replicate count (.worker {} true)

/-- The first host is started, and has written its state and a heartbeat. -/
def started : List Event :=
  [.supervisor .startReset, .supervisor (.startSpawn {}), .supervisor (.tick 1000),
    .writeState (.spawned 0) .publishing, .beat (.spawned 0)]

/-- A host crashes while the monitor waits for it, which counts the exit. -/
def crashes (host : Nat) : List Event :=
  monitors 3 ++ .supervisor (.hostExits host 1) :: monitors 5

/-- The monitor sleeps, and spawns the next host. -/
def respawns : List Event :=
  .supervisor (.tick 1000) :: monitors 3

/-- A host crashes, its successor writes a heartbeat of its own and stops writing; the worker is
about to restart it. -/
theorem successor_is_restarted :
    ∃ system, Reaches step Undisturbed {} system ∧ system.worker = .call ⟨5000, 2⟩ ∧ system.Fair := by
  obtain ⟨system, reached, place⟩ :
      ∃ system, Reaches step Undisturbed {} system ∧ system.worker = .call ⟨5000, 2⟩ :=
    reaches_evaluates (started ++ crashes 0 ++ respawns ++ [.beat (.spawned 1),
      .supervisor (.tick 3000)] ++ works 2) (by decide +kernel)
  exact ⟨system, reached, place, wedge_restarts_fair reached⟩

/-- The worker is about to restart a host for the heartbeat of its predecessor; it is about to erase
the heartbeat of the host it has just started; and it is about to spawn a host after the breaker has
halted. -/
theorem stale_heartbeat_restarts :
    (∃ system, Reaches step (fun _ _ => True) {} system ∧
      system.worker = .call ⟨5000, 2⟩ ∧ ¬system.Own) ∧
    (∃ system, Reaches step (fun _ _ => True) {} system ∧
      system.worker = .clearHeartbeat ⟨4000, 1⟩ ∧ ¬system.Older ⟨4000, 1⟩) ∧
    ∃ system, Reaches step (fun _ _ => True) {} system ∧
      system.worker = .spawn ⟨8000, 5⟩ ∧ system.tripped = true := by
  refine ⟨?_, ?_, ?_⟩
  · exact reaches_evaluates (started ++ crashes 0 ++ respawns ++ [.supervisor (.tick 3000)] ++ works 2)
      (by decide +kernel)
  · exact reaches_evaluates (started ++ [.supervisor (.tick 3000)] ++ works 6 ++
      [.beat (.spawned 1)] ++ works 1) (by decide +kernel)
  · exact reaches_evaluates (started ++ crashes 0 ++ respawns ++ crashes 1 ++ respawns ++ crashes 2 ++
      respawns ++ crashes 3 ++ respawns ++ crashes 4 ++ [.supervisor (.tick 3000)] ++ works 5)
      (by decide +kernel)

end PairDriver.Wedge
