/-
This file says once what the steps of the supervisor do to its hosts. Hosts only
evolve: none is forgotten, spawn times stay, an exit is final. Each operation has
one lemma for what it can do, the monitor's steps have a frame lemma, and
`step_effect` sorts the steps of the system by their effect; the proofs about
handles and the breaker use these and never unfold an operation again. The last
section follows the host the monitor stands at.
-/

import PairDriver.HostSupervisor

namespace PairDriver.Supervisor

/-! ### Hosts over time -/

/-- A host that was spawned and has exited. -/
def Exited (state : State) (host : Nat) : Prop :=
  host < state.spawned ∧ (state.hosts host).exit ≠ none

/-- How hosts change from a state to a later one: none is forgotten, spawn times stay, and an
exit is final. -/
structure Evolves (before after : State) : Prop where
  spawned_le : before.spawned ≤ after.spawned
  spawnTime_eq : ∀ host < before.spawned,
    (after.hosts host).spawnTime = (before.hosts host).spawnTime
  exit_eq : ∀ host < before.spawned, (before.hosts host).exit ≠ none →
    (after.hosts host).exit = (before.hosts host).exit

theorem Evolves.of_eq {before after : State} (hosts_eq : after.hosts = before.hosts)
    (spawned_eq : after.spawned = before.spawned) : Evolves before after := by
  refine ⟨Nat.le_of_eq spawned_eq.symm, ?_, ?_⟩
  · intro host _
    rw [hosts_eq]
  · intro host _ _
    rw [hosts_eq]

theorem Evolves.congr {before after later : State} (evolves : Evolves before after)
    (hosts_eq : later.hosts = after.hosts) (spawned_eq : later.spawned = after.spawned) :
    Evolves before later := by
  refine ⟨spawned_eq ▸ evolves.spawned_le, ?_, ?_⟩
  · rw [hosts_eq]
    exact evolves.spawnTime_eq
  · rw [hosts_eq]
    exact evolves.exit_eq

theorem Exited.evolves {before after : State} {host : Nat} (exited : Exited before host)
    (evolves : Evolves before after) : Exited after host := by
  refine ⟨Nat.lt_of_lt_of_le exited.1 evolves.spawned_le, ?_⟩
  rw [evolves.exit_eq host exited.1 exited.2]
  exact exited.2

theorem Exited.not_live {state : State} {host : Nat} (exited : Exited state host) :
    ¬Live state host :=
  fun live => exited.2 live.2

theorem exited_of_not_live {state : State} {host : Nat} (known : host < state.spawned)
    (dead : ¬Live state host) : Exited state host :=
  ⟨known, fun running => dead ⟨known, running⟩⟩

/-! ### The operations -/

@[simp]
theorem setHost_hosts_self (state : State) (host : Nat) (value : Host) :
    (setHost state host value).hosts host = value := by
  simp only [setHost, Function.update_self]

theorem setHost_hosts_of_ne (state : State) {host other : Nat} (value : Host)
    (different : other ≠ host) : (setHost state host value).hosts other = state.hosts other := by
  simp only [setHost, Function.update_of_ne different]

theorem exitHost_of_live {state : State} {host : Nat} (code : Nat) (live : Live state host) :
    exitHost state host code =
      setHost state host { state.hosts host with exit := some (code, state.now) } := by
  rw [exitHost, if_pos live]

theorem exitHost_of_not_live {state : State} {host : Nat} (code : Nat)
    (dead : ¬Live state host) : exitHost state host code = state := by
  rw [exitHost, if_neg dead]

theorem exitHost_evolves (state : State) (host code : Nat) :
    Evolves state (exitHost state host code) := by
  by_cases live : Live state host
  · rw [exitHost_of_live code live]
    refine ⟨Nat.le_refl _, ?_, ?_⟩
    · intro other _
      by_cases same : other = host
      · subst same
        rw [setHost_hosts_self]
      · rw [setHost_hosts_of_ne _ _ same]
    · intro other _ exited
      have different : other ≠ host := fun same => exited (same ▸ live.2)
      rw [setHost_hosts_of_ne _ _ different]
  · rw [exitHost_of_not_live code live]
    exact Evolves.of_eq rfl rfl

theorem live_exitHost_iff (state : State) (host code other : Nat) :
    Live (exitHost state host code) other ↔ Live state other ∧ other ≠ host := by
  by_cases live : Live state host
  · rw [exitHost_of_live code live]
    by_cases same : other = host
    · subst same
      simp [Live]
    · simp only [Live, setHost_hosts_of_ne _ _ same]
      exact ⟨fun running => ⟨running, same⟩, fun running => running.1⟩
  · rw [exitHost_of_not_live code live]
    constructor
    · intro running
      exact ⟨running, fun same => live (same ▸ running)⟩
    · exact fun running => running.1

@[simp]
theorem exitHost_spawned (state : State) (host code : Nat) :
    (exitHost state host code).spawned = state.spawned := by
  unfold exitHost
  split <;> rfl

@[simp]
theorem exitHost_handle (state : State) (host code : Nat) :
    (exitHost state host code).handle = state.handle := by
  unfold exitHost
  split <;> rfl

@[simp]
theorem exitHost_attachedToExisting (state : State) (host code : Nat) :
    (exitHost state host code).attachedToExisting = state.attachedToExisting := by
  unfold exitHost
  split <;> rfl

@[simp]
theorem exitHost_monitor (state : State) (host code : Nat) :
    (exitHost state host code).monitor = state.monitor := by
  unfold exitHost
  split <;> rfl

/-- What a call of `Spawn` does: keep the tracked live host, attach, create a host, or fail. -/
theorem spawn_cases (env : Environment) (state : State) :
    (∃ host, state.handle = some host ∧ Live state host ∧ spawn env state = (true, state)) ∨
    (∀ host, state.handle = some host → ¬Live state host) ∧
      (spawn env state = (true, { state with attachedToExisting := true, running := true }) ∨
       spawn env state = (true, createHost state) ∨
       env.created = false ∧ spawn env state = (false, state)) := by
  by_cases tracked : ∃ host ∈ state.handle, Live state host
  · left
    obtain ⟨host, held, live⟩ := tracked
    refine ⟨host, held, live, ?_⟩
    rw [spawn, if_pos ⟨host, held, live⟩]
  · right
    refine ⟨fun host held live => tracked ⟨host, held, live⟩, ?_⟩
    rw [spawn, if_neg tracked]
    by_cases attaches : env.canConnect && env.mutexHeld
    · left
      rw [if_pos attaches]
    · rw [if_neg attaches]
      by_cases created : env.created
      · right
        left
        rw [if_pos created]
      · right
        right
        rw [if_neg created]
        exact ⟨Bool.eq_false_iff.mpr created, rfl⟩

theorem createHost_evolves (state : State) : Evolves state (createHost state) := by
  refine ⟨Nat.le_succ _, ?_, ?_⟩
  · intro host known
    exact congrArg Host.spawnTime (setHost_hosts_of_ne _ _ (Nat.ne_of_lt known))
  · intro host known _
    exact congrArg Host.exit (setHost_hosts_of_ne _ _ (Nat.ne_of_lt known))

theorem spawn_evolves (env : Environment) (state : State) :
    Evolves state (spawn env state).2 := by
  obtain ⟨_, _, _, kept⟩ | ⟨_, attached | created | ⟨_, failed⟩⟩ := spawn_cases env state
  · rw [kept]
    exact Evolves.of_eq rfl rfl
  · rw [attached]
    exact Evolves.of_eq rfl rfl
  · rw [created]
    exact createHost_evolves state
  · rw [failed]
    exact Evolves.of_eq rfl rfl

/-- `Spawn` leaves the monitor and the controlling thread where they are. -/
theorem spawn_threads (env : Environment) (state : State) :
    (spawn env state).2.monitor = state.monitor ∧
      (spawn env state).2.controller = state.controller ∧
      (spawn env state).2.stopRequested = state.stopRequested := by
  obtain ⟨_, _, _, kept⟩ | ⟨_, attached | created | ⟨_, failed⟩⟩ := spawn_cases env state
  · rw [kept]
    exact ⟨rfl, rfl, rfl⟩
  · rw [attached]
    exact ⟨rfl, rfl, rfl⟩
  · rw [created]
    exact ⟨rfl, rfl, rfl⟩
  · rw [failed]
    exact ⟨rfl, rfl, rfl⟩

@[simp]
theorem spawn_monitor (env : Environment) (state : State) :
    (spawn env state).2.monitor = state.monitor :=
  (spawn_threads env state).1

theorem kill_evolves (dies : Bool) (state : State) : Evolves state (kill dies state) := by
  unfold kill
  cases held : state.handle with
  | none => exact Evolves.of_eq rfl rfl
  | some host =>
    by_cases terminated : !state.attachedToExisting && dies
    · simp only [terminated, if_true]
      exact (exitHost_evolves state host 0).congr rfl rfl
    · simp only [terminated]
      exact Evolves.of_eq rfl rfl

/-- `Kill` returns early without a handle; otherwise it resets the handle, the attachment and
`running`. -/
theorem kill_cases (dies : Bool) (state : State) :
    (state.handle = none ∧ kill dies state = state) ∨
    (kill dies state).handle = none ∧ (kill dies state).attachedToExisting = false ∧
      (kill dies state).running = false := by
  unfold kill
  cases held : state.handle with
  | none => exact Or.inl ⟨rfl, rfl⟩
  | some host => exact Or.inr ⟨rfl, rfl, rfl⟩

@[simp]
theorem kill_monitor (dies : Bool) (state : State) : (kill dies state).monitor = state.monitor := by
  unfold kill
  split
  · rfl
  · simp only
    split
    · exact exitHost_monitor state _ 0
    · rfl

/-! ### Steps -/

/-- The monitor spawns, or its step is another one. -/
theorem monitorStep_respawn_or {env : Environment} {state after : State}
    (stepped : monitorStep env state = some after) :
    (state.monitor = .respawn ∧ after = monitorSpawn env state) ∨ state.monitor ≠ .respawn := by
  by_cases working : state.monitor = .respawn
  · left
    simp only [monitorStep, working] at stepped
    exact ⟨working, (Option.some.inj stepped).symm⟩
  · exact Or.inr working

/-- The monitor's steps other than `Spawn` leave the hosts and the clock alone, attach to nothing,
and release the handle only after a wait that was signaled. -/
theorem monitorStep_frame {env : Environment} {state after : State}
    (stepped : monitorStep env state = some after) (working : state.monitor ≠ .respawn) :
    after.hosts = state.hosts ∧ after.spawned = state.spawned ∧ after.now = state.now ∧
      (after.attachedToExisting = true → state.attachedToExisting = true) ∧
      (after.handle = state.handle ∨
        ∃ host stamp, state.monitor = .signaled host stamp ∧ after.handle = none) := by
  unfold monitorStep at stepped
  cases place : state.monitor with
  | respawn => exact absurd place working
  | detach =>
    rw [place] at stepped
    cases stepped
    exact ⟨rfl, rfl, rfl, Bool.false_ne_true.elim, Or.inl rfl⟩
  | signaled host stamp =>
    rw [place] at stepped
    cases held : state.handle with
    | none =>
      simp only [held] at stepped
      cases stepped
      exact ⟨rfl, rfl, rfl, id, Or.inl rfl⟩
    | some current =>
      simp only [held] at stepped
      cases stepped
      exact ⟨rfl, rfl, rfl, id, Or.inr ⟨host, stamp, rfl, rfl⟩⟩
  | _ =>
    rw [place] at stepped
    simp only [countExit] at stepped
    repeat' split at stepped
    all_goals cases stepped
    all_goals exact ⟨rfl, rfl, rfl, id, Or.inl rfl⟩

theorem monitorSpawn_evolves (env : Environment) (state : State) :
    Evolves state (monitorSpawn env state) := by
  have spawns := spawn_evolves env { state with attempts := state.now :: state.attempts }
  exact ⟨spawns.spawned_le, spawns.spawnTime_eq, spawns.exit_eq⟩

/-- Everything is the same but the clock, the back-off and the places of the threads. -/
structure SameCore (before after : State) : Prop where
  hosts_eq : after.hosts = before.hosts
  spawned_eq : after.spawned = before.spawned
  handle_eq : after.handle = before.handle
  attached_eq : after.attachedToExisting = before.attachedToExisting
  exits_eq : after.exits = before.exits
  count_eq : after.consecutiveFastExits = before.consecutiveFastExits
  halted_eq : after.halted = before.halted

/-- What a step can do: it is one of the monitor, an exit, a call of `Spawn` or `Kill` by another
thread, a move of another thread, or a reset of the breaker. -/
inductive Effect (state : State) : Event → State → Prop where
  | monitor {env : Environment} {after : State} (stepped : monitorStep env state = some after) :
      Effect state (.monitor env) after
  | exits {host code : Nat} (live : Live state host) :
      Effect state (.hostExits host code) (exitHost state host code)
  | spawns {event : Event} {env : Environment} {after : State}
      (caller : event = .startSpawn env ∨ event = .restartSpawn env)
      (core : SameCore (spawn env state).2 after)
      (place : after.monitor = state.monitor ∨ after.monitor = .head ∨ after.monitor = .off) :
      Effect state event after
  | kills {event : Event} {dies : Bool} {after : State}
      (caller : event = .stopKill dies ∨ event = .restartKill dies)
      (core : SameCore (kill dies state) after) (place : after.monitor = state.monitor) :
      Effect state event after
  | moves {event : Event} {after : State} (core : SameCore state after)
      (place : after.monitor = state.monitor) : Effect state event after
  | resets {event : Event} {after : State} (hosts_eq : after.hosts = state.hosts)
      (spawned_eq : after.spawned = state.spawned) (handle_eq : after.handle = state.handle)
      (attached_of : after.attachedToExisting = true → state.attachedToExisting = true)
      (exits_eq : after.exits = state.exits) (count_eq : after.consecutiveFastExits = 0)
      (halted_eq : after.halted = false) (place : after.monitor = state.monitor) :
      Effect state event after

theorem step_effect {state after : State} {event : Event} (stepped : step state event = some after) :
    Effect state event after := by
  cases event with
  | monitor env => exact .monitor stepped
  | tick ms =>
    cases stepped
    exact .moves ⟨rfl, rfl, rfl, rfl, rfl, rfl, rfl⟩ rfl
  | hostExits host code =>
    simp only [step] at stepped
    split at stepped
    · rename_i live
      cases stepped
      exact .exits live
    · cases stepped
  | startReset =>
    simp only [step] at stepped
    split at stepped
    · cases stepped
      exact .resets rfl rfl rfl Bool.false_ne_true.elim rfl rfl rfl rfl
    · cases stepped
  | startSpawn env =>
    simp only [step] at stepped
    split at stepped
    · cases stepped
      refine .spawns (.inl rfl) ⟨rfl, rfl, rfl, rfl, rfl, rfl, rfl⟩ (.inr ?_)
      cases (spawn env state).1 with
      | true => exact .inl rfl
      | false => exact .inr rfl
    · cases stepped
  | stopRequest =>
    simp only [step] at stepped
    split at stepped
    · cases stepped
      exact .moves ⟨rfl, rfl, rfl, rfl, rfl, rfl, rfl⟩ rfl
    · cases stepped
  | stopKill dies =>
    simp only [step] at stepped
    split at stepped
    · cases stepped
      exact .kills (.inl rfl) ⟨rfl, rfl, rfl, rfl, rfl, rfl, rfl⟩ (kill_monitor dies state)
    · cases stepped
  | stopJoin =>
    simp only [step] at stepped
    split at stepped
    · cases stepped
      exact .resets rfl rfl rfl id rfl rfl rfl rfl
    · cases stepped
  | restartReset =>
    cases stepped
    exact .resets rfl rfl rfl id rfl rfl rfl rfl
  | restartKill dies =>
    simp only [step] at stepped
    split at stepped
    · cases stepped
    · cases stepped
      exact .kills (.inr rfl) ⟨rfl, rfl, rfl, rfl, rfl, rfl, rfl⟩ (kill_monitor dies state)
  | restartCheck =>
    simp only [step] at stepped
    split at stepped
    · cases stepped
    · cases stepped
      exact .moves ⟨rfl, rfl, rfl, rfl, rfl, rfl, rfl⟩ rfl
  | restartSpawn env =>
    simp only [step] at stepped
    split at stepped
    · cases stepped
    · cases stepped
      exact .spawns (.inr rfl) ⟨rfl, rfl, rfl, rfl, rfl, rfl, rfl⟩ (.inl (spawn_monitor env state))

/-- Hosts evolve along every step. -/
theorem step_evolves {state after : State} {event : Event} (stepped : step state event = some after) :
    Evolves state after := by
  cases step_effect stepped with
  | @monitor env _ moved =>
    obtain ⟨working, rfl⟩ | working := monitorStep_respawn_or moved
    · exact monitorSpawn_evolves env state
    · obtain ⟨hosts_eq, spawned_eq, _⟩ := monitorStep_frame moved working
      exact Evolves.of_eq hosts_eq spawned_eq
  | exits live => exact exitHost_evolves state _ _
  | spawns _ core _ => exact (spawn_evolves _ state).congr core.hosts_eq core.spawned_eq
  | kills _ core _ => exact (kill_evolves _ state).congr core.hosts_eq core.spawned_eq
  | moves core _ => exact Evolves.of_eq core.hosts_eq core.spawned_eq
  | resets hosts_eq spawned_eq => exact Evolves.of_eq hosts_eq spawned_eq

/-! ### Where the monitor stands -/

/-- The host the monitor stands at is known, and has exited once the wait for it was signaled. -/
def KnowsHost (state : State) : MonitorPc → Prop
  | .stampTime host | .waiting host _ => host < state.spawned
  | .signaled host _ | .closed host _ _ | .exited host _ _ | .recorded host _ _ => Exited state host
  | _ => True

/-- The handle the monitor is about to close, if any, is the one whose wait was signaled. -/
def handleUnchanged (state : State) : Bool :=
  match state.monitor with
  | .signaled host _ => state.handle == none || state.handle == some host
  | _ => true

theorem handleUnchanged_signaled {state : State} {host stamp current : Nat}
    (unchanged : handleUnchanged state = true) (place : state.monitor = .signaled host stamp)
    (held : state.handle = some current) : current = host := by
  simpa [handleUnchanged, place, held] using unchanged

theorem KnowsHost.evolves {before after : State} {place : MonitorPc}
    (knows : KnowsHost before place) (evolves : Evolves before after) : KnowsHost after place := by
  cases place with
  | stampTime host => exact Nat.lt_of_lt_of_le knows evolves.spawned_le
  | waiting host stamp => exact Nat.lt_of_lt_of_le knows evolves.spawned_le
  | signaled host stamp => exact Exited.evolves knows evolves
  | closed host code stamp => exact Exited.evolves knows evolves
  | exited host code stamp => exact Exited.evolves knows evolves
  | recorded host code uptime => exact Exited.evolves knows evolves
  | _ => trivial

/-- The handle and the monitor refer to hosts the supervisor has spawned. -/
structure Located (state : State) : Prop where
  handle_known : ∀ host, state.handle = some host → host < state.spawned
  knows : KnowsHost state state.monitor

theorem located_initial : Located {} := by
  refine ⟨?_, trivial⟩
  intro host held
  cases held

theorem spawn_handle_known (env : Environment) (state : State)
    (known : ∀ host, state.handle = some host → host < state.spawned) :
    ∀ host, (spawn env state).2.handle = some host → host < (spawn env state).2.spawned := by
  obtain ⟨_, _, _, kept⟩ | ⟨_, attached | created | ⟨_, failed⟩⟩ := spawn_cases env state
  · rw [kept]
    exact known
  · rw [attached]
    exact known
  · rw [created]
    intro host held
    obtain rfl := Option.some.inj held
    exact Nat.lt_succ_self state.spawned
  · rw [failed]
    exact known

theorem kill_handle (dies : Bool) (state : State) : (kill dies state).handle = none := by
  unfold kill
  split
  · assumption
  · rfl

theorem step_handle_known {state after : State} {event : Event}
    (known : ∀ host, state.handle = some host → host < state.spawned)
    (stepped : step state event = some after) :
    ∀ host, after.handle = some host → host < after.spawned := by
  cases step_effect stepped with
  | @monitor env _ moved =>
    obtain ⟨working, rfl⟩ | working := monitorStep_respawn_or moved
    · exact spawn_handle_known env { state with attempts := state.now :: state.attempts } known
    · obtain ⟨_, spawned_eq, _, _, kept | ⟨_, _, _, released⟩⟩ := monitorStep_frame moved working
      · rw [kept, spawned_eq]
        exact known
      · rw [released]
        intro host held
        cases held
  | exits live =>
    rw [exitHost_handle, exitHost_spawned]
    exact known
  | spawns _ core _ =>
    rw [core.handle_eq, core.spawned_eq]
    exact spawn_handle_known _ state known
  | kills _ core _ =>
    rw [core.handle_eq, kill_handle]
    intro host held
    cases held
  | moves core _ =>
    rw [core.handle_eq, core.spawned_eq]
    exact known
  | resets _ spawned_eq handle_eq =>
    rw [handle_eq, spawned_eq]
    exact known

/-- A step of another thread leaves the monitor where it is, or starts it. -/
theorem step_monitor {state after : State} {event : Event} (stepped : step state event = some after)
    (other : ∀ env, event ≠ .monitor env) :
    after.monitor = state.monitor ∨ after.monitor = .head ∨ after.monitor = .off := by
  cases step_effect stepped with
  | monitor moved => exact absurd rfl (other _)
  | exits live => exact .inl (exitHost_monitor state _ _)
  | spawns _ _ place => exact place
  | kills _ _ place => exact .inl place
  | moves _ place => exact .inl place
  | resets _ _ _ _ _ _ _ place => exact .inl place

theorem knowsHost_monitorStep {env : Environment} {state after : State} (located : Located state)
    (unchanged : handleUnchanged state = true) (stepped : monitorStep env state = some after) :
    KnowsHost after after.monitor := by
  have knows := located.knows
  unfold monitorStep at stepped
  cases place : state.monitor with
  | readHandle =>
    rw [place] at stepped
    by_cases halted : state.halted
    · simp only [halted, if_true] at stepped
      cases stepped
      trivial
    · simp only [halted, Bool.false_eq_true, if_false] at stepped
      cases held : state.handle with
      | none =>
        simp only [held] at stepped
        cases stepped
        trivial
      | some host =>
        simp only [held] at stepped
        cases stepped
        exact located.handle_known host held
  | stampTime host =>
    rw [place] at stepped knows
    cases stepped
    exact knows
  | waiting host stamp =>
    rw [place] at stepped knows
    cases result : env.wait with
    | signaled =>
      simp only [result] at stepped
      by_cases live : Live state host
      · rw [if_pos live] at stepped
        cases stepped
      · rw [if_neg live] at stepped
        by_cases stops : state.stopRequested
        · rw [if_pos stops] at stepped
          cases stepped
          trivial
        · rw [if_neg stops] at stepped
          cases stepped
          exact exited_of_not_live knows live
    | _ =>
      simp only [result] at stepped
      repeat' split at stepped
      all_goals cases stepped
      all_goals trivial
  | signaled host stamp =>
    rw [place] at stepped knows
    cases held : state.handle with
    | none =>
      simp only [held] at stepped
      cases stepped
      trivial
    | some current =>
      simp only [held] at stepped
      cases stepped
      obtain rfl := handleUnchanged_signaled unchanged place held
      exact knows
  | closed host code stamp =>
    rw [place] at stepped knows
    cases stepped
    exact knows
  | exited host code stamp =>
    rw [place] at stepped knows
    cases stepped
    exact knows
  | _ =>
    rw [place] at stepped
    simp only [countExit, monitorSpawn] at stepped
    repeat' split at stepped
    all_goals cases stepped
    all_goals trivial

/-- Every step keeps the supervisor located, as long as the monitor acts on the handle it waited
on. -/
theorem located_step {state after : State} {event : Event} (located : Located state)
    (unchanged : (∃ env, event = .monitor env) → handleUnchanged state = true)
    (stepped : step state event = some after) : Located after := by
  refine ⟨step_handle_known located.handle_known stepped, ?_⟩
  by_cases own : ∃ env, event = .monitor env
  · have kept := unchanged own
    obtain ⟨env, rfl⟩ := own
    exact knowsHost_monitorStep located kept stepped
  · have other : ∀ env, event ≠ .monitor env := fun env same => own ⟨env, same⟩
    rcases step_monitor stepped other with same | begun | ended
    · rw [same]
      exact located.knows.evolves (step_evolves stepped)
    · rw [begun]
      trivial
    · rw [ended]
      trivial

theorem Located.exited_of_signaled {state : State} {host stamp current : Nat}
    (located : Located state) (unchanged : handleUnchanged state = true)
    (place : state.monitor = .signaled host stamp) (held : state.handle = some current) :
    Exited state current := by
  have knows := located.knows
  rw [place] at knows
  rw [handleUnchanged_signaled unchanged place held]
  exact knows

end PairDriver.Supervisor
