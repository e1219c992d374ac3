/-
This file proves when the circuit breaker is sound. The loop takes the time it
calls `spawn_time` anew in every iteration, also after a wait that timed out, so
the uptime it measures is that of the iteration and not that of the host. In runs
where no long-lived host is measured within the threshold of such a stamp, a
halted supervisor has counted five exits that were all really fast. A host that
crashes shortly after a timed-out wait, again and again, trips the breaker however
long it has been up; the last section runs this.
-/

import PairDriver.SupervisorHosts

namespace PairDriver.Supervisor

/-! ### Real exits -/

/-- The record is that of a real exit, less than the threshold after the spawn of that host. -/
def FastExit (state : State) (record : ExitRecord) : Prop :=
  record.host < state.spawned ∧ ∃ time,
    (state.hosts record.host).exit = some (record.code, time) ∧
      time < (state.hosts record.host).spawnTime + kFastExitThresholdMs

/-- The exits the breaker looks at, newest first. -/
def nonSingletonExits (state : State) : List ExitRecord :=
  state.exits.filter fun record => !isCleanSingletonExit record.code

theorem FastExit.evolves {before after : State} {record : ExitRecord}
    (fast : FastExit before record) (evolves : Evolves before after) : FastExit after record := by
  obtain ⟨known, time, exited, soon⟩ := fast
  have final : (before.hosts record.host).exit ≠ none := by
    rw [exited]
    exact Option.some_ne_none _
  refine ⟨Nat.lt_of_lt_of_le known evolves.spawned_le, time, ?_, ?_⟩
  · rw [evolves.exit_eq _ known final, exited]
  · rw [evolves.spawnTime_eq _ known]
    exact soon

/-! ### The condition -/

/-- When the uptime of a host that lived for the threshold or longer is measured, the threshold
has passed since the stamp of this iteration. -/
def soundlyMeasured (state : State) : Bool :=
  match state.monitor with
  | .exited host code stamp =>
    isCleanSingletonExit code || state.now ≥ stamp + kFastExitThresholdMs ||
      match (state.hosts host).exit with
      | some (_, time) => time < (state.hosts host).spawnTime + kFastExitThresholdMs
      | none => false
  | _ => true

/-- The condition on a step: the monitor acts on the handle it waited on and measures soundly. -/
def SoundlyMeasured (state : State) : Event → Prop
  | .monitor _ => handleUnchanged state = true ∧ soundlyMeasured state = true
  | _ => True

instance (state : State) (event : Event) : Decidable (SoundlyMeasured state event) :=
  match event with
  | .monitor _ => inferInstanceAs (Decidable (_ ∧ _))
  | .tick _ | .hostExits _ _ | .startReset | .startSpawn _ | .stopRequest | .stopKill _
  | .stopJoin | .restartReset | .restartKill _ | .restartCheck | .restartSpawn _ => isTrue trivial

/-! ### The invariant -/

/-- The places a halted monitor moves between. -/
def AtRest : MonitorPc → Prop
  | .off | .head | .readHandle | .asleepToHead _ => True
  | _ => False

/-- The code the monitor carries is the one its host exited with, and an uptime it has measured
below the threshold is that of a fast exit. -/
def Accounts (state : State) : MonitorPc → Prop
  | .closed host code _ | .exited host code _ =>
    ∃ time, (state.hosts host).exit = some (code, time)
  | .recorded host code uptime => isCleanSingletonExit code = false →
    uptime < kFastExitThresholdMs → FastExit state ⟨host, code, uptime⟩
  | _ => True

/-- The newest exits, as many as the count says, are fast. -/
def CountedFast (state : State) : Prop :=
  ∃ recent older, nonSingletonExits state = recent ++ older ∧
    recent.length = state.consecutiveFastExits ∧ ∀ record ∈ recent, FastExit state record

structure BreakerSound (state : State) : Prop where
  located : Located state
  accounts : Accounts state state.monitor
  counted : CountedFast state
  halted_count : state.halted = true → kCircuitBreakerThreshold ≤ state.consecutiveFastExits
  halted_rests : state.halted = true → AtRest state.monitor

/-! ### Frames -/

/-- The exits, their count and the breaker are the same in both states. -/
def SameBreaker (before after : State) : Prop :=
  after.exits = before.exits ∧ after.consecutiveFastExits = before.consecutiveFastExits ∧
    after.halted = before.halted

theorem SameBreaker.congr {before middle after : State} (same : SameBreaker before middle)
    (core : SameCore middle after) : SameBreaker before after :=
  ⟨core.exits_eq.trans same.1, core.count_eq.trans same.2.1, core.halted_eq.trans same.2.2⟩

theorem exitHost_sameBreaker (state : State) (host code : Nat) :
    SameBreaker state (exitHost state host code) := by
  unfold exitHost
  split
  · exact ⟨rfl, rfl, rfl⟩
  · exact ⟨rfl, rfl, rfl⟩

theorem spawn_sameBreaker (env : Environment) (state : State) :
    SameBreaker state (spawn env state).2 := by
  obtain ⟨_, _, _, kept⟩ | ⟨_, attached | created | ⟨_, failed⟩⟩ := spawn_cases env state
  · rw [kept]
    exact ⟨rfl, rfl, rfl⟩
  · rw [attached]
    exact ⟨rfl, rfl, rfl⟩
  · rw [created]
    exact ⟨rfl, rfl, rfl⟩
  · rw [failed]
    exact ⟨rfl, rfl, rfl⟩

theorem kill_sameBreaker (dies : Bool) (state : State) : SameBreaker state (kill dies state) := by
  unfold kill
  cases state.handle with
  | none => exact ⟨rfl, rfl, rfl⟩
  | some host =>
    by_cases terminated : !state.attachedToExisting && dies
    · simp only [terminated, if_true]
      exact exitHost_sameBreaker state host 0
    · simp only [terminated]
      exact ⟨rfl, rfl, rfl⟩

/-- Other threads keep the count and the breaker, or reset both; they record no exit. -/
theorem step_breaker_frame {state after : State} {event : Event}
    (stepped : step state event = some after) (other : ∀ env, event ≠ .monitor env) :
    SameBreaker state after ∨
      after.exits = state.exits ∧ after.consecutiveFastExits = 0 ∧ after.halted = false := by
  cases step_effect stepped with
  | monitor moved => exact absurd rfl (other _)
  | exits live => exact .inl (exitHost_sameBreaker state _ _)
  | @spawns _ env _ _ core _ => exact .inl ((spawn_sameBreaker env state).congr core)
  | @kills _ dies _ _ core _ => exact .inl ((kill_sameBreaker dies state).congr core)
  | moves core _ => exact .inl ⟨core.exits_eq, core.count_eq, core.halted_eq⟩
  | resets _ _ _ _ exits_eq count_eq halted_eq _ => exact .inr ⟨exits_eq, count_eq, halted_eq⟩

theorem monitorStep_sameBreaker {env : Environment} {state after : State}
    (stepped : monitorStep env state = some after)
    (working : ∀ host code uptime, state.monitor ≠ .recorded host code uptime) :
    SameBreaker state after := by
  unfold monitorStep at stepped
  cases place : state.monitor with
  | recorded host code uptime => exact absurd place (working host code uptime)
  | respawn =>
    rw [place] at stepped
    cases stepped
    exact spawn_sameBreaker env { state with attempts := state.now :: state.attempts }
  | _ =>
    rw [place] at stepped
    simp only at stepped
    repeat' split at stepped
    all_goals cases stepped
    all_goals exact ⟨rfl, rfl, rfl⟩

/-- A halted monitor stays at rest until the breaker is reset. -/
theorem monitorStep_atRest {env : Environment} {state after : State}
    (stepped : monitorStep env state = some after) (halted : state.halted = true)
    (rests : AtRest state.monitor) : AtRest after.monitor := by
  unfold monitorStep at stepped
  cases place : state.monitor with
  | off =>
    rw [place] at stepped
    cases stepped
  | head =>
    rw [place] at stepped
    cases stepped
    by_cases stops : state.stopRequested
    · simp only [stops, if_true]
      trivial
    · simp only [stops]
      trivial
  | readHandle =>
    rw [place] at stepped
    simp only [halted, if_true] at stepped
    cases stepped
    trivial
  | asleepToHead wake =>
    rw [place] at stepped
    simp only at stepped
    split at stepped
    · cases stepped
    · cases stepped
      trivial
  | _ =>
    rw [place] at rests
    exact rests.elim

/-! ### Steps -/

theorem Accounts.evolves {before after : State} {place : MonitorPc}
    (accounts : Accounts before place) (knows : KnowsHost before place)
    (evolves : Evolves before after) : Accounts after place := by
  cases place with
  | closed host code stamp =>
    obtain ⟨time, exited⟩ := accounts
    refine ⟨time, ?_⟩
    rw [evolves.exit_eq host knows.1 knows.2, exited]
  | exited host code stamp =>
    obtain ⟨time, exited⟩ := accounts
    refine ⟨time, ?_⟩
    rw [evolves.exit_eq host knows.1 knows.2, exited]
  | recorded host code uptime =>
    intro counted soon
    exact (accounts counted soon).evolves evolves
  | _ => trivial

theorem exitCode_of_exited {state : State} {host : Nat} (exited : Exited state host) :
    ∃ time, (state.hosts host).exit = some (exitCode state host, time) := by
  obtain ⟨⟨code, time⟩, final⟩ := Option.ne_none_iff_exists'.mp exited.2
  refine ⟨time, ?_⟩
  rw [exitCode, final]

/-- Measuring soundly: an uptime below the threshold is that of a fast exit. -/
theorem fastExit_of_measured {state : State} {host code stamp : Nat}
    (place : state.monitor = .exited host code stamp) (known : host < state.spawned)
    (accounts : ∃ time, (state.hosts host).exit = some (code, time))
    (sound : soundlyMeasured state = true) (counted : isCleanSingletonExit code = false)
    (soon : state.now - stamp < kFastExitThresholdMs) :
    FastExit state ⟨host, code, state.now - stamp⟩ := by
  obtain ⟨time, exited⟩ := accounts
  have recent : ¬state.now ≥ stamp + kFastExitThresholdMs := by omega
  simp only [soundlyMeasured, place, counted, recent, exited, decide_false, Bool.false_or,
    decide_eq_true_eq] at sound
  exact ⟨known, time, exited, sound⟩

theorem accounts_monitorStep {env : Environment} {state after : State}
    (sound : BreakerSound state) (unchanged : handleUnchanged state = true)
    (measured : soundlyMeasured state = true) (stepped : monitorStep env state = some after) :
    Accounts after after.monitor := by
  have knows := sound.located.knows
  have accounts := sound.accounts
  unfold monitorStep at stepped
  cases place : state.monitor with
  | signaled host stamp =>
    rw [place] at stepped
    cases held : state.handle with
    | none =>
      simp only [held] at stepped
      cases stepped
      trivial
    | some current =>
      simp only [held] at stepped
      cases stepped
      exact exitCode_of_exited (sound.located.exited_of_signaled unchanged place held)
  | closed host code stamp =>
    rw [place] at stepped accounts
    cases stepped
    exact accounts
  | exited host code stamp =>
    rw [place] at stepped accounts knows
    cases stepped
    have fast := fastExit_of_measured place knows.1 accounts measured
    exact fast
  | _ =>
    rw [place] at stepped
    simp only [countExit, monitorSpawn] at stepped
    repeat' split at stepped
    all_goals cases stepped
    all_goals trivial

theorem CountedFast.evolves {before after : State} (counted : CountedFast before)
    (evolves : Evolves before after) (exits_eq : after.exits = before.exits)
    (count_eq : after.consecutiveFastExits = before.consecutiveFastExits) : CountedFast after := by
  obtain ⟨recent, older, split, length, fast⟩ := counted
  refine ⟨recent, older, ?_, ?_, ?_⟩
  · rw [nonSingletonExits, exits_eq]
    exact split
  · rw [count_eq]
    exact length
  · intro record member
    exact (fast record member).evolves evolves

theorem countedFast_zero {state : State} (reset : state.consecutiveFastExits = 0) :
    CountedFast state :=
  ⟨[], nonSingletonExits state, rfl, reset.symm, fun _ member => absurd member List.not_mem_nil⟩

theorem nonSingletonExits_cons {state after : State} {record : ExitRecord}
    (logged : after.exits = record :: state.exits)
    (counted : isCleanSingletonExit record.code = false) :
    nonSingletonExits after = record :: nonSingletonExits state := by
  rw [nonSingletonExits, logged, List.filter_cons_of_pos]
  · rfl
  · rw [counted]
    rfl

theorem nonSingletonExits_skip {state after : State} {record : ExitRecord}
    (logged : after.exits = record :: state.exits)
    (singleton : isCleanSingletonExit record.code = true) :
    nonSingletonExits after = nonSingletonExits state := by
  rw [nonSingletonExits, logged, List.filter_cons_of_neg]
  · rfl
  · rw [singleton]
    exact Bool.false_ne_true

/-- What the accounting of an exit does to the count and the breaker. -/
theorem countExit_spec (host code uptime : Nat) (state : State) :
    (countExit host code uptime state).exits = ⟨host, code, uptime⟩ :: state.exits ∧
    (countExit host code uptime state).consecutiveFastExits =
      (if isCleanSingletonExit code then state.consecutiveFastExits
        else if uptime < kFastExitThresholdMs then state.consecutiveFastExits + 1 else 0) ∧
    ((countExit host code uptime state).halted = true → state.halted = true ∨
      kCircuitBreakerThreshold ≤ (countExit host code uptime state).consecutiveFastExits ∧
        (countExit host code uptime state).monitor = .head) := by
  unfold countExit
  by_cases singleton : isCleanSingletonExit code
  · simp only [singleton, if_true]
    exact ⟨trivial, trivial, Or.inl⟩
  · simp only [singleton, Bool.false_eq_true, if_false]
    generalize (if uptime < kFastExitThresholdMs then state.consecutiveFastExits + 1 else 0) = fast
    by_cases reached : fast ≥ kCircuitBreakerThreshold
    · simp only [reached, if_true]
      exact ⟨trivial, trivial, fun _ => Or.inr ⟨trivial, trivial⟩⟩
    · simp only [reached, if_false]
      exact ⟨trivial, trivial, Or.inl⟩

theorem countedFast_countExit {state : State} {host code uptime : Nat}
    (counted : CountedFast state)
    (accounts : isCleanSingletonExit code = false → uptime < kFastExitThresholdMs →
      FastExit state ⟨host, code, uptime⟩)
    (evolves : Evolves state (countExit host code uptime state)) :
    CountedFast (countExit host code uptime state) := by
  obtain ⟨logged, count, _⟩ := countExit_spec host code uptime state
  obtain ⟨recent, older, split, length, fast⟩ := counted
  by_cases singleton : isCleanSingletonExit code
  · rw [if_pos singleton] at count
    refine ⟨recent, older, ?_, length.trans count.symm, ?_⟩
    · rw [nonSingletonExits_skip logged singleton]
      exact split
    · intro record member
      exact (fast record member).evolves evolves
  · rw [if_neg singleton] at count
    have isCounted : isCleanSingletonExit code = false := Bool.eq_false_iff.mpr singleton
    by_cases soon : uptime < kFastExitThresholdMs
    · rw [if_pos soon] at count
      refine ⟨⟨host, code, uptime⟩ :: recent, older, ?_, ?_, ?_⟩
      · rw [nonSingletonExits_cons logged isCounted, split]
        rfl
      · rw [count, List.length_cons, length]
      · intro record member
        rcases List.mem_cons.mp member with rfl | earlier
        · exact (accounts isCounted soon).evolves evolves
        · exact (fast record earlier).evolves evolves
    · rw [if_neg soon] at count
      exact countedFast_zero count

theorem breakerSound_monitorStep {env : Environment} {state after : State}
    (sound : BreakerSound state) (unchanged : handleUnchanged state = true)
    (measured : soundlyMeasured state = true)
    (stepped : step state (.monitor env) = some after) : BreakerSound after := by
  have located := located_step sound.located (fun _ => unchanged) stepped
  have accounts := accounts_monitorStep sound unchanged measured stepped
  have evolves := step_evolves stepped
  by_cases working : ∃ host code uptime, state.monitor = .recorded host code uptime
  · obtain ⟨host, code, uptime, place⟩ := working
    have running : ¬state.halted = true := by
      intro halted
      have rests := sound.halted_rests halted
      rw [place] at rests
      exact rests
    have carried := sound.accounts
    rw [place] at carried
    simp only [step, monitorStep, place] at stepped
    cases stepped
    obtain ⟨_, _, trips⟩ := countExit_spec host code uptime state
    refine ⟨located, accounts, countedFast_countExit sound.counted carried evolves, ?_, ?_⟩
    · intro halted
      exact ((trips halted).resolve_left running).1
    · intro halted
      rw [((trips halted).resolve_left running).2]
      trivial
  · obtain ⟨exits_eq, count_eq, halted_eq⟩ := monitorStep_sameBreaker stepped
      fun host code uptime place => working ⟨host, code, uptime, place⟩
    refine ⟨located, accounts, sound.counted.evolves evolves exits_eq count_eq, ?_, ?_⟩
    · rw [halted_eq, count_eq]
      exact sound.halted_count
    · intro halted
      rw [halted_eq] at halted
      exact monitorStep_atRest stepped halted (sound.halted_rests halted)

theorem breakerSound_otherStep {state after : State} {event : Event} (sound : BreakerSound state)
    (stepped : step state event = some after) (other : ∀ env, event ≠ .monitor env) :
    BreakerSound after := by
  have evolves := step_evolves stepped
  have located : Located after :=
    located_step sound.located (fun ⟨env, own⟩ => absurd own (other env)) stepped
  have accounts : Accounts after after.monitor := by
    rcases step_monitor stepped other with same | begun | ended
    · rw [same]
      exact sound.accounts.evolves sound.located.knows evolves
    · rw [begun]
      trivial
    · rw [ended]
      trivial
  rcases step_breaker_frame stepped other with ⟨exits_eq, count_eq, halted_eq⟩ | ⟨_, reset, cleared⟩
  · refine ⟨located, accounts, sound.counted.evolves evolves exits_eq count_eq, ?_, ?_⟩
    · rw [halted_eq, count_eq]
      exact sound.halted_count
    · intro halted
      rw [halted_eq] at halted
      rcases step_monitor stepped other with same | begun | ended
      · rw [same]
        exact sound.halted_rests halted
      · rw [begun]
        trivial
      · rw [ended]
        trivial
  · refine ⟨located, accounts, countedFast_zero reset, ?_, ?_⟩
    · intro halted
      rw [cleared] at halted
      cases halted
    · intro halted
      rw [cleared] at halted
      cases halted

theorem breakerSound_step {state after : State} {event : Event} (sound : BreakerSound state)
    (met : SoundlyMeasured state event) (stepped : step state event = some after) :
    BreakerSound after := by
  by_cases own : ∃ env, event = .monitor env
  · obtain ⟨env, rfl⟩ := own
    exact breakerSound_monitorStep sound met.1 met.2 stepped
  · exact breakerSound_otherStep sound stepped fun env same => own ⟨env, same⟩

theorem breakerSound_initial : BreakerSound {} := by
  refine ⟨located_initial, trivial, countedFast_zero rfl, ?_, ?_⟩
  · intro halted
    cases halted
  · intro halted
    cases halted

theorem breakerSound_of_reaches {state : State}
    (reached : Reaches step SoundlyMeasured {} state) : BreakerSound state :=
  reached.invariant breakerSound_initial
    fun _ _ _ sound met stepped => breakerSound_step sound met stepped

/-! ### Runs -/

/-- Circuit breaker soundness. In every state reached by soundly measured steps, a halted
supervisor has handled, most recently, as many non-singleton exits as the threshold asks for, each
less than `kFastExitThresholdMs` after the spawn of that very host; so hosts that all stay up
longer never trip the breaker. -/
theorem breaker_soundness {state : State} (reached : Reaches step SoundlyMeasured {} state) :
    (state.halted = true → ∃ recent older, nonSingletonExits state = recent ++ older ∧
      kCircuitBreakerThreshold ≤ recent.length ∧ ∀ record ∈ recent, FastExit state record) ∧
    ((∀ record ∈ state.exits, ¬FastExit state record) → state.halted = false) := by
  have sound := breakerSound_of_reaches reached
  obtain ⟨recent, older, split, length, fast⟩ := sound.counted
  have enough : state.halted = true → kCircuitBreakerThreshold ≤ recent.length := by
    intro halted
    rw [length]
    exact sound.halted_count halted
  refine ⟨fun halted => ⟨recent, older, split, enough halted, fast⟩, ?_⟩
  intro slow
  by_contra halted
  have positive : 0 < recent.length :=
    Nat.lt_of_lt_of_le (by decide) (enough (Bool.not_eq_false _ ▸ halted))
  obtain ⟨record, member⟩ := List.exists_mem_of_length_pos positive
  have handled : record ∈ nonSingletonExits state := by
    rw [split]
    exact List.mem_append_left older member
  exact slow record (List.mem_of_mem_filter handled) (fast record member)

/-- From the head of an iteration: the tracked host crashes after `uptime` milliseconds, the monitor
counts the exit, waits out the back-off of one second and respawns. -/
def crash (host uptime : Nat) : List Event :=
  [.monitor {}, .monitor {}, .monitor {}, .tick uptime, .hostExits host 1, .monitor {},
    .monitor {}, .monitor {}, .monitor {}, .monitor {}, .tick 1000, .monitor {}, .monitor {},
    .monitor {}]

def start : List Event := [.startReset, .startSpawn {}]

theorem breaker_soundness_crashes : ∃ state, Reaches step SoundlyMeasured {} state ∧
    state.halted = true ∧ ∃ recent older, nonSingletonExits state = recent ++ older ∧
      kCircuitBreakerThreshold ≤ recent.length ∧ ∀ record ∈ recent, FastExit state record := by
  obtain ⟨state, reached, halted⟩ : ∃ state, Reaches step SoundlyMeasured {} state ∧
      state.halted = true :=
    reaches_evaluates (start ++ crash 0 5 ++ crash 1 5 ++ crash 2 5 ++ crash 3 5 ++
      (crash 4 5).take 10) (by decide +kernel)
  exact ⟨state, reached, halted, (breaker_soundness reached).1 halted⟩

/-! ### Stamps after timed-out waits -/

/-- A wait for the tracked host times out after five seconds. -/
def wait : List Event :=
  [.monitor {}, .monitor {}, .monitor {}, .tick 5000, .monitor { wait := .timedOut }]

def slowCrashes : List Event :=
  start ++ (wait ++ crash 0 5) ++ (wait ++ crash 1 5) ++ (wait ++ crash 2 5) ++
    (wait ++ crash 3 5) ++ (wait ++ (crash 4 5).take 10)

/-- The host of the record exited five seconds or more after it was spawned. -/
def upForSeconds (state : State) (record : ExitRecord) : Bool :=
  (state.hosts record.host).exit ==
    some (record.code, (state.hosts record.host).spawnTime + 5005)

theorem not_fastExit_of_upForSeconds {state : State} {record : ExitRecord}
    (slow : upForSeconds state record = true) : ¬FastExit state record := by
  rintro ⟨_, time, exited, soon⟩
  rw [upForSeconds, exited, beq_iff_eq, Option.some.injEq, Prod.mk.injEq] at slow
  rw [slow.2, kFastExitThresholdMs] at soon
  omega

/-- Five hosts, each up for more than five seconds before it crashes shortly after a timed-out
wait, trip the breaker. -/
theorem slow_crashes_trip_breaker : ∃ state, run step {} slowCrashes = some state ∧
    state.halted = true ∧ state.exits.length = kCircuitBreakerThreshold ∧
    ∀ record ∈ state.exits, ¬FastExit state record := by
  obtain ⟨state, ran, halted, length, slow⟩ : ∃ state, run step {} slowCrashes = some state ∧
      state.halted = true ∧ state.exits.length = kCircuitBreakerThreshold ∧
      ∀ record ∈ state.exits, upForSeconds state record = true :=
    run_evaluates (by decide +kernel)
  exact ⟨state, ran, halted, length,
    fun record member => not_fastExit_of_upForSeconds (slow record member)⟩

end PairDriver.Supervisor
