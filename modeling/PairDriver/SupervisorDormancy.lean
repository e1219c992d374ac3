/-
This file proves that the supervisor goes dormant after a respawn that failed.
`Spawn` is called only where the loop handles an exit or a lost attachment. With
no handle and no attachment neither happens, so the iteration sleeps and the next
one finds the same state: nothing retries until `Start`, `Stop` or `Restart` is
called.
-/

import PairDriver.SupervisorHosts

namespace PairDriver.Supervisor

/-- No stop was requested, the breaker has not halted, and there is neither a tracked host nor an
attached one. -/
structure Dormant (state : State) : Prop where
  notStopped : state.stopRequested = false
  notHalted : state.halted = false
  untracked : state.handle = none
  unattached : state.attachedToExisting = false

/-- The steps of the supervisor on its own: nobody calls `Start`, `Stop` or `Restart`. -/
def OwnStep (_ : State) : Event → Prop
  | .tick _ | .hostExits _ _ | .monitor _ => True
  | _ => False

/-- Left on its own, the supervisor calls `Spawn` again in some continuation. -/
def RetriesSpawn (state : State) : Prop :=
  ∃ after, Reaches step OwnStep state after ∧ after.attempts ≠ state.attempts

/-- The places of an iteration that finds nothing to supervise. -/
def Idles : MonitorPc → Prop
  | .head | .readHandle | .readAttached | .asleepToHead _ => True
  | _ => False

/-- A dormant supervisor whose monitor idles, with the attempts it has made so far. -/
structure Asleep (attempts : List Nat) (backoffMs : Nat) (state : State) : Prop where
  dormant : Dormant state
  idles : Idles state.monitor
  attempts_eq : state.attempts = attempts
  backoffMs_eq : state.backoffMs = backoffMs

theorem asleep_monitorStep {attempts : List Nat} {backoffMs : Nat} {env : Environment}
    {state after : State} (asleep : Asleep attempts backoffMs state)
    (stepped : monitorStep env state = some after) : Asleep attempts backoffMs after := by
  obtain ⟨dormant, idles, attempts_eq, backoffMs_eq⟩ := asleep
  unfold monitorStep at stepped
  cases place : state.monitor with
  | head =>
    rw [place] at stepped
    simp only [dormant.notStopped, Bool.false_eq_true, if_false] at stepped
    cases stepped
    exact ⟨⟨rfl, dormant.notHalted, dormant.untracked, dormant.unattached⟩, trivial, attempts_eq,
      backoffMs_eq⟩
  | readHandle =>
    rw [place] at stepped
    simp only [dormant.notHalted, Bool.false_eq_true, if_false, dormant.untracked] at stepped
    cases stepped
    exact ⟨⟨dormant.notStopped, rfl, rfl, dormant.unattached⟩, trivial, attempts_eq, backoffMs_eq⟩
  | readAttached =>
    rw [place] at stepped
    simp only [dormant.unattached, Bool.false_eq_true, if_false] at stepped
    cases stepped
    exact ⟨⟨dormant.notStopped, dormant.notHalted, dormant.untracked, rfl⟩, trivial, attempts_eq,
      backoffMs_eq⟩
  | asleepToHead wake =>
    rw [place] at stepped
    simp only at stepped
    split at stepped
    · cases stepped
    · cases stepped
      exact ⟨⟨dormant.notStopped, dormant.notHalted, dormant.untracked, dormant.unattached⟩,
        trivial, attempts_eq, backoffMs_eq⟩
  | _ =>
    rw [place] at idles
    exact idles.elim

theorem asleep_step {attempts : List Nat} {backoffMs : Nat} {state after : State} {event : Event}
    (asleep : Asleep attempts backoffMs state) (own : OwnStep state event)
    (stepped : step state event = some after) : Asleep attempts backoffMs after := by
  cases event with
  | tick ms =>
    cases stepped
    obtain ⟨dormant, idles, attempts_eq, backoffMs_eq⟩ := asleep
    exact ⟨⟨dormant.notStopped, dormant.notHalted, dormant.untracked, dormant.unattached⟩, idles,
      attempts_eq, backoffMs_eq⟩
  | hostExits host code =>
    simp only [step] at stepped
    split at stepped
    · rename_i live
      rw [exitHost_of_live code live] at stepped
      cases stepped
      obtain ⟨dormant, idles, attempts_eq, backoffMs_eq⟩ := asleep
      exact ⟨⟨dormant.notStopped, dormant.notHalted, dormant.untracked, dormant.unattached⟩, idles,
        attempts_eq, backoffMs_eq⟩
    · cases stepped
  | monitor env => exact asleep_monitorStep asleep stepped
  | _ => exact own.elim

theorem asleep_of_reaches {state after : State} (atHead : state.monitor = .head)
    (dormant : Dormant state) (continues : Reaches step OwnStep state after) :
    Asleep state.attempts state.backoffMs after := by
  refine continues.invariant ⟨dormant, ?_, rfl, rfl⟩
    fun _ _ _ asleep own stepped => asleep_step asleep own stepped
  rw [atHead]
  trivial

/-- Dormancy. In every state, reachable or not, at the head of an iteration with no stop requested, the
breaker not halted, no handle tracked and no host attached, the supervisor on its own never calls
`Spawn` again, however long it runs; it stays in such a state, and its back-off stays as it is. -/
theorem dormant_never_retries {state : State} (atHead : state.monitor = .head)
    (dormant : Dormant state) :
    ¬RetriesSpawn state ∧ ∀ after, Reaches step OwnStep state after →
      Dormant after ∧ after.backoffMs = state.backoffMs := by
  constructor
  · rintro ⟨after, continues, retried⟩
    exact retried (asleep_of_reaches atHead dormant continues).attempts_eq
  · intro after continues
    have asleep := asleep_of_reaches atHead dormant continues
    exact ⟨asleep.dormant, asleep.backoffMs_eq⟩

/-- `Start` succeeds, the host crashes, and after the back-off `CreateProcessW` fails. -/
def failedRespawn : List Event :=
  [.startReset, .startSpawn {}, .monitor {}, .monitor {}, .monitor {}, .hostExits 0 1, .monitor {},
    .monitor {}, .monitor {}, .monitor {}, .monitor {}, .tick 1000, .monitor {}, .monitor {},
    .monitor { created := false }]

theorem dormant_never_retries_failedRespawn : ∃ state,
    run step {} failedRespawn = some state ∧ state.monitor = .head ∧ Dormant state ∧
      ¬RetriesSpawn state := by
  have ran : ∃ state, run step {} failedRespawn = some state ∧ state.monitor = .head ∧
      Dormant state := ⟨_, rfl, rfl, rfl, rfl, rfl, rfl⟩
  obtain ⟨state, ran, atHead, dormant⟩ := ran
  exact ⟨state, ran, atHead, dormant, (dormant_never_retries atHead dormant).1⟩

/-- The iteration after the failed respawn: half a second of sleep, and back at the head. -/
def iteration : List Event :=
  [.monitor {}, .monitor {}, .monitor {}, .tick 500, .monitor {}]

theorem failed_respawn_not_retried : ∃ state after,
    run step {} failedRespawn = some state ∧ state.monitor = .head ∧ Dormant state ∧
    run step {} (failedRespawn ++ iteration) = some after ∧ after.monitor = .head ∧
    after.attempts = state.attempts := by
  obtain ⟨after, ran, facts⟩ : ∃ after, run step {} (failedRespawn ++ iteration) = some after ∧
      after.monitor = .head ∧ after.attempts = [1000] :=
    run_evaluates (by decide +kernel)
  exact ⟨_, after, rfl, rfl, ⟨rfl, rfl, rfl, rfl⟩, ran, facts⟩

end PairDriver.Supervisor
