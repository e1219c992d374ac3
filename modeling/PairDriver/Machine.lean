/-
This file is the vocabulary for state machines the models share: a step
function that is undefined where an event is not enabled, the run over a list of
events, and the states reached by steps that all meet a condition. The one rule
the proofs use is induction over such a reachable state; concrete runs enter it
through `run_evaluates` and `reaches_evaluates`.
-/

import Mathlib

namespace PairDriver

universe u v

section Machine

variable {State : Type u} {Event : Type v} (step : State → Event → Option State)

/-- The state after a list of events; undefined as soon as one of them is not enabled. -/
def run : State → List Event → Option State
  | state, [] => some state
  | state, event :: rest => (step state event).bind fun after => run after rest

/-- The states a machine reaches from `start` by steps that all meet the condition `allowed`. -/
inductive Reaches (allowed : State → Event → Prop) (start : State) : State → Prop where
  | start : Reaches allowed start start
  | next {state after : State} (event : Event) : Reaches allowed start state →
      allowed state event → step state event = some after → Reaches allowed start after

variable {step}

theorem run_append (state : State) (first second : List Event) :
    run step state (first ++ second) = (run step state first).bind fun after =>
      run step after second := by
  induction first generalizing state with
  | nil => rfl
  | cons event rest inductionHypothesis =>
    simp only [List.cons_append, run, Option.bind_assoc, inductionHypothesis]

/-- The invariant rule: what holds at the start and survives every allowed step holds in every
state reached. -/
theorem Reaches.invariant {allowed : State → Event → Prop} {start state : State}
    {property : State → Prop} (reached : Reaches step allowed start state)
    (initial : property start)
    (preserved : ∀ before event after, property before → allowed before event →
      step before event = some after → property after) : property state := by
  induction reached with
  | start => exact initial
  | next event _ met stepped inductionHypothesis =>
    exact preserved _ event _ inductionHypothesis met stepped

theorem Reaches.trans {allowed : State → Event → Prop} {start middle state : State}
    (first : Reaches step allowed start middle) (second : Reaches step allowed middle state) :
    Reaches step allowed start state := by
  induction second with
  | start => exact first
  | next event _ met stepped inductionHypothesis => exact inductionHypothesis.next event met stepped

/-- A stronger condition reaches no more. -/
theorem Reaches.mono {allowed weaker : State → Event → Prop} {start state : State}
    (reached : Reaches step allowed start state)
    (implies : ∀ state event, allowed state event → weaker state event) :
    Reaches step weaker start state := by
  induction reached with
  | start => exact Reaches.start
  | next event _ met stepped inductionHypothesis =>
    exact inductionHypothesis.next event (implies _ _ met) stepped

/-- The step function, undefined where the condition does not hold. -/
def checked (step : State → Event → Option State) (allowed : State → Event → Prop)
    [∀ state event, Decidable (allowed state event)] (state : State) (event : Event) :
    Option State :=
  if allowed state event then step state event else none

/-- A run that meets the condition at every step reaches its last state. -/
theorem Reaches.of_checked_run {allowed : State → Event → Prop}
    [∀ state event, Decidable (allowed state event)] {start state : State} {events : List Event}
    (ran : run (checked step allowed) start events = some state) :
    Reaches step allowed start state := by
  induction events generalizing start with
  | nil =>
    obtain rfl : start = state := Option.some.inj ran
    exact Reaches.start
  | cons event rest inductionHypothesis =>
    obtain ⟨after, stepped, later⟩ := Option.bind_eq_some_iff.mp ran
    unfold checked at stepped
    split at stepped
    · rename_i met
      exact (Reaches.start.next event met stepped).trans (inductionHypothesis later)
    · cases stepped

/-- A run that meets the condition at every step is a run. -/
theorem run_of_checked_run {allowed : State → Event → Prop}
    [∀ state event, Decidable (allowed state event)] {start state : State} {events : List Event}
    (ran : run (checked step allowed) start events = some state) :
    run step start events = some state := by
  induction events generalizing start with
  | nil => exact ran
  | cons event rest inductionHypothesis =>
    obtain ⟨after, stepped, later⟩ := Option.bind_eq_some_iff.mp ran
    unfold checked at stepped
    split at stepped
    · exact Option.bind_eq_some_iff.mpr ⟨after, stepped, inductionHypothesis later⟩
    · cases stepped

/-- A run on concrete events is evaluated: it is defined, and its last state has the property. -/
theorem run_evaluates {start : State} {events : List Event} {property : State → Prop}
    [DecidablePred property]
    (evaluated : (run step start events).any (fun state => decide (property state)) = true) :
    ∃ state, run step start events = some state ∧ property state := by
  obtain ⟨state, ran, holds⟩ := (Option.any_eq_true _ _).mp evaluated
  exact ⟨state, ran, of_decide_eq_true holds⟩

/-- The same for a run whose steps are to meet a condition. -/
theorem reaches_evaluates {allowed : State → Event → Prop}
    [∀ state event, Decidable (allowed state event)] {start : State} (events : List Event)
    {property : State → Prop} [DecidablePred property]
    (evaluated : (run (checked step allowed) start events).any
      (fun state => decide (property state)) = true) :
    ∃ state, Reaches step allowed start state ∧ property state := by
  obtain ⟨state, ran, holds⟩ := run_evaluates evaluated
  exact ⟨state, Reaches.of_checked_run ran, holds⟩

end Machine

end PairDriver
