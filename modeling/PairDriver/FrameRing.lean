/-
This file models the ring of face frames in shared memory, one word a step: the
publisher, which is `FrameWriter` of the module host or the helper `Publish` of
`FaceTrackingFrameShmem`, and the two read functions of the driver.

A publish increases the generation of its slot, writes the words of the body,
increases the generation once more and stores the publish index. Memory is
sequentially consistent, counters are natural numbers. The two publishers differ
only in where they take the next index from: `FrameWriter` counts in its own
process, `Publish` adds one to the index in shared memory. What the writes do to
the slots is said once, in `Bracketed`.
-/

import PairDriver.Machine
import PairDriver.Seqlock

namespace PairDriver.FrameRing

open Seqlock

def ringSize : Nat := 32

/-- The slot of an index. -/
def slotOf (index : Nat) : Nat :=
  (index - 1) % ringSize

/-! ### State -/

section State

variable (n : Nat) (Word : Type)

/-- Where the publisher stands. `previous` is the generation it found, `written` the number of words
it has written. -/
inductive Writer where
  | idle
  | writing (next previous : Nat) (frame : Fin n → Word) (written : Nat)
  | announcing (next : Nat)
  | dead

/-- Where the reader stands: before the first read of the generation, with the attempts left, or
copying after it saw a generation. A read that returned true keeps the index it was for. -/
inductive Reader where
  | idle
  | attempt (index left : Nat)
  | copying (index left seen copied : Nat)
  | returned (result : Option Nat)
deriving DecidableEq

/-- The mapped segment, the publisher with the counter of its process, and the reader with its
buffer. `published`, recorded for the specification only, lists the frames whose second generation
was written. -/
structure System where
  publishIndex : Nat := 0
  generation : Nat → Nat := fun _ => 0
  body : Nat → Fin n → Word
  localPublishIndex : Nat := 0
  writer : Writer n Word := .idle
  reader : Reader := .idle
  out : Fin n → Word
  published : List (Fin n → Word) := []

end State

variable {n : Nat} {Word : Type}

/-- A fresh segment holds zero bytes. -/
def initial (zero : Word) : System n Word :=
  { body := fun _ _ => zero, out := fun _ => zero }

/-! ### Publishing -/

/-- The publisher of the module host, or the one of the C++ side. -/
inductive Publisher where
  | frameWriter
  | shmem
deriving DecidableEq

/-- The index a publish takes. -/
def nextIndex (publisher : Publisher) (system : System n Word) : Nat :=
  match publisher with
  | .frameWriter => system.localPublishIndex + 1
  | .shmem => system.publishIndex + 1

/-- The first write of a publish: the generation of the slot becomes odd, if it was even. -/
def beginPublish (publisher : Publisher) (frame : Fin n → Word) (system : System n Word) :
    Option (System n Word) :=
  match system.writer with
  | .idle =>
    let next := nextIndex publisher system
    let previous := system.generation (slotOf next)
    some { system with
      localPublishIndex := match publisher with
        | .frameWriter => next
        | .shmem => system.localPublishIndex
      generation := Function.update system.generation (slotOf next) (previous + 1)
      writer := .writing next previous frame 0 }
  | _ => none

/-- The further writes of a publish, one a step. -/
def continuePublish (system : System n Word) : Option (System n Word) :=
  match system.writer with
  | .writing next previous frame written =>
    if written < n then
      some { system with
        body := Function.update system.body (slotOf next)
          (copyWord frame (system.body (slotOf next)) written)
        writer := .writing next previous frame (written + 1) }
    else
      some { system with
        generation := Function.update system.generation (slotOf next) (previous + 2)
        writer := .announcing next
        published := system.published ++ [frame] }
  | .announcing next => some { system with publishIndex := next, writer := .idle }
  | _ => none

/-! ### Reading -/

/-- The start of `TryReadLatestWire`. -/
def beginReadLatest (maxRetries : Nat) (system : System n Word) : Option (System n Word) :=
  match system.reader with
  | .idle | .returned _ =>
    some { system with
      reader := if system.publishIndex = 0 then .returned none
        else .attempt system.publishIndex maxRetries }
  | _ => none

/-- The start of `TryReadWireByIndex`. -/
def beginReadByIndex (target maxRetries : Nat) (system : System n Word) : Option (System n Word) :=
  match system.reader with
  | .idle | .returned _ =>
    some { system with
      reader :=
        if target = 0 ∨ system.publishIndex < target ∨ ringSize ≤ system.publishIndex - target then
          .returned none
        else .attempt target maxRetries }
  | _ => none

/-- The loop both read functions share, one read a step. -/
def continueRead (system : System n Word) : Option (System n Word) :=
  match system.reader with
  | .attempt _ 0 => some { system with reader := .returned none }
  | .attempt index (left + 1) =>
    let seen := system.generation (slotOf index)
    some { system with
      reader := if seen % 2 = 1 then .attempt index left else .copying index left seen 0 }
  | .copying index left seen copied =>
    if copied < n then
      some { system with
        out := copyWord (system.body (slotOf index)) system.out copied
        reader := .copying index left seen (copied + 1) }
    else
      some { system with
        reader := if system.generation (slotOf index) = seen then .returned (some index)
          else .attempt index left }
  | _ => none

/-! ### The slots -/

/-- The publisher is between the two generations of a slot. -/
def WritesTo (writer : Writer n Word) (slot : Nat) : Prop :=
  match writer with
  | .writing next _ _ _ => slotOf next = slot
  | _ => False

/-- Every slot has an even generation but the one being written, which has an odd one and holds the
words written so far. -/
structure Bracketed (system : System n Word) : Prop where
  even : ∀ slot, ¬WritesTo system.writer slot → Even (system.generation slot)
  writing : ∀ next previous frame written,
    system.writer = .writing next previous frame written →
      Even previous ∧ system.generation (slotOf next) = previous + 1 ∧ written ≤ n ∧
        AgreesUpTo written frame (system.body (slotOf next))

theorem bracketed_initial (zero : Word) : Bracketed (initial zero : System n Word) := by
  refine ⟨fun _ _ => ⟨0, rfl⟩, ?_⟩
  intro next previous frame written place
  cases place

theorem Bracketed.congr {before after : System n Word} (bracketed : Bracketed before)
    (generation_eq : after.generation = before.generation) (body_eq : after.body = before.body)
    (writer_eq : after.writer = before.writer) : Bracketed after := by
  refine ⟨?_, ?_⟩
  · rw [generation_eq, writer_eq]
    exact bracketed.even
  · rw [generation_eq, writer_eq, body_eq]
    exact bracketed.writing

theorem Bracketed.odd {system : System n Word} (bracketed : Bracketed system)
    {next previous written : Nat} {frame : Fin n → Word}
    (place : system.writer = .writing next previous frame written) :
    Odd (system.generation (slotOf next)) := by
  obtain ⟨even, generation_eq, _⟩ := bracketed.writing next previous frame written place
  rw [generation_eq]
  exact even.add_one

theorem Bracketed.not_writesTo_of_even {system : System n Word} (bracketed : Bracketed system)
    {slot : Nat} (even : Even (system.generation slot)) : ¬WritesTo system.writer slot := by
  intro writes
  unfold WritesTo at writes
  split at writes
  · rename_i next previous frame written place
    have odd := bracketed.odd place
    rw [writes] at odd
    exact Nat.not_even_iff_odd.mpr odd even
  · exact writes

/-- A slot the publisher is about to leave or has not come to is not the one it writes. -/
theorem not_writesTo {system : System n Word}
    (idle : ∀ next previous frame written, system.writer ≠ .writing next previous frame written)
    (slot : Nat) : ¬WritesTo system.writer slot := by
  unfold WritesTo
  split
  · rename_i next previous frame written place
    exact absurd place (idle next previous frame written)
  · exact id

/-- What the first write of a publish does. -/
theorem beginPublish_eq {publisher : Publisher} {frame : Fin n → Word} {system after : System n Word}
    (begun : beginPublish publisher frame system = some after) :
    system.writer = .idle ∧ ∃ next, next = nextIndex publisher system ∧
      after.writer = .writing next (system.generation (slotOf next)) frame 0 ∧
      after.generation = Function.update system.generation (slotOf next)
        (system.generation (slotOf next) + 1) ∧
      after.publishIndex = system.publishIndex ∧ after.body = system.body ∧
      after.reader = system.reader ∧ after.out = system.out ∧
      after.published = system.published := by
  unfold beginPublish at begun
  split at begun
  · rename_i idle
    refine ⟨idle, nextIndex publisher system, rfl, ?_⟩
    rw [← Option.some.inj begun]
    exact ⟨rfl, rfl, rfl, rfl, rfl, rfl, rfl⟩
  · cases begun

/-- What the further writes of a publish do: a word, the second generation, or the index. -/
theorem continuePublish_cases {system after : System n Word}
    (continued : continuePublish system = some after) :
    (∃ next previous frame written, system.writer = .writing next previous frame written ∧
      ((written < n ∧ after = { system with
          body := Function.update system.body (slotOf next)
            (copyWord frame (system.body (slotOf next)) written)
          writer := .writing next previous frame (written + 1) }) ∨
       (n ≤ written ∧ after = { system with
          generation := Function.update system.generation (slotOf next) (previous + 2)
          writer := .announcing next
          published := system.published ++ [frame] }))) ∨
    (∃ next, system.writer = .announcing next ∧
      after = { system with publishIndex := next, writer := .idle }) := by
  unfold continuePublish at continued
  split at continued
  · rename_i next previous frame written place
    left
    refine ⟨next, previous, frame, written, place, ?_⟩
    split at continued
    · rename_i more
      exact Or.inl ⟨more, (Option.some.inj continued).symm⟩
    · rename_i complete
      exact Or.inr ⟨Nat.le_of_not_lt complete, (Option.some.inj continued).symm⟩
  · rename_i next place
    exact Or.inr ⟨next, place, (Option.some.inj continued).symm⟩
  · cases continued

theorem Bracketed.beginPublish {publisher : Publisher} {frame : Fin n → Word}
    {system after : System n Word} (bracketed : Bracketed system)
    (begun : beginPublish publisher frame system = some after) : Bracketed after := by
  obtain ⟨idle, next, _, writer_eq, generation_eq, _, body_eq, _⟩ := beginPublish_eq begun
  have free : ∀ slot, ¬WritesTo system.writer slot :=
    not_writesTo fun _ _ _ _ place => by rw [idle] at place; cases place
  refine ⟨?_, ?_⟩
  · intro slot other
    rw [writer_eq] at other
    have different : slot ≠ slotOf next := fun same => other same.symm
    rw [generation_eq, Function.update_of_ne different]
    exact bracketed.even slot (free slot)
  · intro next' previous' frame' written' place
    rw [writer_eq] at place
    cases place
    rw [generation_eq, Function.update_self]
    exact ⟨bracketed.even _ (free _), rfl, Nat.zero_le n, agreesUpTo_zero _ _⟩

theorem Bracketed.continuePublish {system after : System n Word} (bracketed : Bracketed system)
    (continued : continuePublish system = some after) : Bracketed after := by
  obtain ⟨next, previous, frame, written, place, ⟨more, rfl⟩ | ⟨complete, rfl⟩⟩ | ⟨next, place, rfl⟩ :=
    continuePublish_cases continued
  · obtain ⟨even, generation_eq, _, agrees⟩ := bracketed.writing next previous frame written place
    refine ⟨?_, ?_⟩
    · intro slot other
      refine bracketed.even slot ?_
      rw [place]
      exact other
    · intro next' previous' frame' written' place'
      cases place'
      simp only [Function.update_self]
      exact ⟨even, generation_eq, more, agrees.copyWord⟩
  · obtain ⟨even, _⟩ := bracketed.writing next previous frame written place
    refine ⟨?_, fun _ _ _ _ place' => by cases place'⟩
    intro slot _
    by_cases same : slot = slotOf next
    · subst same
      simp only [Function.update_self]
      exact even.add even_two
    · simp only [Function.update_of_ne same]
      refine bracketed.even slot ?_
      rw [place]
      exact fun writes => same writes.symm
  · refine ⟨?_, fun _ _ _ _ place' => by cases place'⟩
    intro slot _
    refine bracketed.even slot ?_
    rw [place]
    exact id

/-- The slot holds the whole frame when its second generation is written. -/
theorem Bracketed.frame_eq {system : System n Word} (bracketed : Bracketed system)
    {next previous written : Nat} {frame : Fin n → Word}
    (place : system.writer = .writing next previous frame written) (complete : n ≤ written) :
    system.body (slotOf next) = frame := by
  obtain ⟨_, _, bounded, agrees⟩ := bracketed.writing next previous frame written place
  obtain rfl := Nat.le_antisymm bounded complete
  exact agrees.eq

/-! ### A copy in progress -/

/-- What a copy in progress knows, for the slot it reads. -/
def CopyHolds (good : (Fin n → Word) → Prop) (system : System n Word) (index seen copied : Nat) :
    Prop :=
  Stable good (system.generation (slotOf index)) seen (system.body (slotOf index)) system.out copied

theorem CopyHolds.beginPublish {publisher : Publisher} {frame : Fin n → Word}
    {system after : System n Word} {good : (Fin n → Word) → Prop} {index seen copied : Nat}
    (holds : CopyHolds good system index seen copied)
    (begun : beginPublish publisher frame system = some after) :
    CopyHolds good after index seen copied := by
  obtain ⟨_, next, _, _, generation_eq, _, body_eq, _, out_eq, _⟩ := beginPublish_eq begun
  unfold CopyHolds at holds ⊢
  rw [generation_eq, body_eq, out_eq]
  by_cases same : slotOf index = slotOf next
  · rw [same, Function.update_self]
    rw [same] at holds
    exact holds.increase (Nat.lt_succ_self _) _
  · rw [Function.update_of_ne same]
    exact holds

theorem CopyHolds.continuePublish {system after : System n Word} {good : (Fin n → Word) → Prop}
    {index seen copied : Nat} (holds : CopyHolds good system index seen copied)
    (bracketed : Bracketed system) (continued : continuePublish system = some after) :
    CopyHolds good after index seen copied := by
  obtain ⟨next, previous, frame, written, place, ⟨more, rfl⟩ | ⟨complete, rfl⟩⟩ | ⟨next, place, rfl⟩ :=
    continuePublish_cases continued
  · unfold CopyHolds at holds ⊢
    by_cases same : slotOf index = slotOf next
    · simp only [same, Function.update_self]
      rw [same] at holds
      exact holds.write (bracketed.odd place) _
    · simp only [Function.update_of_ne same]
      exact holds
  · obtain ⟨_, generation_eq, _⟩ := bracketed.writing next previous frame written place
    unfold CopyHolds at holds ⊢
    by_cases same : slotOf index = slotOf next
    · simp only [same, Function.update_self]
      rw [same] at holds
      refine holds.increase ?_ _
      rw [generation_eq]
      exact Nat.lt_succ_self _
    · simp only [Function.update_of_ne same]
      exact holds
  · exact holds

theorem beginReadLatest_eq {maxRetries : Nat} {system after : System n Word}
    (begun : beginReadLatest maxRetries system = some after) :
    after = { system with
      reader := if system.publishIndex = 0 then .returned none
        else .attempt system.publishIndex maxRetries } := by
  unfold beginReadLatest at begun
  split at begun
  · exact (Option.some.inj begun).symm
  · exact (Option.some.inj begun).symm
  · cases begun

theorem beginReadByIndex_eq {target maxRetries : Nat} {system after : System n Word}
    (begun : beginReadByIndex target maxRetries system = some after) :
    after = { system with
      reader :=
        if target = 0 ∨ system.publishIndex < target ∨ ringSize ≤ system.publishIndex - target then
          .returned none
        else .attempt target maxRetries } := by
  unfold beginReadByIndex at begun
  split at begun
  · exact (Option.some.inj begun).symm
  · exact (Option.some.inj begun).symm
  · cases begun

/-- What the reads of the loop do: give up, try again, start to copy, copy a word, or compare. -/
theorem continueRead_cases {system after : System n Word} (continued : continueRead system = some after) :
    (∃ index, system.reader = .attempt index 0 ∧ after = { system with reader := .returned none }) ∨
    (∃ index left, system.reader = .attempt index (left + 1) ∧
      (after = { system with reader := .attempt index left } ∨
       (Even (system.generation (slotOf index)) ∧ after = { system with
          reader := .copying index left (system.generation (slotOf index)) 0 }))) ∨
    (∃ index left seen copied, system.reader = .copying index left seen copied ∧
      ((copied < n ∧ after = { system with
          out := copyWord (system.body (slotOf index)) system.out copied
          reader := .copying index left seen (copied + 1) }) ∨
       (n ≤ copied ∧ system.generation (slotOf index) = seen ∧
          after = { system with reader := .returned (some index) }) ∨
       after = { system with reader := .attempt index left })) := by
  unfold continueRead at continued
  split at continued
  · rename_i index place
    exact Or.inl ⟨index, place, (Option.some.inj continued).symm⟩
  · rename_i index left place
    refine Or.inr (Or.inl ⟨index, left, place, ?_⟩)
    have after_eq := (Option.some.inj continued).symm
    split at after_eq
    · exact Or.inl after_eq
    · rename_i notOdd
      exact Or.inr ⟨Nat.even_iff.mpr (Nat.mod_two_ne_one.mp notOdd), after_eq⟩
  · rename_i index left seen copied place
    refine Or.inr (Or.inr ⟨index, left, seen, copied, place, ?_⟩)
    split at continued
    · rename_i more
      exact Or.inl ⟨more, (Option.some.inj continued).symm⟩
    · rename_i complete
      have after_eq := (Option.some.inj continued).symm
      split at after_eq
      · rename_i same
        exact Or.inr (Or.inl ⟨Nat.le_of_not_lt complete, same, after_eq⟩)
      · exact Or.inr (Or.inr after_eq)
  · cases continued

/-- What a reader knows, for a property that a body read for an index is to have, and one that an
index under way has. -/
def ReaderHolds (good : Nat → (Fin n → Word) → Prop) (known : Nat → Prop) (system : System n Word) :
    Prop :=
  match system.reader with
  | .idle | .returned none => True
  | .attempt index _ => known index
  | .copying index _ seen copied =>
    known index ∧ copied ≤ n ∧ CopyHolds (good index) system index seen copied
  | .returned (some index) => good index system.out

/-- A step of the publisher keeps what the reader knows. -/
theorem ReaderHolds.publish {good good' : Nat → (Fin n → Word) → Prop} {known known' : Nat → Prop}
    {system after : System n Word} (holds : ReaderHolds good known system)
    (reader_eq : after.reader = system.reader) (out_eq : after.out = system.out)
    (good_of : ∀ index body, good index body → good' index body)
    (known_of : ∀ index, known index → known' index)
    (copy_of : ∀ property index seen copied, CopyHolds property system index seen copied →
      CopyHolds property after index seen copied) : ReaderHolds good' known' after := by
  unfold ReaderHolds at holds ⊢
  rw [reader_eq, out_eq]
  split
  · trivial
  · trivial
  · rename_i index left place
    rw [place] at holds
    exact known_of index holds
  · rename_i index left seen copied place
    rw [place] at holds
    obtain ⟨isKnown, bounded, copy⟩ := holds
    exact ⟨known_of index isKnown, bounded, (copy_of _ index seen copied copy).weaken (good_of index)⟩
  · rename_i index place
    rw [place] at holds
    exact good_of index system.out holds

/-- A read of the loop keeps what the reader knows, if a slot it starts to copy has the property. -/
theorem ReaderHolds.continueRead {good : Nat → (Fin n → Word) → Prop} {known : Nat → Prop}
    {system after : System n Word} (holds : ReaderHolds good known system)
    (continued : continueRead system = some after)
    (starts : ∀ index left, system.reader = .attempt index (left + 1) →
      Even (system.generation (slotOf index)) → known index →
      good index (system.body (slotOf index))) : ReaderHolds good known after := by
  unfold ReaderHolds at holds
  obtain ⟨index, place, rfl⟩ | ⟨index, left, place, rfl | ⟨even, rfl⟩⟩ |
    ⟨index, left, seen, copied, place, ⟨more, rfl⟩ | ⟨complete, same, rfl⟩ | rfl⟩ :=
    continueRead_cases continued
  · trivial
  · rw [place] at holds
    exact holds
  · rw [place] at holds
    exact ⟨holds, Nat.zero_le n, stable_begin even (starts index left place even holds) system.out⟩
  · rw [place] at holds
    obtain ⟨isKnown, _, copy⟩ := holds
    exact ⟨isKnown, more, copy.copyWord⟩
  · rw [place] at holds
    obtain ⟨_, bounded, copy⟩ := holds
    obtain rfl := Nat.le_antisymm bounded complete
    exact copy.result same
  · rw [place] at holds
    exact holds.1

/-- A read of the loop does not touch the segment or the publisher. -/
theorem continueRead_frame {system after : System n Word} (continued : continueRead system = some after) :
    after.generation = system.generation ∧ after.body = system.body ∧
      after.writer = system.writer ∧ after.publishIndex = system.publishIndex ∧
      after.published = system.published := by
  obtain ⟨_, _, rfl⟩ | ⟨_, _, _, rfl | ⟨_, rfl⟩⟩ | ⟨_, _, _, _, _, ⟨_, rfl⟩ | ⟨_, _, rfl⟩ | rfl⟩ :=
    continueRead_cases continued
  all_goals exact ⟨rfl, rfl, rfl, rfl, rfl⟩

end PairDriver.FrameRing
