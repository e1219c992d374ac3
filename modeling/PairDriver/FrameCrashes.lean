/-
This file is about the ring of face frames when the module host dies. The
publisher can be killed between any two of its writes, and a new one starts over
the same segment with a counter of its own.

The publisher takes the generation it finds for even. A publisher that died
between the two generations of a slot leaves an odd one, and from then on odd and
even are exchanged for that slot: its body is offered while it is written, and
refused once it is complete. If no publisher dies there, everything is as the
lock promises; `latest_frame_untorn` says so.
-/

import PairDriver.FrameRing

namespace PairDriver.FrameRing

open Seqlock

variable {n : Nat} {Word : Type}

/-! ### The machine -/

/-- The writes of the publisher, the reads of `TryReadLatestWire`, and the death and the start of
the host. -/
inductive CrashEvent (n : Nat) (Word : Type) where
  | publish (frame : Fin n → Word)
  | write
  | readLatest (maxRetries : Nat)
  | read
  | kill
  | start

def crashStep (system : System n Word) : CrashEvent n Word → Option (System n Word)
  | .publish frame => beginPublish .frameWriter frame system
  | .write => continuePublish system
  | .readLatest maxRetries => beginReadLatest maxRetries system
  | .read => continueRead system
  | .kill => some { system with writer := .dead }
  | .start =>
    match system.writer with
    | .dead => some { system with writer := .idle, localPublishIndex := 0 }
    | _ => none

def isWriting : Writer n Word → Bool
  | .writing _ _ _ _ => true
  | _ => false

/-- The condition on a step: no publisher is killed between the two generations of a slot. -/
def KilledOutside (system : System n Word) : CrashEvent n Word → Prop
  | .kill => isWriting system.writer = false
  | _ => True

instance (system : System n Word) : (event : CrashEvent n Word) → Decidable (KilledOutside system event)
  | .kill => inferInstanceAs (Decidable (_ = _))
  | .publish _ | .write | .readLatest _ | .read | .start => inferInstanceAs (Decidable True)

/-! ### The invariant -/

/-- A slot that was written and is not being written holds a frame that was written completely, and
the index leads to such a slot. -/
structure Intact (system : System n Word) : Prop where
  bracketed : Bracketed system
  held : ∀ slot, ¬WritesTo system.writer slot → system.generation slot ≠ 0 →
    system.body slot ∈ system.published
  announcing : ∀ next, system.writer = .announcing next → system.generation (slotOf next) ≠ 0
  index : system.publishIndex ≠ 0 → system.generation (slotOf system.publishIndex) ≠ 0
  reader : ReaderHolds (fun _ body => body ∈ system.published)
    (fun index => system.generation (slotOf index) ≠ 0) system

theorem intact_initial (zero : Word) : Intact (initial zero : System n Word) := by
  refine ⟨bracketed_initial zero, ?_, ?_, ?_, trivial⟩
  · intro slot _ written
    exact absurd rfl written
  · intro next place
    cases place
  · intro published
    exact absurd rfl published

theorem update_ne_zero {generation : Nat → Nat} {slot value other : Nat} (positive : value ≠ 0)
    (written : generation other ≠ 0) : Function.update generation slot value other ≠ 0 := by
  by_cases same : other = slot
  · rw [same, Function.update_self]
    exact positive
  · rw [Function.update_of_ne same]
    exact written

theorem Intact.publish {frame : Fin n → Word} {system after : System n Word}
    (intact : Intact system) (begun : beginPublish .frameWriter frame system = some after) :
    Intact after := by
  have bracketed := intact.bracketed.beginPublish begun
  have copies := fun property index seen copied =>
    fun holds : CopyHolds property system index seen copied => holds.beginPublish begun
  obtain ⟨idle, next, _, writer_eq, generation_eq, index_eq, body_eq, reader_eq, out_eq, published_eq⟩ :=
    beginPublish_eq begun
  have nonzero : ∀ slot, system.generation slot ≠ 0 → after.generation slot ≠ 0 := by
    intro slot written
    rw [generation_eq]
    exact update_ne_zero (Nat.succ_ne_zero _) written
  refine ⟨bracketed, ?_, ?_, ?_, ?_⟩
  · intro slot other written
    rw [writer_eq] at other
    have different : slot ≠ slotOf next := fun same => other same.symm
    rw [generation_eq, Function.update_of_ne different] at written
    rw [body_eq, published_eq]
    refine intact.held slot ?_ written
    rw [idle]
    exact id
  · intro next' place
    rw [writer_eq] at place
    cases place
  · rw [index_eq]
    exact fun published => nonzero _ (intact.index published)
  · refine intact.reader.publish reader_eq out_eq ?_ (fun index => nonzero (slotOf index)) copies
    intro _ body member
    rw [published_eq]
    exact member

theorem Intact.write {system after : System n Word} (intact : Intact system)
    (continued : continuePublish system = some after) : Intact after := by
  have bracketed := intact.bracketed.continuePublish continued
  have copies := fun property index seen copied =>
    fun holds : CopyHolds property system index seen copied =>
      holds.continuePublish intact.bracketed continued
  obtain ⟨next, previous, frame, written, place, ⟨more, rfl⟩ | ⟨complete, rfl⟩⟩ | ⟨next, place, rfl⟩ :=
    continuePublish_cases continued
  · refine ⟨bracketed, ?_, ?_, intact.index, ?_⟩
    · intro slot other nonzero
      have different : slot ≠ slotOf next := fun same => other same.symm
      simp only [Function.update_of_ne different]
      refine intact.held slot ?_ nonzero
      rw [place]
      exact other
    · intro next' place'
      cases place'
    · exact intact.reader.publish rfl rfl (fun _ _ member => member) (fun _ nonzero => nonzero) copies
  · have nonzero : ∀ slot, system.generation slot ≠ 0 →
        Function.update system.generation (slotOf next) (previous + 2) slot ≠ 0 :=
      fun slot => update_ne_zero (Nat.succ_ne_zero _)
    refine ⟨bracketed, ?_, ?_, fun published => nonzero _ (intact.index published), ?_⟩
    · intro slot _ written
      by_cases same : slot = slotOf next
      · subst same
        rw [intact.bracketed.frame_eq place complete]
        exact List.mem_append_right _ (List.mem_singleton_self frame)
      · simp only [Function.update_of_ne same] at written
        refine List.mem_append_left _ (intact.held slot ?_ written)
        rw [place]
        exact fun writes => same writes.symm
    · intro next' place'
      cases place'
      simp only [Function.update_self]
      exact Nat.succ_ne_zero _
    · exact intact.reader.publish rfl rfl (fun _ _ member => List.mem_append_left _ member)
        (fun index => nonzero (slotOf index)) copies
  · refine ⟨bracketed, ?_, ?_, fun _ => intact.announcing next place, ?_⟩
    · intro slot _ written
      refine intact.held slot ?_ written
      rw [place]
      exact id
    · intro next' place'
      cases place'
    · exact intact.reader.publish rfl rfl (fun _ _ member => member) (fun _ nonzero => nonzero) copies

theorem Intact.read {system after : System n Word} (intact : Intact system)
    (continued : continueRead system = some after) : Intact after := by
  have reader := intact.reader.continueRead continued ?_
  · obtain ⟨generation_eq, body_eq, writer_eq, index_eq, published_eq⟩ := continueRead_frame continued
    refine ⟨intact.bracketed.congr generation_eq body_eq writer_eq, ?_, ?_, ?_, ?_⟩
    · rw [generation_eq, body_eq, writer_eq, published_eq]
      exact intact.held
    · rw [generation_eq, writer_eq]
      exact intact.announcing
    · rw [generation_eq, index_eq]
      exact intact.index
    · rw [generation_eq, published_eq]
      exact reader
  · intro index left _ even nonzero
    exact intact.held (slotOf index) (intact.bracketed.not_writesTo_of_even even) nonzero

/-- A publisher that is not between two generations is replaced by another such. -/
theorem Intact.replace {system after : System n Word} (intact : Intact system)
    (outside : isWriting system.writer = false) (replaced : isWriting after.writer = false)
    (ended : ∀ next, after.writer ≠ .announcing next)
    (same : after = { system with
      writer := after.writer
      localPublishIndex := after.localPublishIndex }) : Intact after := by
  have free : ∀ writer : Writer n Word, isWriting writer = false → ∀ slot, ¬WritesTo writer slot := by
    intro writer idle slot
    cases writer with
    | writing next previous frame written => cases idle
    | _ => exact id
  rw [same]
  refine ⟨⟨?_, ?_⟩, ?_, ?_, intact.index, intact.reader⟩
  · exact fun slot _ => intact.bracketed.even slot (free _ outside slot)
  · intro next previous frame written place
    simp only at place
    rw [place] at replaced
    cases replaced
  · exact fun slot _ => intact.held slot (free _ outside slot)
  · exact fun next place => absurd place (ended next)

theorem intact_step {system after : System n Word} {event : CrashEvent n Word}
    (intact : Intact system) (met : KilledOutside system event)
    (stepped : crashStep system event = some after) : Intact after := by
  cases event with
  | publish frame => exact intact.publish stepped
  | write => exact intact.write stepped
  | read => exact intact.read stepped
  | readLatest maxRetries =>
    rw [beginReadLatest_eq stepped]
    refine ⟨intact.bracketed.congr rfl rfl rfl, intact.held, intact.announcing, intact.index, ?_⟩
    unfold ReaderHolds
    by_cases unpublished : system.publishIndex = 0
    · simp only [unpublished, if_true]
    · simp only [unpublished, if_false]
      exact intact.index unpublished
  | kill =>
    rw [← Option.some.inj stepped]
    exact intact.replace met rfl (fun _ place => by cases place) rfl
  | start =>
    simp only [crashStep] at stepped
    split at stepped
    · rename_i dead
      rw [← Option.some.inj stepped]
      refine intact.replace ?_ rfl (fun _ place => by cases place) rfl
      rw [dead]
      rfl
    · cases stepped

/-! ### A slot can be read -/

/-- A read of this index by a reader that nobody disturbs returns true, with the body of the slot. -/
def ReadableAlone (system : System n Word) (index : Nat) : Prop :=
  ∃ after, run crashStep { system with reader := .attempt index 1 } (List.replicate (n + 2) .read) =
      some after ∧
    after.reader = .returned (some index) ∧ after.out = system.body (slotOf index)

theorem copies_alone (remaining : Nat) (system : System n Word) {index left copied : Nat}
    (place : system.reader = .copying index left (system.generation (slotOf index)) copied)
    (agrees : AgreesUpTo copied (system.body (slotOf index)) system.out)
    (rest : copied + remaining = n) :
    ∃ after, run crashStep system (List.replicate (remaining + 1) .read) = some after ∧
      after.reader = .returned (some index) ∧ after.out = system.body (slotOf index) := by
  induction remaining generalizing system copied with
  | zero =>
    obtain rfl : copied = n := rest
    refine ⟨{ system with reader := .returned (some index) }, ?_, rfl, agrees.eq⟩
    simp [run, crashStep, continueRead, place]
  | succ remaining inductionHypothesis =>
    have more : copied < n := by omega
    obtain ⟨after, ran, returned, copied_eq⟩ := inductionHypothesis
      { system with
        out := copyWord (system.body (slotOf index)) system.out copied
        reader := .copying index left (system.generation (slotOf index)) (copied + 1) }
      rfl agrees.copyWord (by omega)
    refine ⟨after, ?_, returned, copied_eq⟩
    rw [List.replicate_succ, run]
    simp only [crashStep, continueRead, place, if_pos more, Option.bind_some]
    exact ran

theorem readableAlone_of_even {system : System n Word} {index : Nat}
    (even : Even (system.generation (slotOf index))) : ReadableAlone system index := by
  obtain ⟨after, ran, returned, copied_eq⟩ := copies_alone n
    { system with reader := .copying index 0 (system.generation (slotOf index)) 0 }
    rfl (agreesUpTo_zero _ _) (Nat.zero_add n)
  refine ⟨after, ?_, returned, copied_eq⟩
  have notOdd : ¬system.generation (slotOf index) % 2 = 1 := by
    rw [Nat.even_iff.mp even]
    exact Nat.zero_ne_one
  rw [List.replicate_succ, run]
  simp only [crashStep, continueRead, if_neg notOdd, Option.bind_some]
  exact ran

/-! ### The result -/

/-- The latest frame is not torn. In every state reached with no publisher killed between the two
generations of a slot, what a read that returned true has copied was written completely by one
publish, and every slot that is not being written can be read. -/
theorem latest_frame_untorn {zero : Word} {system : System n Word}
    (reached : Reaches crashStep KilledOutside (initial zero) system) :
    (∀ index, system.reader = .returned (some index) → system.out ∈ system.published) ∧
    (∀ index, ¬WritesTo system.writer (slotOf index) → ReadableAlone system index) := by
  have intact : Intact system :=
    reached.invariant (intact_initial zero) fun _ _ _ intact met stepped =>
      intact_step intact met stepped
  constructor
  · intro index returned
    have reader := intact.reader
    unfold ReaderHolds at reader
    rw [returned] at reader
    exact reader
  · intro index idle
    exact readableAlone_of_even (intact.bracketed.even _ idle)

/-- A frame of two words with one value. -/
def plain (value : Nat) : Fin 2 → Nat := fun _ => value

/-- A whole publish of a frame of two words. -/
def publishPlain (value : Nat) : List (CrashEvent 2 Nat) :=
  [.publish (plain value), .write, .write, .write, .write]

/-- A publisher that has announced its frame dies, the next one publishes, and the frame is read. -/
def restartedHost : List (CrashEvent 2 Nat) :=
  publishPlain 1 ++ [CrashEvent.kill, .start] ++ publishPlain 2 ++
    [CrashEvent.readLatest 8, .read, .read, .read, .read]

theorem latest_frame_untorn_restarted : ∃ system : System 2 Nat,
    Reaches crashStep KilledOutside (initial 0) system ∧
    system.reader = .returned (some 1) ∧ system.out ∈ system.published := by
  obtain ⟨system, reached, returned⟩ : ∃ system : System 2 Nat,
      Reaches crashStep KilledOutside (initial 0) system ∧ system.reader = .returned (some 1) :=
    reaches_evaluates restartedHost (by decide +kernel)
  exact ⟨system, reached, returned, (latest_frame_untorn reached).1 1 returned⟩

/-! ### A publisher killed between the generations -/

/-- After a complete frame, a publisher dies with one word of its frame written, and the next one has
come as far. -/
def killedInside : List (CrashEvent 2 Nat) :=
  publishPlain 1 ++ [CrashEvent.kill, .start, .publish (plain 2), .write, .kill, .start,
    .publish (plain 3), .write]

/-- The frame is completed, and another publisher completes one in the same slot. -/
def completedTwice : List (CrashEvent 2 Nat) :=
  killedInside ++ [CrashEvent.write, .write, .write, .kill, .start] ++ publishPlain 4

/-- A read during the second attempt returns true with one word of each of two frames, and after two
complete publishes to the slot every attempt to read it is refused. -/
theorem killed_inside_tears_slot :
    (∃ system : System 2 Nat, run crashStep (initial 0)
        (killedInside ++ [CrashEvent.readLatest 8, .read, .read, .read, .read]) = some system ∧
      system.reader = .returned (some 1) ∧ system.out ∉ system.published) ∧
    (∃ system : System 2 Nat, run crashStep (initial 0)
        (completedTwice ++ CrashEvent.readLatest 8 :: List.replicate 9 .read) = some system ∧
      isWriting system.writer = false ∧ system.reader = .returned none) :=
  ⟨run_evaluates (by decide +kernel), run_evaluates (by decide +kernel)⟩

end PairDriver.FrameRing
