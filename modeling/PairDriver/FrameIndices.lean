/-
This file is about the indices of face frames.

The first part is `TryReadWireByIndex`: it checks that the index is still in the
ring and then reads a slot whose generation says only that it is stable, not whose
frame it holds. A publisher that completes the frame a ring later before the slot
is looked at makes it return that one; `indexed_frame_exact` is what holds when it
does not.

The second part compares the two publishers over whole runs. `FrameWriter` counts
from one in every process, `Publish` goes on from the index in shared memory, and
the driver's worker takes an index it has already seen for no new frame.
`frameWriter_simulates_iff` says that the two agree exactly when one host process
makes all the publishes.
-/

import PairDriver.FrameCrashes

namespace PairDriver.FrameRing

open Seqlock

variable {n : Nat} {Word : Type}

/-! ### Reads by index -/

/-- The writes of `Publish` and the reads of `TryReadWireByIndex`. -/
inductive LapEvent (n : Nat) (Word : Type) where
  | publish (frame : Fin n → Word)
  | write
  | readByIndex (target maxRetries : Nat)
  | read

def lapStep (system : System n Word) : LapEvent n Word → Option (System n Word)
  | .publish frame => beginPublish .shmem frame system
  | .write => continuePublish system
  | .readByIndex target maxRetries => beginReadByIndex target maxRetries system
  | .read => continueRead system

/-- The condition on a step: when an attempt finds an even generation, the publisher has not yet
completed the frame a ring after the one asked for. -/
def NotLapped (system : System n Word) : LapEvent n Word → Prop
  | .read => match system.reader with
    | .attempt index (_ + 1) => system.generation (slotOf index) % 2 = 0 →
      system.published.length < index + ringSize
    | _ => True
  | _ => True

instance (system : System n Word) : (event : LapEvent n Word) → Decidable (NotLapped system event)
  | .read => match place : system.reader with
    | .attempt index (left + 1) => decidable_of_iff
        (system.generation (slotOf index) % 2 = 0 → system.published.length < index + ringSize)
        (by simp only [NotLapped, place])
    | .attempt _ 0 | .idle | .copying _ _ _ _ | .returned _ =>
      decidable_of_iff True (by simp only [NotLapped, place])
  | .publish _ | .write | .readByIndex _ _ => inferInstanceAs (Decidable True)

/-- The publish index counts the frames, and the last ring's worth of them are in their slots. -/
structure Numbered (system : System n Word) : Prop where
  bracketed : Bracketed system
  index_le : system.publishIndex ≤ system.published.length
  idle : system.writer = .idle → system.publishIndex = system.published.length
  writing : ∀ next previous frame written,
    system.writer = .writing next previous frame written →
      next = system.published.length + 1 ∧ system.publishIndex = system.published.length
  announcing : ∀ next, system.writer = .announcing next → next = system.published.length
  held : ∀ index, 0 < index → index ≤ system.published.length →
    system.published.length < index + ringSize → ¬WritesTo system.writer (slotOf index) →
    system.published[index - 1]? = some (system.body (slotOf index))
  reader : ReaderHolds (fun index body => system.published[index - 1]? = some body)
    (fun index => 0 < index ∧ index ≤ system.published.length) system

theorem numbered_initial (zero : Word) : Numbered (initial zero : System n Word) := by
  refine ⟨bracketed_initial zero, Nat.le_refl 0, fun _ => rfl, ?_, ?_, ?_, trivial⟩
  · intro next previous frame written place
    cases place
  · intro next place
    cases place
  · intro index positive bounded
    exact absurd bounded (Nat.not_le_of_lt positive)

/-- Two frames less than a ring apart are in different slots. -/
theorem slotOf_ne {first second : Nat} (positive : 0 < first) (before : first < second)
    (near : second < first + ringSize) : slotOf first ≠ slotOf second := by
  unfold slotOf ringSize at *
  omega

theorem Numbered.publish {frame : Fin n → Word} {system after : System n Word}
    (numbered : Numbered system) (begun : beginPublish .shmem frame system = some after) :
    Numbered after := by
  have bracketed := numbered.bracketed.beginPublish begun
  have copies := fun property index seen copied =>
    fun holds : CopyHolds property system index seen copied => holds.beginPublish begun
  obtain ⟨idle, next, next_eq, writer_eq, _, index_eq, body_eq, reader_eq, out_eq, published_eq⟩ :=
    beginPublish_eq begun
  have counted := numbered.idle idle
  refine ⟨bracketed, ?_, ?_, ?_, ?_, ?_, ?_⟩
  · rw [index_eq, published_eq]
    exact numbered.index_le
  · intro place
    rw [writer_eq] at place
    cases place
  · intro next' previous' frame' written' place
    rw [writer_eq] at place
    cases place
    rw [published_eq, index_eq, next_eq]
    exact ⟨congrArg (· + 1) counted, counted⟩
  · intro next' place
    rw [writer_eq] at place
    cases place
  · rw [published_eq, body_eq]
    intro index positive bounded near _
    refine numbered.held index positive bounded near ?_
    rw [idle]
    exact id
  · rw [published_eq]
    exact numbered.reader.publish reader_eq out_eq (fun _ _ same => same) (fun _ known => known) copies

theorem Numbered.write {system after : System n Word} (numbered : Numbered system)
    (continued : continuePublish system = some after) : Numbered after := by
  have bracketed := numbered.bracketed.continuePublish continued
  have copies := fun property index seen copied =>
    fun holds : CopyHolds property system index seen copied =>
      holds.continuePublish numbered.bracketed continued
  obtain ⟨next, previous, frame, written, place, ⟨more, rfl⟩ | ⟨complete, rfl⟩⟩ | ⟨next, place, rfl⟩ :=
    continuePublish_cases continued
  · refine ⟨bracketed, numbered.index_le, ?_, ?_, ?_, ?_, ?_⟩
    · intro place'
      cases place'
    · intro next' previous' frame' written' place'
      cases place'
      exact numbered.writing next previous frame written place
    · intro next' place'
      cases place'
    · intro index positive bounded near other
      have different : slotOf index ≠ slotOf next := fun same => other same.symm
      simp only [Function.update_of_ne different]
      refine numbered.held index positive bounded near ?_
      rw [place]
      exact other
    · exact numbered.reader.publish rfl rfl (fun _ _ same => same) (fun _ known => known) copies
  · obtain ⟨next_eq, counted⟩ := numbered.writing next previous frame written place
    have grown : (system.published ++ [frame]).length = system.published.length + 1 := by
      rw [List.length_append, List.length_singleton]
    refine ⟨bracketed, ?_, ?_, ?_, ?_, ?_, ?_⟩
    · simp only [grown]
      exact Nat.le_succ_of_le numbered.index_le
    · intro place'
      cases place'
    · intro next' previous' frame' written' place'
      cases place'
    · intro next' place'
      cases place'
      rw [next_eq, grown]
    · intro index positive bounded near _
      simp only [grown] at bounded near ⊢
      by_cases last : index = system.published.length + 1
      · rw [last, Nat.add_sub_cancel, ← next_eq, numbered.bracketed.frame_eq place complete]
        exact List.getElem?_concat_length
      · have earlier : index < next := by omega
        have different := slotOf_ne positive earlier (by omega)
        rw [List.getElem?_append_left (by omega)]
        refine numbered.held index positive (by omega) (by omega) ?_
        rw [place]
        exact fun writes => different writes.symm
    · refine numbered.reader.publish rfl rfl ?_ ?_ copies
      · intro index body same
        have inside : index - 1 < system.published.length := (List.getElem?_eq_some_iff.mp same).1
        simp only [List.getElem?_append_left inside]
        exact same
      · intro index known
        exact ⟨known.1, known.2.trans (grown ▸ Nat.le_succ _)⟩
  · have next_eq := numbered.announcing next place
    refine ⟨bracketed, next_eq.le, fun _ => next_eq, ?_, ?_, ?_, ?_⟩
    · intro next' previous' frame' written' place'
      cases place'
    · intro next' place'
      cases place'
    · intro index positive bounded near _
      refine numbered.held index positive bounded near ?_
      rw [place]
      exact id
    · exact numbered.reader.publish rfl rfl (fun _ _ same => same) (fun _ known => known) copies

theorem Numbered.read {system after : System n Word} (numbered : Numbered system)
    (met : NotLapped system .read) (continued : continueRead system = some after) :
    Numbered after := by
  have reader := numbered.reader.continueRead continued ?_
  · obtain ⟨generation_eq, body_eq, writer_eq, index_eq, published_eq⟩ := continueRead_frame continued
    refine ⟨numbered.bracketed.congr generation_eq body_eq writer_eq, ?_, ?_, ?_, ?_, ?_, ?_⟩
    · rw [index_eq, published_eq]
      exact numbered.index_le
    · rw [writer_eq, index_eq, published_eq]
      exact numbered.idle
    · rw [writer_eq, index_eq, published_eq]
      exact numbered.writing
    · rw [writer_eq, published_eq]
      exact numbered.announcing
    · rw [writer_eq, body_eq, published_eq]
      exact numbered.held
    · rw [published_eq]
      exact reader
  · intro index left place even known
    simp only [NotLapped, place] at met
    exact numbered.held index known.1 known.2 (met (Nat.even_iff.mp even))
      (numbered.bracketed.not_writesTo_of_even even)

theorem numbered_step {system after : System n Word} {event : LapEvent n Word}
    (numbered : Numbered system) (met : NotLapped system event)
    (stepped : lapStep system event = some after) : Numbered after := by
  cases event with
  | publish frame => exact numbered.publish stepped
  | write => exact numbered.write stepped
  | read => exact numbered.read met stepped
  | readByIndex target maxRetries =>
    rw [beginReadByIndex_eq stepped]
    refine ⟨numbered.bracketed.congr rfl rfl rfl, numbered.index_le, numbered.idle, numbered.writing,
      numbered.announcing, numbered.held, ?_⟩
    unfold ReaderHolds
    by_cases refused : target = 0 ∨ system.publishIndex < target ∨
        ringSize ≤ system.publishIndex - target
    · simp only [refused, if_true]
    · simp only [refused, if_false]
      rw [not_or, not_or] at refused
      exact ⟨Nat.pos_of_ne_zero refused.1,
        (Nat.le_of_not_lt refused.2.1).trans numbered.index_le⟩

/-- Reads by index are exact. In every state reached by steps that meet the condition, a read by index
that returned true has copied the frame of that number. -/
theorem indexed_frame_exact {zero : Word} {system : System n Word}
    (reached : Reaches lapStep NotLapped (initial zero) system) :
    ∀ index, system.reader = .returned (some index) →
      system.published[index - 1]? = some system.out := by
  have numbered : Numbered system :=
    reached.invariant (numbered_initial zero) fun _ _ _ numbered met stepped =>
      numbered_step numbered met stepped
  intro index returned
  have reader := numbered.reader
  unfold ReaderHolds at reader
  rw [returned] at reader
  exact reader

/-- A whole publish of a frame of one word. -/
def publishWord (value : Nat) : List (LapEvent 1 Nat) :=
  [.publish fun _ => value, .write, .write, .write]

/-- Three frames are published, and the second is asked for. -/
def secondOfThree : List (LapEvent 1 Nat) :=
  publishWord 1 ++ publishWord 2 ++ publishWord 3 ++ [LapEvent.readByIndex 2 8, .read, .read, .read]

theorem indexed_frame_exact_second : ∃ system : System 1 Nat,
    Reaches lapStep NotLapped (initial 0) system ∧ system.reader = .returned (some 2) ∧
    system.published[2 - 1]? = some system.out := by
  obtain ⟨system, reached, returned⟩ : ∃ system : System 1 Nat,
      Reaches lapStep NotLapped (initial 0) system ∧ system.reader = .returned (some 2) :=
    reaches_evaluates secondOfThree (by decide +kernel)
  exact ⟨system, reached, returned, indexed_frame_exact reached 2 returned⟩

/-- A ring of frames is published, and one more but for its index; then the first is asked for. -/
def firstAfterRing : List (LapEvent 1 Nat) :=
  (List.range ringSize).flatMap (fun number => publishWord (number + 1)) ++
    [LapEvent.publish fun _ => ringSize + 1, .write, .write, .readByIndex 1 8, .read, .read, .read]

/-- The check lets the index pass, and the read returns true with the frame a ring later. -/
theorem first_after_ring_wrong : ∃ system : System 1 Nat,
    run lapStep (initial 0) firstAfterRing = some system ∧
    system.reader = .returned (some 1) ∧ system.published[1 - 1]? = some (fun _ => 1) ∧
    system.out = fun _ => 1 + ringSize :=
  run_evaluates (by decide +kernel)

/-! ### Indices over host restarts -/

/-- What happens to the index: a publish, a new host process, and a look of the driver's worker. -/
inductive HostOp where
  | publish
  | restart
  | poll
deriving DecidableEq

/-- The index in shared memory and the counter of the host process. -/
structure Counters where
  publishIndex : Nat := 0
  localPublishIndex : Nat := 0
deriving DecidableEq

/-- The index the next publish stores. -/
def Counters.next (publisher : Publisher) (counters : Counters) : Nat :=
  match publisher with
  | .frameWriter => counters.localPublishIndex + 1
  | .shmem => counters.publishIndex + 1

def Counters.step (publisher : Publisher) (counters : Counters) : HostOp → Counters
  | .publish =>
    { publishIndex := counters.next publisher
      localPublishIndex := match publisher with
        | .frameWriter => counters.next publisher
        | .shmem => counters.localPublishIndex }
  | .restart => { counters with localPublishIndex := 0 }
  | .poll => counters

/-! ### The counters are those of the ring -/

/-- The counters of a ring. -/
def System.counters (system : System n Word) : Counters :=
  ⟨system.publishIndex, system.localPublishIndex⟩

/-- The steps of the ring behind a publish of a frame and behind a new host process. -/
def hostEvents (frame : Fin n → Word) : HostOp → List (CrashEvent n Word)
  | .publish => .publish frame :: List.replicate (n + 2) .write
  | .restart => [.kill, .start]
  | .poll => []

theorem writes_run (remaining : Nat) (system : System n Word) {next previous written : Nat}
    {frame : Fin n → Word} (place : system.writer = .writing next previous frame written)
    (rest : written + remaining = n) :
    ∃ after, run crashStep system (List.replicate (remaining + 2) .write) = some after ∧
      after.writer = .idle ∧ after.counters = ⟨next, system.localPublishIndex⟩ := by
  induction remaining generalizing system written with
  | zero =>
    obtain rfl : written = n := rest
    simp [List.replicate_succ, run, crashStep, continuePublish, place, System.counters]
  | succ remaining inductionHypothesis =>
    have more : written < n := by omega
    obtain ⟨after, ran, idle, counted⟩ := inductionHypothesis
      { system with
        body := Function.update system.body (slotOf next)
          (copyWord frame (system.body (slotOf next)) written)
        writer := .writing next previous frame (written + 1) }
      rfl (by omega)
    refine ⟨after, ?_, idle, counted⟩
    rw [List.replicate_succ, run]
    simp only [crashStep, continuePublish, place, if_pos more, Option.bind_some]
    exact ran

theorem hostEvents_run (frame : Fin n → Word) {system : System n Word}
    (idle : system.writer = .idle) (op : HostOp) :
    ∃ after, run crashStep system (hostEvents frame op) = some after ∧ after.writer = .idle ∧
      after.counters = system.counters.step .frameWriter op := by
  cases op with
  | publish =>
    obtain ⟨begun, isBegun⟩ : ∃ begun, beginPublish .frameWriter frame system = some begun := by
      simp [beginPublish, idle]
    obtain ⟨_, next, next_eq, place, _⟩ := beginPublish_eq isBegun
    obtain ⟨after, ran, ended, counted⟩ := writes_run n begun place (Nat.zero_add n)
    refine ⟨after, ?_, ended, ?_⟩
    · rw [hostEvents, run, crashStep, isBegun]
      exact ran
    · have local_eq : begun.localPublishIndex = next := by
        rw [beginPublish, idle] at isBegun
        rw [← Option.some.inj isBegun, next_eq]
      rw [counted, local_eq, next_eq]
      rfl
  | restart => exact ⟨_, rfl, rfl, rfl⟩
  | poll => exact ⟨system, rfl, idle, rfl⟩

/-- Whole publishes and restarts on a ring move its index and the host's counter as the operations on
the counters say. -/
theorem hostOps_refine (frame : Fin n → Word) (ops : List HostOp) {system : System n Word}
    (idle : system.writer = .idle) :
    ∃ after, run crashStep system (ops.flatMap (hostEvents frame)) = some after ∧
      after.counters = ops.foldl (Counters.step .frameWriter) system.counters := by
  induction ops generalizing system with
  | nil => exact ⟨system, rfl, rfl⟩
  | cons op rest inductionHypothesis =>
    obtain ⟨middle, moved, stillIdle, stepped⟩ := hostEvents_run frame idle op
    obtain ⟨after, ran, counted⟩ := inductionHypothesis stillIdle
    refine ⟨after, ?_, ?_⟩
    · rw [List.flatMap_cons, run_append, moved]
      exact ran
    · rw [counted, stepped, List.foldl_cons]

theorem hostOps_refine_restart :
    ∃ after, run crashStep (initial 0 : System 2 Nat)
        ([.publish, .publish, .restart, .publish].flatMap (hostEvents fun _ => 5)) = some after ∧
      after.counters = ⟨1, 1⟩ :=
  hostOps_refine (fun _ => 5) [.publish, .publish, .restart, .publish] rfl

/-! ### The two publishers -/

/-- The values of the publish index a run stores, in order. -/
def storedIndices (publisher : Publisher) : Counters → List HostOp → List Nat
  | _, [] => []
  | counters, op :: rest =>
    (if op = .publish then [counters.next publisher] else []) ++
      storedIndices publisher (counters.step publisher op) rest

/-- Whether the worker of `WorkerLoop` finds the index it consumed last, although a frame was published
since. `unseen` tells that there is such a frame. -/
def skipsFrame (publisher : Publisher) : Counters → Nat → Bool → List HostOp → Bool
  | _, _, _, [] => false
  | counters, last, unseen, .poll :: rest =>
    if counters.publishIndex = last then unseen || skipsFrame publisher counters last unseen rest
    else skipsFrame publisher counters counters.publishIndex false rest
  | counters, last, _, .publish :: rest =>
    skipsFrame publisher (counters.step publisher .publish) last true rest
  | counters, last, unseen, .restart :: rest =>
    skipsFrame publisher (counters.step publisher .restart) last unseen rest

/-- `FrameWriter` stores the indices `Publish` would store, they increase, and the worker skips no
frame. -/
def Simulates (ops : List HostOp) : Prop :=
  storedIndices .frameWriter {} ops = storedIndices .shmem {} ops ∧
    (storedIndices .frameWriter {} ops).Pairwise (· < ·) ∧
    skipsFrame .frameWriter {} 0 false ops = false

/-- All publishes are made by one host process: none follows a restart that follows one. -/
def OnePublisher (published : Bool) : List HostOp → Prop
  | [] => True
  | .publish :: rest => OnePublisher true rest
  | .poll :: rest => OnePublisher published rest
  | .restart :: rest => if published then .publish ∉ rest else OnePublisher published rest

/-- `Publish` counts on from the index in shared memory. -/
theorem storedIndices_shmem (counters : Counters) (ops : List HostOp) :
    storedIndices .shmem counters ops =
      List.range' (counters.publishIndex + 1) (ops.count .publish) := by
  induction ops generalizing counters with
  | nil => rfl
  | cons op rest inductionHypothesis =>
    rw [storedIndices, inductionHypothesis]
    cases op with
    | publish =>
      rw [List.count_cons_self, List.range'_succ]
      rfl
    | restart =>
      rw [List.count_cons_of_ne HostOp.noConfusion]
      rfl
    | poll =>
      rw [List.count_cons_of_ne HostOp.noConfusion]
      rfl

/-- A new process stores one first. -/
theorem storedIndices_restarted (counters : Counters) {ops : List HostOp}
    (fresh : counters.localPublishIndex = 0) (member : .publish ∈ ops) :
    (storedIndices .frameWriter counters ops).head? = some 1 := by
  induction ops generalizing counters with
  | nil => cases member
  | cons op rest inductionHypothesis =>
    cases op with
    | publish =>
      simp [storedIndices, Counters.next, fresh]
    | restart =>
      have later : HostOp.publish ∈ rest := by simpa using member
      simpa [storedIndices] using inductionHypothesis (counters.step .frameWriter .restart) rfl later
    | poll =>
      have later : HostOp.publish ∈ rest := by simpa using member
      simpa [storedIndices, Counters.step] using inductionHypothesis counters fresh later

theorem storedIndices_of_not_mem {publisher : Publisher} {counters : Counters} {ops : List HostOp}
    (absent : .publish ∉ ops) : storedIndices publisher counters ops = [] := by
  induction ops generalizing counters with
  | nil => rfl
  | cons op rest inductionHypothesis =>
    rw [List.mem_cons, not_or] at absent
    rw [storedIndices, if_neg (Ne.symm absent.1), List.nil_append]
    exact inductionHypothesis absent.2

theorem next_frameWriter_of_synced {counters : Counters}
    (synced : counters.localPublishIndex = counters.publishIndex) :
    counters.next .frameWriter = counters.publishIndex + 1 :=
  congrArg (· + 1) synced

/-- As long as the process has counted all the publishes, it goes on to count them exactly if no
other process publishes later. -/
theorem storedIndices_frameWriter_iff (counters : Counters) (ops : List HostOp)
    (synced : counters.localPublishIndex = counters.publishIndex) :
    storedIndices .frameWriter counters ops =
        List.range' (counters.publishIndex + 1) (ops.count .publish) ↔
      OnePublisher (decide (0 < counters.publishIndex)) ops := by
  induction ops generalizing counters with
  | nil => exact ⟨fun _ => trivial, fun _ => rfl⟩
  | cons op rest inductionHypothesis =>
    cases op with
    | publish =>
      have next_eq := next_frameWriter_of_synced synced
      have later := inductionHypothesis (counters.step .frameWriter .publish) rfl
      rw [storedIndices, List.count_cons_self, List.range'_succ, if_pos rfl, next_eq,
        List.singleton_append, List.cons.injEq, and_iff_right rfl]
      simp only [Counters.step, next_eq, Nat.zero_lt_succ, decide_true] at later ⊢
      exact later
    | poll =>
      rw [storedIndices, List.count_cons_of_ne HostOp.noConfusion]
      exact inductionHypothesis counters synced
    | restart =>
      rw [storedIndices, List.count_cons_of_ne HostOp.noConfusion, if_neg HostOp.noConfusion,
        List.nil_append, OnePublisher]
      by_cases published : 0 < counters.publishIndex
      · simp only [published, decide_true, if_true]
        constructor
        · intro same member
          have first := storedIndices_restarted (counters.step .frameWriter .restart) rfl member
          rw [same, List.head?_range', if_neg (List.count_pos_iff.mpr member).ne'] at first
          exact absurd (Option.some.inj first) (Nat.succ_lt_succ published).ne'
        · intro absent
          rw [storedIndices_of_not_mem absent, List.count_eq_zero.mpr absent]
          rfl
      · simp only [published, decide_false, Bool.false_eq_true, if_false]
        have zero := Nat.eq_zero_of_not_pos published
        have later := inductionHypothesis (counters.step .frameWriter .restart) zero.symm
        simpa only [Counters.step, published, decide_false] using later

/-- A worker that is behind with what it has not seen takes it at its next poll. -/
theorem skipsFrame_poll {counters : Counters} {last : Nat} {unseen : Bool} {rest : List HostOp}
    (behind : unseen = true → last < counters.publishIndex) :
    skipsFrame .frameWriter counters last unseen (.poll :: rest) =
      skipsFrame .frameWriter counters counters.publishIndex false rest := by
  rw [skipsFrame]
  split
  · rename_i same
    have seen : unseen = false :=
      Bool.eq_false_iff.mpr fun isUnseen => (behind isUnseen).ne' same
    rw [seen, Bool.false_or, same]
  · rfl

/-- Where nothing is published any more, the worker skips nothing that it is not behind with. -/
theorem skipsFrame_of_not_mem {counters : Counters} {last : Nat} {unseen : Bool} {ops : List HostOp}
    (absent : .publish ∉ ops) (behind : unseen = true → last < counters.publishIndex) :
    skipsFrame .frameWriter counters last unseen ops = false := by
  induction ops generalizing counters last unseen with
  | nil => rfl
  | cons op rest inductionHypothesis =>
    rw [List.mem_cons, not_or] at absent
    cases op with
    | publish => exact absurd rfl absent.1
    | restart => exact inductionHypothesis absent.2 behind
    | poll =>
      rw [skipsFrame_poll behind]
      exact inductionHypothesis absent.2 (fun isUnseen => Bool.noConfusion isUnseen)

/-- One process that publishes leaves the worker nothing to skip. -/
theorem skipsFrame_of_onePublisher {counters : Counters} {last : Nat} {unseen : Bool}
    {ops : List HostOp} (synced : counters.localPublishIndex = counters.publishIndex)
    (one : OnePublisher (decide (0 < counters.publishIndex)) ops)
    (bounded : last ≤ counters.publishIndex)
    (behind : unseen = true → last < counters.publishIndex) :
    skipsFrame .frameWriter counters last unseen ops = false := by
  induction ops generalizing counters last unseen with
  | nil => rfl
  | cons op rest inductionHypothesis =>
    cases op with
    | publish =>
      have next_eq := next_frameWriter_of_synced synced
      have later : last < (counters.step .frameWriter .publish).publishIndex := by
        simp only [Counters.step, next_eq]
        exact Nat.lt_succ_of_le bounded
      refine inductionHypothesis rfl ?_ later.le (fun _ => later)
      simpa only [Counters.step, next_eq, Nat.zero_lt_succ, decide_true, OnePublisher] using one
    | restart =>
      rw [OnePublisher] at one
      by_cases published : 0 < counters.publishIndex
      · simp only [published, decide_true, if_true] at one
        rw [skipsFrame]
        exact skipsFrame_of_not_mem one behind
      · simp only [published, decide_false, Bool.false_eq_true, if_false] at one
        refine inductionHypothesis (Nat.eq_zero_of_not_pos published).symm ?_ bounded behind
        simpa only [Counters.step, published, decide_false] using one
    | poll =>
      rw [skipsFrame_poll behind]
      exact inductionHypothesis synced one (Nat.le_refl _) (fun isUnseen => Bool.noConfusion isUnseen)

/-- `FrameWriter` simulates `Publish` over a run exactly if one host process makes all its
publishes. -/
theorem frameWriter_simulates_iff (ops : List HostOp) : Simulates ops ↔ OnePublisher false ops := by
  have counts := storedIndices_frameWriter_iff {} ops rfl
  rw [Simulates, storedIndices_shmem]
  constructor
  · intro simulates
    exact counts.mp simulates.1
  · intro one
    have same := counts.mpr one
    refine ⟨same, ?_, skipsFrame_of_onePublisher rfl one (Nat.le_refl 0) ?_⟩
    · rw [same]
      exact List.pairwise_lt_range'
    · exact fun isUnseen => Bool.noConfusion isUnseen

/-- The worker has consumed the first frame of a host; the next host stores the same index. -/
theorem restarted_host_not_simulated :
    storedIndices .frameWriter {} [.publish, .poll, .restart, .publish, .poll] = [1, 1] ∧
    skipsFrame .frameWriter {} 0 false [.publish, .poll, .restart, .publish, .poll] = true ∧
    ¬Simulates [.publish, .poll, .restart, .publish, .poll] := by
  refine ⟨by decide, by decide, ?_⟩
  intro simulates
  exact absurd simulates.1 (by decide)

end PairDriver.FrameRing
