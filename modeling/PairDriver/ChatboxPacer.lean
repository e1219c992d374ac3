/-
This file follows the pacer of the captions host through its runs: a queue of at most eight
entries that drops its oldest to take a new one, and a clock that lets an entry go only when
the gap since the last one has passed. The gap is any, and so is the conversion of a
difference of times to seconds, as long as it keeps their order.

What is enqueued is numbered by its place, and the deliveries of a run are accounted for by
the places they come from. The places ascend, so nothing is delivered twice or out of order,
and a place that is neither delivered nor still in the queue was the oldest of a full queue
when something else was enqueued.
-/

import PairDriver.CaptionsHost

namespace PairDriver.Captions.Pacing

/-! ### Calls -/

/-- A call of the pacer; `Dequeue` reads the clock. -/
inductive Call where
  | enqueue (entry : Entry)
  | dequeue (now : Rat)

/-- An entry that was handed out, with the time of the call. -/
structure Delivery where
  entry : Entry
  time : Rat
deriving DecidableEq

/-- The entries of a run, each at its place. -/
def enqueued (calls : List Call) : List Entry :=
  calls.filterMap fun
    | .enqueue entry => some entry
    | .dequeue _ => none

/-- The times at which a run reads the clock. -/
def readings (calls : List Call) : List Rat :=
  calls.filterMap fun
    | .enqueue _ => none
    | .dequeue now => some now

section Pacing

variable {Seconds : Type} [LinearOrder Seconds] (seconds : Rat → Seconds) (gap : Seconds)

/-- `Dequeue` of a pacer with a given gap. -/
def dequeue (pacer : ChatboxPacer) (now : Rat) : Option (Entry × ChatboxPacer) :=
  match pacer.queue with
  | [] => none
  | front :: rest =>
    if pacer.lastSend.any fun last => seconds (now - last) < gap then none
    else some (front, { queue := rest, lastSend := some now })

def step (pacer : ChatboxPacer) : Call → ChatboxPacer
  | .enqueue entry => pacer.enqueue entry
  | .dequeue now => ((dequeue seconds gap pacer now).map Prod.snd).getD pacer

/-- What a call hands out. -/
def handsOut (pacer : ChatboxPacer) : Call → Option Delivery
  | .enqueue _ => none
  | .dequeue now => (dequeue seconds gap pacer now).map fun taken => ⟨taken.1, now⟩

/-- The pacer after a run. -/
def run (calls : List Call) : ChatboxPacer :=
  calls.foldl (step seconds gap) {}

/-- What the calls of a run hand out, from a given pacer. -/
def deliveriesFrom (pacer : ChatboxPacer) : List Call → List Delivery
  | [] => []
  | call :: later =>
    (handsOut seconds gap pacer call).toList ++ deliveriesFrom (step seconds gap pacer call) later

def deliveries (calls : List Call) : List Delivery :=
  deliveriesFrom seconds gap {} calls

/-! ### Runs by their last call -/

theorem run_snoc (calls : List Call) (call : Call) :
    run seconds gap (calls ++ [call]) =
      step seconds gap (run seconds gap calls) call :=
  List.foldl_concat _ _ _ _

theorem deliveriesFrom_snoc (pacer : ChatboxPacer) (calls : List Call) (call : Call) :
    deliveriesFrom seconds gap pacer (calls ++ [call]) =
      deliveriesFrom seconds gap pacer calls ++
        (handsOut seconds gap (calls.foldl (step seconds gap) pacer) call).toList := by
  induction calls generalizing pacer with
  | nil => exact List.append_nil _
  | cons first later inductionHypothesis =>
    rw [List.cons_append, deliveriesFrom, inductionHypothesis, deliveriesFrom, List.append_assoc]
    rfl

theorem deliveries_snoc (calls : List Call) (call : Call) :
    deliveries seconds gap (calls ++ [call]) = deliveries seconds gap calls ++
      (handsOut seconds gap (run seconds gap calls) call).toList :=
  deliveriesFrom_snoc seconds gap {} calls call

theorem enqueued_snoc_enqueue (calls : List Call) (entry : Entry) :
    enqueued (calls ++ [.enqueue entry]) = enqueued calls ++ [entry] := by
  rw [enqueued, List.filterMap_append]
  rfl

theorem enqueued_snoc_dequeue (calls : List Call) (now : Rat) :
    enqueued (calls ++ [.dequeue now]) = enqueued calls := by
  rw [enqueued, List.filterMap_append]
  exact List.append_nil _

theorem readings_snoc_enqueue (calls : List Call) (entry : Entry) :
    readings (calls ++ [.enqueue entry]) = readings calls := by
  rw [readings, List.filterMap_append]
  exact List.append_nil _

theorem readings_snoc_dequeue (calls : List Call) (now : Rat) :
    readings (calls ++ [.dequeue now]) = readings calls ++ [now] := by
  rw [readings, List.filterMap_append]
  rfl

/-- A `Dequeue` either leaves the pacer as it is, or takes the front of the queue, once the gap
since the last delivery has passed. -/
theorem dequeue_cases (pacer : ChatboxPacer) (now : Rat) :
    step seconds gap pacer (.dequeue now) = pacer ∧
      handsOut seconds gap pacer (.dequeue now) = none ∨
    ∃ front rest, pacer.queue = front :: rest ∧
      (∀ last, pacer.lastSend = some last → gap ≤ seconds (now - last)) ∧
      step seconds gap pacer (.dequeue now) = { queue := rest, lastSend := some now } ∧
      handsOut seconds gap pacer (.dequeue now) = some ⟨front, now⟩ := by
  unfold step handsOut dequeue
  cases waiting : pacer.queue with
  | nil => exact Or.inl ⟨rfl, rfl⟩
  | cons front rest =>
    dsimp only
    by_cases early : (pacer.lastSend.any fun last => seconds (now - last) < gap) = true
    · rw [if_pos early]
      exact Or.inl ⟨rfl, rfl⟩
    · rw [if_neg early]
      refine Or.inr ⟨front, rest, rfl, fun last sent => ?_, rfl, rfl⟩
      rw [sent] at early
      exact not_lt.mp fun less => early (decide_eq_true less)

/-! ### The bound of the queue -/

theorem enqueue_length_le {pacer : ChatboxPacer} (bounded : pacer.queue.length ≤ kQueueCap)
    (entry : Entry) : (pacer.enqueue entry).queue.length ≤ kQueueCap := by
  unfold ChatboxPacer.enqueue
  by_cases full : kQueueCap ≤ pacer.queue.length
  · rw [if_pos full, List.length_append, List.length_tail, List.length_singleton]
    have positive : 1 ≤ pacer.queue.length := le_trans (by decide) full
    exact (Nat.sub_add_cancel positive).le.trans bounded
  · rw [if_neg full, List.length_append, List.length_singleton]
    exact Nat.lt_of_not_le full

theorem queue_length_le (calls : List Call) :
    (run seconds gap calls).queue.length ≤ kQueueCap := by
  induction calls using List.reverseRecOn with
  | nil => exact Nat.zero_le _
  | append_singleton calls call inductionHypothesis =>
    rw [run_snoc]
    cases call with
    | enqueue entry => exact enqueue_length_le inductionHypothesis entry
    | dequeue now =>
      rcases dequeue_cases seconds gap (run seconds gap calls) now with
        ⟨same, -⟩ | ⟨front, rest, waiting, -, taken, -⟩
      · rw [same]
        exact inductionHypothesis
      · rw [taken]
        rw [waiting] at inductionHypothesis
        exact le_trans (Nat.le_succ _) inductionHypothesis

/-! ### The gap between deliveries -/

/-- What the pacer remembers of its deliveries: the time of the last one. -/
structure Spaced (pacer : ChatboxPacer) (delivered : List Delivery) : Prop where
  beforeLast : ∀ delivery ∈ delivered, ∃ last, pacer.lastSend = some last ∧ delivery.time ≤ last
  apart : delivered.Pairwise fun earlier later => gap ≤ seconds (later.time - earlier.time)

theorem Spaced.deliver {pacer : ChatboxPacer} {delivered : List Delivery}
    (spaced : Spaced seconds gap pacer delivered) (monotone : Monotone seconds)
    {rest : List Entry} {front : Entry} {now : Rat}
    (due : ∀ last, pacer.lastSend = some last → gap ≤ seconds (now - last))
    (notBefore : ∀ delivery ∈ delivered, delivery.time ≤ now) :
    Spaced seconds gap { queue := rest, lastSend := some now } (delivered ++ [⟨front, now⟩]) where
  beforeLast := by
    intro delivery member
    rcases List.mem_append.mp member with earlier | last
    · exact ⟨now, rfl, notBefore delivery earlier⟩
    · exact ⟨now, rfl, (congrArg Delivery.time (List.mem_singleton.mp last)).le⟩
  apart := by
    refine List.pairwise_append.mpr ⟨spaced.apart, List.pairwise_singleton _ _, ?_⟩
    intro earlier member later atEnd
    rw [List.mem_singleton.mp atEnd]
    obtain ⟨last, sent, before⟩ := spaced.beforeLast earlier member
    exact le_trans (due last sent) (monotone (sub_le_sub_left before now))

/-- Every delivery of a run happened at one of its readings. -/
theorem time_mem_readings (calls : List Call) :
    ∀ delivery ∈ deliveries seconds gap calls, delivery.time ∈ readings calls := by
  induction calls using List.reverseRecOn with
  | nil => exact List.forall_mem_nil _
  | append_singleton calls call inductionHypothesis =>
    intro delivery member
    rw [deliveries_snoc] at member
    cases call with
    | enqueue entry =>
      rw [readings_snoc_enqueue]
      exact inductionHypothesis delivery
        ((List.mem_append.mp member).resolve_right List.not_mem_nil)
    | dequeue now =>
      rw [readings_snoc_dequeue]
      rcases List.mem_append.mp member with earlier | last
      · exact List.mem_append_left _ (inductionHypothesis delivery earlier)
      · obtain ⟨taken, -, same⟩ := Option.map_eq_some_iff.mp (Option.mem_toList.mp last)
        rw [← same]
        exact List.mem_append_right _ (List.mem_singleton_self now)

theorem run_spaced (monotone : Monotone seconds) (calls : List Call)
    (ordered : (readings calls).Pairwise (· ≤ ·)) :
    Spaced seconds gap (run seconds gap calls) (deliveries seconds gap calls) := by
  induction calls using List.reverseRecOn with
  | nil => exact ⟨List.forall_mem_nil _, List.Pairwise.nil⟩
  | append_singleton calls call inductionHypothesis =>
    rw [run_snoc, deliveries_snoc]
    cases call with
    | enqueue entry =>
      rw [readings_snoc_enqueue] at ordered
      have before := inductionHypothesis ordered
      show Spaced seconds gap _ (_ ++ [])
      rw [List.append_nil]
      exact ⟨before.beforeLast, before.apart⟩
    | dequeue now =>
      rw [readings_snoc_dequeue] at ordered
      obtain ⟨earlierOrdered, -, nowLast⟩ := List.pairwise_append.mp ordered
      have before := inductionHypothesis earlierOrdered
      rcases dequeue_cases seconds gap (run seconds gap calls) now with
        ⟨same, nothing⟩ | ⟨front, rest, -, due, taken, delivered⟩
      · rw [same, nothing]
        exact (List.append_nil _).symm ▸ before
      · rw [taken, delivered]
        exact before.deliver seconds gap monotone due fun delivery member =>
          nowLast _ (time_mem_readings seconds gap calls delivery member) now
            (List.mem_singleton_self now)

/-! ### Accounting for every place -/

/-- The entry at a place was the oldest of a full queue when a later entry was enqueued. -/
def DroppedAsOldest (calls : List Call) (place : Nat) : Prop :=
  ∃ before entry after, calls = before ++ .enqueue entry :: after ∧
    kQueueCap ≤ (run seconds gap before).queue.length ∧
    (run seconds gap before).queue = (enqueued before).drop place

theorem DroppedAsOldest.snoc {calls : List Call} {place : Nat}
    (dropped : DroppedAsOldest seconds gap calls place) (call : Call) :
    DroppedAsOldest seconds gap (calls ++ [call]) place := by
  obtain ⟨before, entry, after, split, full⟩ := dropped
  refine ⟨before, entry, after ++ [call], ?_, full⟩
  rw [split, List.append_assoc, List.cons_append]

/-- The places of a run up to `head` have left the queue: the deliveries come from the places
listed, in this order, and the others were dropped. -/
structure Accounted (calls : List Call) (places : List Nat) (head : Nat) : Prop where
  within : head ≤ (enqueued calls).length
  waiting : (run seconds gap calls).queue = (enqueued calls).drop head
  left : ∀ place ∈ places, place < head
  ascending : places.Pairwise (· < ·)
  delivered : List.Forall₂ (fun place delivery => (enqueued calls)[place]? = some delivery.entry)
    places (deliveries seconds gap calls)
  dropped : ∀ place < head, place ∉ places → DroppedAsOldest seconds gap calls place

theorem placed_snoc {calls : List Call} {places : List Nat} {delivered : List Delivery}
    (placed : List.Forall₂ (fun place delivery =>
      (enqueued calls)[place]? = some delivery.entry) places delivered) (entry : Entry) :
    List.Forall₂ (fun place delivery =>
      (enqueued (calls ++ [.enqueue entry]))[place]? = some delivery.entry) places delivered := by
  refine placed.imp fun place delivery found => ?_
  rw [enqueued_snoc_enqueue, List.getElem?_append_left (List.getElem?_eq_some_iff.mp found).1]
  exact found

/-- An entry enqueued while there is room. -/
theorem Accounted.enqueue_room {calls : List Call} {places : List Nat} {head : Nat}
    (accounted : Accounted seconds gap calls places head) (entry : Entry)
    (room : ¬kQueueCap ≤ (run seconds gap calls).queue.length) :
    Accounted seconds gap (calls ++ [.enqueue entry]) places head where
  within := by
    rw [enqueued_snoc_enqueue, List.length_append]
    exact le_trans accounted.within (Nat.le_add_right _ _)
  waiting := by
    rw [run_snoc, enqueued_snoc_enqueue, List.drop_append_of_le_length accounted.within,
      ← accounted.waiting]
    show (if _ then _ else _ : List Entry) ++ [entry] = _
    rw [if_neg room]
  left := accounted.left
  ascending := accounted.ascending
  delivered := by
    rw [deliveries_snoc]
    show List.Forall₂ _ _ (_ ++ [])
    rw [List.append_nil]
    exact placed_snoc accounted.delivered entry
  dropped := fun place passed lost =>
    (accounted.dropped place passed lost).snoc seconds gap _

/-- An entry enqueued in a full queue drops the place at the head. -/
theorem Accounted.enqueue_full {calls : List Call} {places : List Nat} {head : Nat}
    (accounted : Accounted seconds gap calls places head) (entry : Entry)
    (full : kQueueCap ≤ (run seconds gap calls).queue.length) :
    Accounted seconds gap (calls ++ [.enqueue entry]) places (head + 1) where
  within := by
    rw [enqueued_snoc_enqueue, List.length_append, List.length_singleton]
    exact Nat.succ_le_succ accounted.within
  waiting := by
    have nonempty : head + 1 ≤ (enqueued calls).length := by
      rw [accounted.waiting, List.length_drop] at full
      have positive : 0 < kQueueCap := by decide
      omega
    rw [run_snoc, enqueued_snoc_enqueue, List.drop_append_of_le_length nonempty,
      ← List.tail_drop, ← accounted.waiting]
    show (if _ then _ else _ : List Entry) ++ [entry] = _
    rw [if_pos full]
  left := fun place member => Nat.lt_succ_of_lt (accounted.left place member)
  ascending := accounted.ascending
  delivered := by
    rw [deliveries_snoc]
    show List.Forall₂ _ _ (_ ++ [])
    rw [List.append_nil]
    exact placed_snoc accounted.delivered entry
  dropped := by
    intro place passed lost
    rcases Nat.lt_succ_iff_lt_or_eq.mp passed with earlier | atHead
    · exact (accounted.dropped place earlier lost).snoc seconds gap _
    · exact ⟨calls, entry, [], rfl, full, atHead ▸ accounted.waiting⟩

/-- A `Dequeue` that hands nothing out. -/
theorem Accounted.dequeue_none {calls : List Call} {places : List Nat} {head : Nat}
    (accounted : Accounted seconds gap calls places head) (now : Rat)
    (same : step seconds gap (run seconds gap calls) (.dequeue now) = run seconds gap calls)
    (nothing : handsOut seconds gap (run seconds gap calls) (.dequeue now) = none) :
    Accounted seconds gap (calls ++ [.dequeue now]) places head where
  within := enqueued_snoc_dequeue calls now ▸ accounted.within
  waiting := by
    rw [run_snoc, enqueued_snoc_dequeue, ← accounted.waiting, same]
  left := accounted.left
  ascending := accounted.ascending
  delivered := by
    rw [deliveries_snoc, enqueued_snoc_dequeue, nothing]
    exact (List.append_nil _).symm ▸ accounted.delivered
  dropped := fun place passed lost =>
    (accounted.dropped place passed lost).snoc seconds gap _

/-- A `Dequeue` that hands out the front delivers the place at the head. -/
theorem Accounted.dequeue_front {calls : List Call} {places : List Nat} {head : Nat}
    (accounted : Accounted seconds gap calls places head) (now : Rat) {front : Entry}
    {rest : List Entry} (waiting : (run seconds gap calls).queue = front :: rest)
    (taken : step seconds gap (run seconds gap calls) (.dequeue now) =
      { queue := rest, lastSend := some now })
    (delivered : handsOut seconds gap (run seconds gap calls) (.dequeue now) =
      some ⟨front, now⟩) :
    Accounted seconds gap (calls ++ [.dequeue now]) (places ++ [head]) (head + 1) where
  within := by
    have shape := accounted.waiting.symm.trans waiting
    rw [enqueued_snoc_dequeue]
    have positive := congrArg List.length shape
    rw [List.length_drop, List.length_cons] at positive
    omega
  waiting := by
    rw [run_snoc, enqueued_snoc_dequeue, ← List.tail_drop, ← accounted.waiting, waiting, taken]
    rfl
  left := by
    intro place member
    rcases List.mem_append.mp member with earlier | last
    · exact Nat.lt_succ_of_lt (accounted.left place earlier)
    · exact List.mem_singleton.mp last ▸ Nat.lt_succ_self head
  ascending := by
    refine List.pairwise_append.mpr ⟨accounted.ascending, List.pairwise_singleton _ _, ?_⟩
    intro place member last atHead
    exact List.mem_singleton.mp atHead ▸ accounted.left place member
  delivered := by
    rw [deliveries_snoc, enqueued_snoc_dequeue, delivered]
    refine List.rel_append accounted.delivered (List.Forall₂.cons ?_ List.Forall₂.nil)
    rw [← List.head?_drop, ← accounted.waiting, waiting]
    rfl
  dropped := by
    intro place passed lost
    rcases Nat.lt_succ_iff_lt_or_eq.mp passed with earlier | atHead
    · exact (accounted.dropped place earlier fun member =>
        lost (List.mem_append_left _ member)).snoc seconds gap _
    · exact absurd (List.mem_append_right places (List.mem_singleton.mpr atHead)) lost

theorem run_accounted (calls : List Call) :
    ∃ places head, Accounted seconds gap calls places head := by
  induction calls using List.reverseRecOn with
  | nil =>
    exact ⟨[], 0, ⟨Nat.le_refl _, rfl, List.forall_mem_nil _, List.Pairwise.nil, List.Forall₂.nil,
      fun _ passed _ => absurd passed (Nat.not_lt_zero _)⟩⟩
  | append_singleton calls call inductionHypothesis =>
    obtain ⟨places, head, accounted⟩ := inductionHypothesis
    cases call with
    | enqueue entry =>
      by_cases full : kQueueCap ≤ (run seconds gap calls).queue.length
      · exact ⟨places, head + 1, accounted.enqueue_full seconds gap entry full⟩
      · exact ⟨places, head, accounted.enqueue_room seconds gap entry full⟩
    | dequeue now =>
      rcases dequeue_cases seconds gap (run seconds gap calls) now with
        ⟨same, nothing⟩ | ⟨front, rest, waiting, -, taken, delivered⟩
      · exact ⟨places, head, accounted.dequeue_none seconds gap now same nothing⟩
      · exact ⟨places ++ [head], head + 1,
          accounted.dequeue_front seconds gap now waiting taken delivered⟩

/-! ### Order, and the whole account -/

/-- The room an `Enqueue` makes keeps the order of the queue. -/
theorem enqueue_queue (pacer : ChatboxPacer) (entry : Entry) :
    ∃ room, room.Sublist pacer.queue ∧ (pacer.enqueue entry).queue = room ++ [entry] := by
  by_cases full : kQueueCap ≤ pacer.queue.length
  · exact ⟨pacer.queue.tail, List.tail_sublist _, congrArg (· ++ [entry]) (if_pos full)⟩
  · exact ⟨pacer.queue, List.Sublist.refl _, congrArg (· ++ [entry]) (if_neg full)⟩

/-- What was delivered, followed by what waits, is a subsequence of what was enqueued. -/
theorem delivered_append_queue_sublist (calls : List Call) :
    ((deliveries seconds gap calls).map Delivery.entry ++
      (run seconds gap calls).queue).Sublist (enqueued calls) := by
  induction calls using List.reverseRecOn with
  | nil => exact List.Sublist.refl _
  | append_singleton calls call inductionHypothesis =>
    rw [run_snoc, deliveries_snoc]
    cases call with
    | enqueue entry =>
      obtain ⟨room, kept, shape⟩ := enqueue_queue (run seconds gap calls) entry
      rw [enqueued_snoc_enqueue]
      show (List.map _ (_ ++ []) ++ ((run seconds gap calls).enqueue entry).queue).Sublist _
      rw [List.append_nil, shape, ← List.append_assoc]
      exact (((List.Sublist.refl _).append kept).trans inductionHypothesis).append
        (List.Sublist.refl _)
    | dequeue now =>
      rw [enqueued_snoc_dequeue]
      rcases dequeue_cases seconds gap (run seconds gap calls) now with
        ⟨same, nothing⟩ | ⟨front, rest, waiting, -, taken, delivered⟩
      · rw [same, nothing]
        exact (List.append_nil _).symm ▸ inductionHypothesis
      · rw [taken, delivered, List.map_append, List.append_assoc]
        rw [waiting] at inductionHypothesis
        exact inductionHypothesis

/-- In every run whose readings never go back: the queue stays within its bound, deliveries are
apart by the gap, and they are a subsequence of what was enqueued. A place that is not among
those delivered is still in the queue or was the oldest of a full queue at a later `Enqueue`. -/
theorem paced_runs (monotone : Monotone seconds) (calls : List Call)
    (ordered : (readings calls).Pairwise (· ≤ ·)) :
    (run seconds gap calls).queue.length ≤ kQueueCap ∧
    ((deliveries seconds gap calls).Pairwise fun earlier later =>
      gap ≤ seconds (later.time - earlier.time)) ∧
    ((deliveries seconds gap calls).map Delivery.entry).Sublist (enqueued calls) ∧
    ∃ places : List Nat, places.Pairwise (· < ·) ∧
      List.Forall₂ (fun place delivery => (enqueued calls)[place]? = some delivery.entry) places
        (deliveries seconds gap calls) ∧
      ∀ place < (enqueued calls).length, place ∉ places →
        (enqueued calls).length - (run seconds gap calls).queue.length ≤ place ∨
          DroppedAsOldest seconds gap calls place := by
  obtain ⟨places, head, accounted⟩ := run_accounted seconds gap calls
  refine ⟨queue_length_le seconds gap calls,
    (run_spaced seconds gap monotone calls ordered).apart, ?_, places, accounted.ascending,
    accounted.delivered, ?_⟩
  · exact (List.sublist_append_left _ _).trans
      (delivered_append_queue_sublist seconds gap calls)
  · intro place _ lost
    by_cases passed : place < head
    · exact Or.inr (accounted.dropped place passed lost)
    · refine Or.inl ?_
      rw [accounted.waiting, List.length_drop, Nat.sub_sub_self accounted.within]
      exact Nat.le_of_not_lt passed

end Pacing

/-- The pacer of the host is the one with a gap of 1.2 seconds. -/
theorem host_dequeue (pacer : ChatboxPacer) (now : Rat) :
    pacer.dequeue now = dequeue id minGapSec pacer now :=
  rfl

/-- An entry whose text is one byte. -/
def oneLetter (letter : UInt8) : Entry := ⟨[letter], true, false⟩

/-- Nine entries, then two calls of `Dequeue` two seconds apart. -/
def nineEntries : List Call :=
  [0, 1, 2, 3, 4, 5, 6, 7, 8].map (fun letter => .enqueue (oneLetter letter)) ++
    [.dequeue 5, .dequeue 7]

/-- With the gap of the host the first of nine entries was dropped, and the second and the third
are delivered. -/
theorem paced_runs_nine_entries :
    deliveries id minGapSec nineEntries = [⟨oneLetter 1, 5⟩, ⟨oneLetter 2, 7⟩] ∧
    ((deliveries id minGapSec nineEntries).map Delivery.entry).Sublist (enqueued nineEntries) :=
  ⟨by decide +kernel, (paced_runs id minGapSec monotone_id nineEntries (by decide)).2.2.1⟩

end PairDriver.Captions.Pacing
