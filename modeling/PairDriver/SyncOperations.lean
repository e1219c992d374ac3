/-
This file follows every operation the sync runner accepts: a ledger beside the
runner lists the operations accepted, the results its polls returned with the
operations they belong to, and counts the script processes that are running.

The content is that an operation leaves the queue before its process is
started, and a process that does not start leaves nothing behind from which a
later poll could return a result. So the operations accepted are those
returned, running and queued, in that order, exactly as long as every process
starts.
-/

import PairDriver.Machine
import PairDriver.ModuleSync

namespace PairDriver.ModuleSync

/-! ### The ledger -/

/-- The runner, the operations it accepted, the results it returned, and the number of processes
that were started and have neither exited nor been terminated. -/
structure Ledger where
  runner : Runner := {}
  accepted : List PendingOp := []
  returned : List (PendingOp × SyncResult) := []
  running : Nat := 0
deriving DecidableEq

/-- The number of processes `launchNext` creates. -/
def Runner.created (launches : PendingOp → Bool) (runner : Runner) : Nat :=
  if runner.queue.head?.any launches then 1 else 0

def Ledger.launchNext (launches : PendingOp → Bool) (ledger : Ledger) : Ledger :=
  { ledger with
    runner := ledger.runner.launchNext launches
    running := ledger.running + ledger.runner.created launches }

/-- `StartAdd`, `StartUpdate` and `StartRemove`. -/
def Ledger.start (launches : PendingOp → Bool) (op : PendingOp) (ledger : Ledger) : Ledger :=
  if 8 ≤ ledger.runner.queue.length then ledger
  else
    let queued := { ledger with
      runner := { ledger.runner with queue := ledger.runner.queue ++ [op] }
      accepted := ledger.accepted ++ [op] }
    if ledger.runner.proc.isSome then queued else queued.launchNext launches

/-- The runner after its process is closed, with the result that is about to be returned. -/
def Ledger.close (result : SyncResult) (process : Process) (ledger : Ledger) : Ledger :=
  { ledger with
    runner := { ledger.runner with proc := none }
    returned := ledger.returned ++ [(process.op, result)] }

/-- `Poll`; a process that runs for more than 90 seconds is terminated. -/
def Ledger.poll (launches : PendingOp → Bool) (late : Bool) (ledger : Ledger) : Ledger :=
  match ledger.runner.proc with
  | none => ledger.launchNext launches
  | some process =>
    match process.exited with
    | none =>
      if late then
        ({ ledger with running := ledger.running - 1 }.close ⟨false, .timedOut, [], []⟩
          process).launchNext launches
      else ledger
    | some exit => (ledger.close exit.result process).launchNext launches

/-- The exit code of a process that has not ended. -/
def stillActive : Nat := 259

/-- The process of the runner ends by itself. One that ends with `stillActive` is for the runner one
that goes on. -/
def Ledger.exits (exit : Exit) (ledger : Ledger) : Option Ledger :=
  match ledger.runner.proc with
  | some ⟨op, none⟩ =>
    if exit.code = stillActive then none
    else some { ledger with
      runner := { ledger.runner with proc := some ⟨op, some exit⟩ }
      running := ledger.running - 1 }
  | _ => none

/-- A call of the runner, with the processes that would start, or the end of its process. -/
inductive Call where
  | start (op : PendingOp) (launches : PendingOp → Bool)
  | exits (exit : Exit)
  | poll (launches : PendingOp → Bool) (late : Bool)

def Ledger.call (ledger : Ledger) : Call → Option Ledger
  | .start op launches => some (ledger.start launches op)
  | .exits exit => ledger.exits exit
  | .poll launches late => some (ledger.poll launches late)

/-! ### The ledger follows the runner -/

theorem start_runner (launches : PendingOp → Bool) (op : PendingOp) (ledger : Ledger) :
    (ledger.start launches op).runner = ledger.runner.enqueue launches op := by
  unfold Ledger.start Runner.enqueue
  split
  · rfl
  · dsimp only
    split <;> rfl

theorem poll_runner (launches : PendingOp → Bool) (late : Bool) (ledger : Ledger) :
    (ledger.poll launches late).runner = (ledger.runner.poll launches late).1 := by
  obtain ⟨⟨queue, proc⟩, accepted, returned, running⟩ := ledger
  rcases proc with _ | ⟨op, _ | exit⟩
  · rfl
  · cases late <;> rfl
  · rfl

/-- The results in the ledger are those the polls return. -/
theorem poll_returned (launches : PendingOp → Bool) (late : Bool) (ledger : Ledger) :
    (ledger.poll launches late).returned.map Prod.snd =
      ledger.returned.map Prod.snd ++ (ledger.runner.poll launches late).2.toList := by
  obtain ⟨⟨queue, proc⟩, accepted, returned, running⟩ := ledger
  rcases proc with _ | ⟨op, _ | exit⟩
  · exact (List.append_nil _).symm
  · cases late
    · exact (List.append_nil _).symm
    · exact List.map_append
  · exact List.map_append

/-! ### What is conserved -/

/-- Every accepted operation was returned, is running or is queued; the results came in the order
of acceptance; and at most one process runs. -/
structure Ledger.Conserved (ledger : Ledger) : Prop where
  count : ledger.accepted.length =
    ledger.returned.length + ledger.runner.queue.length + ledger.runner.proc.toList.length
  order : ledger.returned.map Prod.fst <+: ledger.accepted
  single : ledger.running ≤ 1

/-- The operation at the head of the queue does not start. -/
def Runner.fails (launches : PendingOp → Bool) (queue : List PendingOp) : Bool :=
  queue.head?.any fun op => !launches op

/-- The call takes an operation from the queue whose process does not start. -/
def Ledger.launchFails (ledger : Ledger) : Call → Bool
  | .start op launches => decide (ledger.runner.queue.length < 8) && ledger.runner.proc.isNone &&
      Runner.fails launches (ledger.runner.queue ++ [op])
  | .exits _ => false
  | .poll launches late =>
      ledger.runner.proc.all (fun process => process.exited.isSome || late) &&
        Runner.fails launches ledger.runner.queue

/-! ### One step -/

/-- The operations returned, running and queued, in this order. -/
def Ledger.kept (ledger : Ledger) : List PendingOp :=
  ledger.returned.map Prod.fst ++ ledger.runner.proc.toList.map Process.op ++ ledger.runner.queue

/-- The number of processes the runner has that have not exited. -/
def Runner.live (runner : Runner) : Nat :=
  (runner.proc.toList.filter fun process => process.exited.isNone).length

/-- What is kept are the accepted operations in their order, but for `lost` of them. -/
structure Ledger.Accounts (lost : Nat) (ledger : Ledger) : Prop where
  sublist : ledger.kept.Sublist ledger.accepted
  count : ledger.accepted.length = ledger.kept.length + lost
  live : ledger.running = ledger.runner.live

theorem Ledger.Accounts.fresh : Ledger.Accounts 0 {} where
  sublist := List.Sublist.refl _
  count := rfl
  live := rfl

/-- A launch from a closed runner keeps what was kept, or loses the head of the queue. -/
theorem launchNext_accounts (launches : PendingOp → Bool) {ledger : Ledger} {lost : Nat}
    (idle : ledger.runner.proc = none) (accounts : ledger.Accounts lost) :
    (ledger.launchNext launches).Accounts
      (lost + (Runner.fails launches ledger.runner.queue).toNat) := by
  obtain ⟨⟨queue, proc⟩, accepted, returned, running⟩ := ledger
  obtain rfl : proc = none := idle
  obtain ⟨sublist, count, live⟩ := accounts
  cases queue with
  | nil => exact ⟨sublist, count, live⟩
  | cons op rest =>
    simp only [Ledger.kept, Option.toList_none, List.map_nil, List.append_nil] at sublist count
    have started : running = 0 := live
    cases starts : launches op with
    | true =>
      simp only [Ledger.launchNext, Runner.launchNext, Runner.created, Runner.fails, starts,
        List.head?_cons, Option.any_some, Bool.not_true, Bool.toNat_false, if_true, Nat.add_zero]
      refine ⟨?_, ?_, ?_⟩
      · simpa [Ledger.kept] using sublist
      · simpa [Ledger.kept] using count
      · simp [Runner.live, started]
    | false =>
      simp only [Ledger.launchNext, Runner.launchNext, Runner.created, Runner.fails, starts,
        List.head?_cons, Option.any_some, Bool.not_false, Bool.toNat_true, Bool.false_eq_true,
        if_false, Nat.add_zero]
      refine ⟨?_, ?_, live⟩
      · simp only [Ledger.kept, Option.toList_none, List.map_nil, List.append_nil]
        exact ((List.sublist_cons_self op rest).append_left _).trans sublist
      · simp only [Ledger.kept, Option.toList_none, List.map_nil, List.append_nil,
          List.length_append, List.length_cons] at count ⊢
        omega

/-- Closing a process moves its operation to those returned. -/
theorem close_accounts (result : SyncResult) {process : Process} {ledger : Ledger} {lost : Nat}
    (runs : ledger.runner.proc = some process) (sublist : ledger.kept.Sublist ledger.accepted)
    (count : ledger.accepted.length = ledger.kept.length + lost) (ended : ledger.running = 0) :
    (ledger.close result process).Accounts lost := by
  have same : (ledger.close result process).kept = ledger.kept := by
    simp [Ledger.kept, Ledger.close, runs]
  exact ⟨same ▸ sublist, same ▸ count, ended⟩

theorem start_accounts (launches : PendingOp → Bool) (op : PendingOp) {ledger : Ledger} {lost : Nat}
    (accounts : ledger.Accounts lost) :
    (ledger.start launches op).Accounts
      (lost + (ledger.launchFails (.start op launches)).toNat) := by
  obtain ⟨⟨queue, proc⟩, accepted, returned, running⟩ := ledger
  by_cases full : 8 ≤ queue.length
  · simpa only [Ledger.launchFails, decide_eq_false (Nat.not_lt.mpr full), Bool.false_and,
      Bool.toNat_false, Nat.add_zero, Ledger.start, if_pos full] using accounts
  have queued : Ledger.Accounts lost
      ⟨⟨queue ++ [op], proc⟩, accepted ++ [op], returned, running⟩ := by
    obtain ⟨sublist, count, live⟩ := accounts
    refine ⟨?_, ?_, live⟩
    · simpa only [Ledger.kept, List.append_assoc] using sublist.append_right [op]
    · simp only [Ledger.kept, List.length_append, List.length_singleton] at count ⊢
      omega
  simp only [Ledger.start, if_neg full, Ledger.launchFails, decide_eq_true (Nat.not_le.mp full),
    Bool.true_and]
  cases proc with
  | some process => exact queued
  | none => exact launchNext_accounts launches rfl queued

theorem poll_accounts (launches : PendingOp → Bool) (late : Bool) {ledger : Ledger} {lost : Nat}
    (accounts : ledger.Accounts lost) :
    (ledger.poll launches late).Accounts
      (lost + (ledger.launchFails (.poll launches late)).toNat) := by
  obtain ⟨⟨queue, proc⟩, accepted, returned, running⟩ := ledger
  rcases proc with _ | ⟨op, _ | exit⟩
  · exact launchNext_accounts launches rfl accounts
  · cases late with
    | false => exact accounts
    | true =>
      obtain ⟨sublist, count, live⟩ := accounts
      obtain rfl : running = 1 := live
      have closed : Ledger.Accounts lost (Ledger.close ⟨false, .timedOut, [], []⟩ ⟨op, none⟩
          ⟨⟨queue, some ⟨op, none⟩⟩, accepted, returned, 0⟩) :=
        close_accounts _ rfl sublist count rfl
      exact launchNext_accounts launches rfl closed
  · obtain ⟨sublist, count, live⟩ := accounts
    exact launchNext_accounts launches rfl (close_accounts exit.result rfl sublist count live)

/-- The step lemma: a call loses an operation exactly if its launch fails. -/
theorem call_accounts {ledger after : Ledger} {call : Call} {lost : Nat}
    (accounts : ledger.Accounts lost) (called : ledger.call call = some after) :
    after.Accounts (lost + (ledger.launchFails call).toNat) := by
  cases call with
  | start op launches =>
    obtain rfl : ledger.start launches op = after := Option.some.inj called
    exact start_accounts launches op accounts
  | exits exit =>
    obtain ⟨⟨queue, proc⟩, accepted, returned, running⟩ := ledger
    rcases proc with _ | ⟨op, _ | ended⟩
    · cases called
    · obtain ⟨_, same⟩ := Option.ite_none_left_eq_some.mp called
      obtain rfl := Option.some.inj same
      obtain ⟨sublist, count, live⟩ := accounts
      obtain rfl : running = 1 := live
      exact ⟨sublist, count, rfl⟩
    · cases called
  | poll launches late =>
    obtain rfl : ledger.poll launches late = after := Option.some.inj called
    exact poll_accounts launches late accounts

/-! ### Whole runs -/

theorem Ledger.Accounts.single {ledger : Ledger} {lost : Nat} (accounts : ledger.Accounts lost) :
    ledger.running ≤ 1 := by
  rw [accounts.live, Runner.live]
  refine (List.length_filter_le _ _).trans ?_
  cases ledger.runner.proc <;> simp

theorem Ledger.kept_length (ledger : Ledger) : ledger.kept.length =
    ledger.returned.length + ledger.runner.queue.length + ledger.runner.proc.toList.length := by
  simp only [Ledger.kept, List.length_append, List.length_map]
  omega

theorem Ledger.Accounts.conserved_iff {ledger : Ledger} {lost : Nat}
    (accounts : ledger.Accounts lost) : ledger.Conserved ↔ lost = 0 := by
  have count := accounts.count
  constructor
  · intro conserved
    have kept := ledger.kept_length
    have accepted := conserved.count
    omega
  · rintro rfl
    refine ⟨count.trans ledger.kept_length, ?_, accounts.single⟩
    rw [← accounts.sublist.eq_of_length count.symm, Ledger.kept, List.append_assoc]
    exact List.prefix_append _ _

/-- A ledger stays accounted for along a run, and once an operation is lost it stays lost. -/
theorem run_accounts {ledger final : Ledger} {lost : Nat} (accounts : ledger.Accounts lost)
    {calls : List Call} (ran : run Ledger.call ledger calls = some final) :
    final.Conserved ↔ lost = 0 ∧
      run (checked Ledger.call fun ledger call => ledger.launchFails call = false) ledger calls =
        some final := by
  induction calls generalizing ledger lost with
  | nil =>
    obtain rfl : ledger = final := Option.some.inj ran
    exact accounts.conserved_iff.trans (and_iff_left rfl).symm
  | cons call rest inductionHypothesis =>
    obtain ⟨after, called, later⟩ := Option.bind_eq_some_iff.mp ran
    rw [inductionHypothesis (call_accounts accounts called) later, run, checked]
    cases fails : ledger.launchFails call with
    | false => rw [if_pos rfl, called]; rfl
    | true => simp

/-- No operation is lost exactly in the runs in which every process starts. -/
theorem operations_conserved_iff (calls : List Call) (ledger : Ledger)
    (ran : run Ledger.call {} calls = some ledger) :
    ledger.Conserved ↔
      run (checked Ledger.call fun ledger call => ledger.launchFails call = false) {} calls =
        some ledger :=
  (run_accounts Ledger.Accounts.fresh ran).trans (and_iff_right rfl)

/-! ### Two runs -/

/-- Two sources are removed: the first script ends without a result file, the second is late. -/
def removedTwice : List Call :=
  [.start ⟨.remove, none, ascii "first"⟩ fun _ => true,
    .start ⟨.remove, none, ascii "second"⟩ fun _ => true,
    .poll (fun _ => true) false, .exits ⟨0, none⟩, .poll (fun _ => true) false,
    .poll (fun _ => true) true]

theorem operations_conserved_removed : ∃ ledger, run Ledger.call {} removedTwice = some ledger ∧
    ledger.Conserved ∧ ledger.returned.map Prod.fst =
      [⟨.remove, none, ascii "first"⟩, ⟨.remove, none, ascii "second"⟩] :=
  ⟨_, rfl, (operations_conserved_iff removedTwice _ rfl).mpr rfl, rfl⟩

/-- The process of the only operation does not start; two polls later there is still no result. -/
theorem failed_launch_loses_operation : ∃ ledger,
    run Ledger.call {} [.start ⟨.remove, none, ascii "source"⟩ fun _ => false,
      .poll (fun _ => true) false, .poll (fun _ => true) false] = some ledger ∧
    ledger.accepted.length = 1 ∧ ledger.returned = [] ∧ ledger.runner = {} ∧
    ¬ledger.Conserved := by
  refine ⟨_, rfl, rfl, rfl, rfl, fun conserved => ?_⟩
  have count := conserved.count
  exact absurd count (by decide)

end PairDriver.ModuleSync
