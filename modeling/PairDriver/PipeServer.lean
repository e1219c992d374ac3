/-
This file models the pipe server of the driver: one thread that waits for connections and for
the completions of its reads and writes. A new instance starts to read; a read that completes
with a whole request is answered into the buffer of the instance and the answer is written, and
a write that completes starts the next read. Whatever else happens closes the instance. The
thread frees what is left when it ends.

An overlapped write takes its bytes from the buffer until it completes, and a completion comes
for any operation that is outstanding, whatever became of its instance, so both are in the
model. A pipe holds the messages in each direction; closing the server's end drops them. The
handler writes over the answer before, so it takes it along. The driver serves its clients as
if it took their requests one after the other.
-/

import PairDriver.Machine
import PairDriver.SequentialService

namespace PairDriver.PipeServer

open SequentialService

/-! ### State -/

abbrev Message := List UInt8

inductive Operation where
  | read
  | write
deriving DecidableEq

/-- `PipeInstance`, with its buffer for the answers. -/
structure PipeInstance (Response : Type) where
  response : Response

/-- What `CreateAndConnectInstance` comes to: no pipe, a pipe that waits for a client, a pipe that
a client has opened already, or a pipe that fails to listen and is closed. -/
inductive Connecting where
  | notCreated
  | pending
  | connected
  | failed
deriving DecidableEq

/-- The server, the operations the kernel has in hand and the messages in the pipes. The clients'
ends keep what was written and received, and the server what it handled. -/
structure State (Driver Response : Type) where
  driver : Driver
  pipes : Nat → Option (PipeInstance Response) := fun _ => none
  nextPipe : Option Nat := none
  connectPending : Bool := false
  running : Bool := true
  crashed : Bool := false
  handles : Nat := 0
  outstanding : Nat → Option Operation := fun _ => none
  closed : Nat → Bool := fun _ => false
  toServer : Nat → List Message := fun _ => []
  toClient : Nat → List Response := fun _ => []
  written : Nat → List Message := fun _ => []
  received : Nat → List Response := fun _ => []
  handled : List (Nat × Message) := []

inductive Event where
  | start (connecting : Connecting)
  | connect (succeeds readStarts : Bool) (connecting : Connecting)
  | completedRead (pipe : Nat) (err writeStarts : Bool)
  | completedWrite (pipe : Nat) (err readStarts : Bool)
  | send (pipe : Nat) (message : Message)
  | receive (pipe : Nat)
  | stop
deriving DecidableEq

section Server

variable {Driver Response : Type} (requestSize : Nat) (blank : Response)
  (handleRequest : Driver → Response → Message → Driver × Response)

/-! ### Operations -/

/-- `ClosePipeInstance`. -/
def closePipeInstance (pipe : Nat) (state : State Driver Response) : State Driver Response :=
  { state with
    pipes := Function.update state.pipes pipe none
    closed := Function.update state.closed pipe true
    toServer := Function.update state.toServer pipe []
    toClient := Function.update state.toClient pipe [] }

/-- `CreateAndConnectInstance`. A new pipe has a handle that was not there before. -/
def createAndConnectInstance (connecting : Connecting) (state : State Driver Response) :
    State Driver Response :=
  match connecting with
  | .notCreated => { state with nextPipe := none, connectPending := false }
  | .pending =>
    { state with
      nextPipe := some state.handles
      connectPending := true
      handles := state.handles + 1 }
  | .connected =>
    { state with
      nextPipe := some state.handles
      connectPending := false
      handles := state.handles + 1 }
  | .failed =>
    { state with
      nextPipe := none
      connectPending := false
      handles := state.handles + 1
      closed := Function.update state.closed state.handles true }

/-- What the guard of the thread does when it ends: it closes every instance, and the kernel
forgets the operations of the thread. -/
def endThread (state : State Driver Response) : State Driver Response :=
  { state with
    running := false
    pipes := fun _ => none
    outstanding := fun _ => none
    closed := fun pipe => state.closed pipe || (state.pipes pipe).isSome
    toServer := fun pipe => if (state.pipes pipe).isSome then [] else state.toServer pipe
    toClient := fun pipe => if (state.pipes pipe).isSome then [] else state.toClient pipe }

/-- A connection that failed while it was pending: the pipe is closed and the thread ends. -/
def abandon (state : State Driver Response) : State Driver Response :=
  match state.nextPipe with
  | none => endThread state
  | some pipe => endThread (closePipeInstance pipe { state with nextPipe := none })

/-- An operation of the kernel on a pipe that starts, or the end of the instance. -/
def startOrClose (pipe : Nat) (starts : Bool) (operation : Operation)
    (state : State Driver Response) : State Driver Response :=
  if starts then
    { state with outstanding := Function.update state.outstanding pipe (some operation) }
  else closePipeInstance pipe state

/-- `CompletedWriteCallback`. -/
def completedWriteCallback (pipe : Nat) (err readStarts : Bool) (state : State Driver Response) :
    State Driver Response :=
  startOrClose pipe (!err && readStarts) .read state

/-- The completion takes the operation off the kernel's hands. -/
def complete (pipe : Nat) (state : State Driver Response) : State Driver Response :=
  { state with outstanding := Function.update state.outstanding pipe none }

/-- The read moved a message into the buffer of the instance, and the request is handled. -/
def answer (pipe : Nat) (pipeInst : PipeInstance Response) (message : Message)
    (rest : List Message) (state : State Driver Response) : State Driver Response :=
  let done := handleRequest state.driver pipeInst.response message
  { state with
    driver := done.1
    pipes := Function.update state.pipes pipe (some { response := done.2 })
    toServer := Function.update state.toServer pipe rest
    handled := state.handled ++ [(pipe, message)] }

/-- `CompletedReadCallback`, for a read without an error that moved a message. -/
def completedReadCallback (pipe : Nat) (pipeInst : PipeInstance Response) (message : Message)
    (rest : List Message) (writeStarts : Bool) (state : State Driver Response) :
    State Driver Response :=
  if message.length = requestSize then
    startOrClose pipe writeStarts .write (answer handleRequest pipe pipeInst message rest state)
  else closePipeInstance pipe state

def crash (state : State Driver Response) : State Driver Response :=
  { state with crashed := true }

def step (state : State Driver Response) : Event → Option (State Driver Response)
  | .start connecting =>
    if state.running ∧ state.handles = 0 then some (createAndConnectInstance connecting state)
    else none
  | .connect succeeds readStarts connecting =>
    if !state.running then none
    else if state.connectPending && !succeeds then some (abandon state)
    else
      match state.nextPipe with
      | none => some (createAndConnectInstance connecting state)
      | some pipe =>
        let accepted := { state with
          pipes := Function.update state.pipes pipe (some { response := blank }) }
        some (createAndConnectInstance connecting
          (completedWriteCallback pipe false readStarts accepted))
  | .completedRead pipe err writeStarts =>
    if state.outstanding pipe = some .read then
      match state.pipes pipe, state.toServer pipe with
      | none, _ => some (crash state)
      | some pipeInst, message :: rest =>
        if err || requestSize < message.length then
          some (closePipeInstance pipe (complete pipe state))
        else some (completedReadCallback requestSize handleRequest pipe pipeInst message rest
          writeStarts (complete pipe state))
      | some _, [] =>
        if err then some (closePipeInstance pipe (complete pipe state)) else none
    else none
  | .completedWrite pipe err readStarts =>
    if state.outstanding pipe = some .write then
      match state.pipes pipe with
      | none => some (crash state)
      | some pipeInst =>
        let delivered :=
          if err then state
          else { state with
            toClient := Function.update state.toClient pipe
              (state.toClient pipe ++ [pipeInst.response]) }
        some (completedWriteCallback pipe err readStarts (complete pipe delivered))
    else none
  | .send pipe message =>
    if pipe < state.handles ∧ state.closed pipe = false then
      some { state with
        toServer := Function.update state.toServer pipe (state.toServer pipe ++ [message])
        written := Function.update state.written pipe (state.written pipe ++ [message]) }
    else none
  | .receive pipe =>
    match state.toClient pipe with
    | [] => none
    | response :: rest =>
      some { state with
        toClient := Function.update state.toClient pipe rest
        received := Function.update state.received pipe (state.received pipe ++ [response]) }
  | .stop => if state.running then some (endThread state) else none

/-! ### One pipe -/

/-- The handler as a service: the answer is what is kept of a client. -/
def service : Handler Driver Response Message Response := fun driver response message =>
  let done := handleRequest driver response message
  (done.1, done.2, done.2)

/-- The driver and the answers if the requests are taken one after the other. -/
def served (driver : Driver) (handled : List (Nat × Message)) :
    Served Nat Driver Response Response :=
  serve (service handleRequest) (begin driver blank) handled

/-- What concerns one pipe. -/
structure View (Response : Type) where
  pipeInst : Option (PipeInstance Response)
  outstanding : Option Operation
  closed : Bool
  toServer : List Message
  toClient : List Response
  written : List Message
  received : List Response
  requests : List Message
  kept : Response
  answers : List Response

def view (driver : Driver) (state : State Driver Response) (pipe : Nat) : View Response where
  pipeInst := state.pipes pipe
  outstanding := state.outstanding pipe
  closed := state.closed pipe
  toServer := state.toServer pipe
  toClient := state.toClient pipe
  written := state.written pipe
  received := state.received pipe
  requests := requestsOf pipe state.handled
  kept := (served blank handleRequest driver state.handled).kept pipe
  answers := (served blank handleRequest driver state.handled).answers pipe

/-- The answer that is being written. -/
def View.writing (view : View Response) : List Response :=
  if view.outstanding = some .write then (view.pipeInst.map PipeInstance.response).toList else []

/-- Nothing has happened on a pipe that no instance was made of. -/
structure View.Untouched (view : View Response) : Prop where
  pipeInst : view.pipeInst = none
  opened : view.closed = false
  toClient : view.toClient = []
  received : view.received = []
  requests : view.requests = []
  kept : view.kept = blank
  answers : view.answers = []

/-- A pipe in order. -/
structure View.Ok (view : View Response) : Prop where
  live : view.outstanding.isSome = view.pipeInst.isSome
  opened : view.pipeInst.isSome = true → view.closed = false
  buffer : ∀ pipeInst, view.pipeInst = some pipeInst → pipeInst.response = view.kept
  messages : view.closed = false → view.requests ++ view.toServer = view.written
  order : view.requests <+: view.written
  answering : view.pipeInst.isSome = true →
    view.received ++ view.toClient ++ view.writing = view.answers
  delivered : view.received ++ view.toClient <+: view.answers

/-- The pipes that no instance was made of: those to come, and the next. -/
def Fresh (state : State Driver Response) (pipe : Nat) : Prop :=
  state.handles ≤ pipe ∨ state.nextPipe = some pipe

/-- What holds of the server after any run. -/
structure Serves (driver : Driver) (state : State Driver Response) : Prop where
  sound : state.crashed = false
  shared : state.driver = (served blank handleRequest driver state.handled).shared
  whole : ∀ entry ∈ state.handled, entry.2.length = requestSize
  next : ∀ pipe, state.nextPipe = some pipe → pipe < state.handles
  pipes : ∀ pipe, (view blank handleRequest driver state pipe).Ok
  fresh : ∀ pipe, Fresh state pipe → (view blank handleRequest driver state pipe).Untouched blank

variable {requestSize blank handleRequest}

theorem ok_closed {view : View Response} (ok : view.Ok) :
    View.Ok { view with
      pipeInst := none
      outstanding := none
      closed := true
      toServer := []
      toClient := [] } where
  live := rfl
  opened := fun absent => absurd absent Bool.false_ne_true
  buffer := fun _ absent => absurd absent (Option.some_ne_none _).symm
  messages := fun absent => absurd absent Bool.true_eq_false.mp
  order := ok.order
  answering := fun absent => absurd absent Bool.false_ne_true
  delivered := by
    rw [List.append_nil]
    exact (List.prefix_append _ _).trans ok.delivered

theorem ok_untouched {view : View Response} (untouched : view.Untouched blank) (ok : view.Ok) :
    View.Ok { view with
      pipeInst := some { response := blank }
      outstanding := some .read } where
  live := rfl
  opened := fun _ => untouched.opened
  buffer := fun pipeInst same => by
    rw [← Option.some.inj same]
    exact untouched.kept.symm
  messages := ok.messages
  order := ok.order
  answering := fun _ => by
    change view.received ++ view.toClient ++ [] = view.answers
    rw [untouched.received, untouched.toClient, untouched.answers]
    rfl
  delivered := ok.delivered

/-- A request that is handled. -/
theorem ok_answered {view : View Response} (ok : view.Ok) {pipeInst : PipeInstance Response}
    (live : view.pipeInst = some pipeInst) (reading : view.outstanding = some .read)
    {message : Message} {rest : List Message} (head : view.toServer = message :: rest)
    (response : Response) :
    View.Ok { view with
      pipeInst := some { response := response }
      outstanding := some .write
      toServer := rest
      requests := view.requests ++ [message]
      kept := response
      answers := view.answers ++ [response] } := by
  have some : view.pipeInst.isSome = true := by rw [live]; rfl
  have opened := ok.opened some
  have messages := ok.messages opened
  rw [head] at messages
  have answering := ok.answering some
  rw [View.writing, reading, if_neg (by decide), List.append_nil] at answering
  have longer : (view.requests ++ [message]) ++ rest = view.written := by
    rw [List.append_assoc]
    exact messages
  constructor
  · rfl
  · exact fun _ => opened
  · intro other same
    rw [← Option.some.inj same]
  · exact fun _ => longer
  · exact ⟨rest, longer⟩
  · intro _
    change view.received ++ view.toClient ++ [response] = view.answers ++ [response]
    rw [answering]
  · change view.received ++ view.toClient <+: view.answers ++ [response]
    rw [answering]
    exact List.prefix_append _ _

/-- A write that completes. -/
theorem ok_written {view : View Response} (ok : view.Ok) {pipeInst : PipeInstance Response}
    (live : view.pipeInst = some pipeInst) (writing : view.outstanding = some .write) :
    View.Ok { view with
      outstanding := some .read
      toClient := view.toClient ++ [pipeInst.response] } := by
  have some : view.pipeInst.isSome = true := by rw [live]; rfl
  have answering := ok.answering some
  rw [View.writing, writing, if_pos rfl, live] at answering
  have all : view.received ++ (view.toClient ++ [pipeInst.response]) = view.answers := by
    rw [← List.append_assoc]
    exact answering
  constructor
  · exact some.symm
  · exact ok.opened
  · exact ok.buffer
  · exact ok.messages
  · exact ok.order
  · intro _
    change view.received ++ (view.toClient ++ [pipeInst.response]) ++ [] = view.answers
    rw [List.append_nil, all]
  · exact all ▸ List.prefix_refl _

/-! ### One step -/

/-- A step that concerns one pipe. -/
theorem serves_at {driver : Driver} {before after : State Driver Response}
    (serves : Serves requestSize blank handleRequest driver before) (pipe : Nat)
    (sound : after.crashed = false)
    (shared : after.driver = (served blank handleRequest driver after.handled).shared)
    (whole : ∀ entry ∈ after.handled, entry.2.length = requestSize)
    (next : ∀ other, after.nextPipe = some other → other < after.handles)
    (narrow : ∀ other, Fresh after other → Fresh before other)
    (others : ∀ other, other ≠ pipe → view blank handleRequest driver after other =
      view blank handleRequest driver before other)
    (ok : (view blank handleRequest driver after pipe).Ok)
    (fresh : Fresh after pipe → (view blank handleRequest driver after pipe).Untouched blank) :
    Serves requestSize blank handleRequest driver after := by
  refine ⟨sound, shared, whole, next, fun other => ?_, fun other unused => ?_⟩
  · by_cases same : other = pipe
    · exact same ▸ ok
    · rw [others other same]
      exact serves.pipes other
  · by_cases same : other = pipe
    · exact same ▸ fresh (same ▸ unused)
    · rw [others other same]
      exact serves.fresh other (narrow other unused)

/-- A pipe with an instance is not fresh. -/
theorem not_fresh {driver : Driver} {state : State Driver Response}
    (serves : Serves requestSize blank handleRequest driver state) {pipe : Nat}
    {pipeInst : PipeInstance Response} (live : state.pipes pipe = some pipeInst) :
    ¬Fresh state pipe :=
  fun unused => absurd (live.symm.trans (serves.fresh pipe unused).pipeInst)
    (Option.some_ne_none _)

theorem serves_close {driver : Driver} {state : State Driver Response}
    (serves : Serves requestSize blank handleRequest driver state) {pipe : Nat}
    (used : ¬Fresh state pipe) :
    Serves requestSize blank handleRequest driver
      (closePipeInstance pipe (complete pipe state)) := by
  refine serves_at serves pipe serves.sound serves.shared serves.whole serves.next
    (fun _ unused => unused) (fun other different => ?_) ?_ fun unused => absurd unused used
  · simp only [view, closePipeInstance, complete, Function.update_of_ne different]
  · have closed := ok_closed (serves.pipes pipe)
    simpa only [view, closePipeInstance, complete, Function.update_self] using closed

theorem complete_startOrClose (pipe : Nat) (operation : Operation)
    (state : State Driver Response) :
    complete pipe (startOrClose pipe true operation (complete pipe state)) =
      complete pipe state := by
  rw [startOrClose, if_pos rfl, complete, complete, Function.update_idem, Function.update_idem]

/-- An operation that could not start closes the instance as one that failed. -/
theorem serves_startOrClose {driver : Driver} {state : State Driver Response} {pipe : Nat}
    {operation : Operation} (used : ¬Fresh state pipe)
    (serves : Serves requestSize blank handleRequest driver
      (startOrClose pipe true operation (complete pipe state))) (starts : Bool) :
    Serves requestSize blank handleRequest driver
      (startOrClose pipe starts operation (complete pipe state)) := by
  cases starts with
  | true => exact serves
  | false =>
    have closed := serves_close serves used
    rw [complete_startOrClose] at closed
    exact closed

theorem serves_answered {driver : Driver} {state : State Driver Response}
    (serves : Serves requestSize blank handleRequest driver state) {pipe : Nat}
    {pipeInst : PipeInstance Response} (live : state.pipes pipe = some pipeInst)
    (reading : state.outstanding pipe = some .read) {message : Message} {rest : List Message}
    (head : state.toServer pipe = message :: rest) (sized : message.length = requestSize) :
    Serves requestSize blank handleRequest driver
      (startOrClose pipe true .write
        (complete pipe (answer handleRequest pipe pipeInst message rest state))) := by
  have buffer : pipeInst.response = (served blank handleRequest driver state.handled).kept pipe :=
    (serves.pipes pipe).buffer pipeInst live
  have more : served blank handleRequest driver (state.handled ++ [(pipe, message)]) =
      (served blank handleRequest driver state.handled).request (service handleRequest) pipe
        message := serve_concat _ _ _ _ _
  have done : handleRequest state.driver pipeInst.response message =
      handleRequest (served blank handleRequest driver state.handled).shared
        ((served blank handleRequest driver state.handled).kept pipe) message := by
    rw [buffer, serves.shared]
  refine serves_at serves pipe serves.sound ?_ ?_ serves.next (fun _ unused => unused)
    (fun other different => ?_) ?_ fun unused => absurd unused (not_fresh serves live)
  · change (handleRequest state.driver pipeInst.response message).1 =
      (served blank handleRequest driver (state.handled ++ [(pipe, message)])).shared
    rw [more, done]
    rfl
  · intro entry member
    rcases List.mem_append.mp member with earlier | last
    · exact serves.whole entry earlier
    · rw [List.mem_singleton.mp last]
      exact sized
  · simp only [view, startOrClose, answer, complete, if_pos, Function.update_of_ne different, more,
      request_kept_other _ different, request_answers_other _ different,
      requestsOf_concat_other different.symm]
  · have answered := ok_answered (serves.pipes pipe) live reading head
      (handleRequest state.driver pipeInst.response message).2
    have kept : ((served blank handleRequest driver state.handled).request
        (service handleRequest) pipe message).kept pipe =
          (handleRequest state.driver pipeInst.response message).2 := by
      rw [request_kept_self, done]
      rfl
    have answers : ((served blank handleRequest driver state.handled).request
        (service handleRequest) pipe message).answers pipe =
          (served blank handleRequest driver state.handled).answers pipe ++
            [(handleRequest state.driver pipeInst.response message).2] := by
      rw [request_answers_self, done]
      rfl
    simpa only [view, startOrClose, answer, complete, if_pos, Function.update_self, more, kept,
      answers, requestsOf_concat_self] using answered

theorem serves_written {driver : Driver} {state : State Driver Response}
    (serves : Serves requestSize blank handleRequest driver state) {pipe : Nat}
    {pipeInst : PipeInstance Response} (live : state.pipes pipe = some pipeInst)
    (writing : state.outstanding pipe = some .write) :
    Serves requestSize blank handleRequest driver
      (startOrClose pipe true .read (complete pipe { state with
        toClient := Function.update state.toClient pipe
          (state.toClient pipe ++ [pipeInst.response]) })) := by
  refine serves_at serves pipe serves.sound serves.shared serves.whole serves.next
    (fun _ unused => unused) (fun other different => ?_) ?_
    fun unused => absurd unused (not_fresh serves live)
  · simp only [view, startOrClose, complete, if_pos, Function.update_of_ne different]
  · have written := ok_written (serves.pipes pipe) live writing
    simpa only [view, startOrClose, complete, if_pos, Function.update_self] using written

/-- A client that connected gets an instance. -/
theorem serves_accepted {driver : Driver} {state : State Driver Response}
    (serves : Serves requestSize blank handleRequest driver state) {pipe : Nat}
    (next : state.nextPipe = some pipe) :
    Serves requestSize blank handleRequest driver
      (startOrClose pipe true .read (complete pipe { state with
        nextPipe := none
        pipes := Function.update state.pipes pipe (some { response := blank }) })) := by
  have untouched := serves.fresh pipe (Or.inr next)
  have below := serves.next pipe next
  refine serves_at serves pipe serves.sound serves.shared serves.whole
    (fun _ absent => absurd absent (Option.some_ne_none _).symm)
    (fun other unused => Or.inl (unused.resolve_right (Option.some_ne_none _).symm))
    (fun other different => ?_) ?_
    fun unused => absurd below (not_lt.mpr (unused.resolve_right (Option.some_ne_none _).symm))
  · simp only [view, startOrClose, complete, if_pos, Function.update_of_ne different]
  · have accepted := ok_untouched untouched (serves.pipes pipe)
    simpa only [view, startOrClose, complete, if_pos, Function.update_self] using accepted

/-- The next pipe starts out untouched, and one that fails is closed. -/
theorem serves_create {driver : Driver} {state : State Driver Response}
    (serves : Serves requestSize blank handleRequest driver state) (connecting : Connecting) :
    Serves requestSize blank handleRequest driver
      (createAndConnectInstance connecting state) := by
  have listens (pipe : Nat) (next : some state.handles = some pipe) : pipe < state.handles + 1 := by
    rw [← Option.some.inj next]
    exact Nat.lt_succ_self _
  have fresh (pipe : Nat) (unused : state.handles + 1 ≤ pipe ∨ some state.handles = some pipe) :
      (view blank handleRequest driver state pipe).Untouched blank := by
    refine serves.fresh pipe (Or.inl ?_)
    rcases unused with later | next
    · exact (Nat.le_succ _).trans later
    · exact (Option.some.inj next).le
  cases connecting with
  | notCreated =>
    refine ⟨serves.sound, serves.shared, serves.whole,
      fun _ absent => absurd absent (Option.some_ne_none _).symm, serves.pipes,
      fun pipe unused => ?_⟩
    exact serves.fresh pipe (Or.inl (unused.resolve_right (Option.some_ne_none _).symm))
  | pending => exact ⟨serves.sound, serves.shared, serves.whole, listens, serves.pipes, fresh⟩
  | connected => exact ⟨serves.sound, serves.shared, serves.whole, listens, serves.pipes, fresh⟩
  | failed =>
    have pipeInst : state.pipes state.handles = none :=
      (serves.fresh state.handles (Or.inl le_rfl)).pipeInst
    obtain ⟨live, -, buffer, -, order, answering, delivered⟩ := serves.pipes state.handles
    refine serves_at serves state.handles serves.sound serves.shared serves.whole
      (fun _ absent => absurd absent (Option.some_ne_none _).symm)
      (fun other unused =>
        Or.inl ((Nat.le_succ _).trans (unused.resolve_right (Option.some_ne_none _).symm)))
      (fun other different => ?_) ?_
      fun unused => absurd (unused.resolve_right (Option.some_ne_none _).symm)
        (Nat.not_succ_le_self _)
    · simp only [view, createAndConnectInstance, Function.update_of_ne different]
    · refine ⟨live, fun some => ?_, buffer, fun opened => ?_, order, answering, delivered⟩
      · change (state.pipes state.handles).isSome = true at some
        rw [pipeInst] at some
        exact absurd some Bool.false_ne_true
      · change Function.update state.closed state.handles true state.handles = false at opened
        rw [Function.update_self] at opened
        exact absurd opened Bool.true_eq_false.mp

theorem serves_endThread {driver : Driver} {state : State Driver Response}
    (serves : Serves requestSize blank handleRequest driver state) :
    Serves requestSize blank handleRequest driver (endThread state) := by
  refine ⟨serves.sound, serves.shared, serves.whole, serves.next, fun pipe => ?_,
    fun pipe unused => ?_⟩
  · cases live : state.pipes pipe with
    | some pipeInst =>
      have closed := ok_closed (serves.pipes pipe)
      simpa only [view, endThread, live, Option.isSome_some, Bool.or_true, if_pos] using closed
    | none =>
      obtain ⟨-, -, -, messages, order, -, delivered⟩ := serves.pipes pipe
      simp only [view, endThread, live, Option.isSome_none, Bool.or_false]
      exact ⟨rfl, fun absent => absurd absent Bool.false_ne_true,
        fun _ absent => absurd absent (Option.some_ne_none _).symm, messages, order,
        fun absent => absurd absent Bool.false_ne_true, delivered⟩
  · obtain ⟨pipeInst, opened, toClient, received, requests, kept, answers⟩ :=
      serves.fresh pipe unused
    change state.pipes pipe = none at pipeInst
    simp only [view, endThread, pipeInst, Option.isSome_none, Bool.or_false]
    exact ⟨rfl, opened, toClient, received, requests, kept, answers⟩

theorem serves_unlisten {driver : Driver} {state : State Driver Response}
    (serves : Serves requestSize blank handleRequest driver state) :
    Serves requestSize blank handleRequest driver { state with nextPipe := none } :=
  ⟨serves.sound, serves.shared, serves.whole,
    fun _ absent => absurd absent (Option.some_ne_none _).symm, serves.pipes,
    fun pipe unused => serves.fresh pipe
      (Or.inl (unused.resolve_right (Option.some_ne_none _).symm))⟩

/-- No operation is outstanding on a pipe without an instance. -/
theorem complete_idle {driver : Driver} {state : State Driver Response}
    (serves : Serves requestSize blank handleRequest driver state) {pipe : Nat}
    (absent : state.pipes pipe = none) : complete pipe state = state := by
  have live : (state.outstanding pipe).isSome = (state.pipes pipe).isSome :=
    (serves.pipes pipe).live
  rw [absent] at live
  have idle : none = state.outstanding pipe := (Option.isSome_eq_false_iff.mp live |>
    Option.isNone_iff_eq_none.mp).symm
  rw [complete, idle, Function.update_eq_self]

theorem serves_abandon {driver : Driver} {state : State Driver Response}
    (serves : Serves requestSize blank handleRequest driver state) :
    Serves requestSize blank handleRequest driver (abandon state) := by
  rw [abandon]
  cases next : state.nextPipe with
  | none => exact serves_endThread serves
  | some pipe =>
    have quiet := serves_unlisten serves
    have absent : state.pipes pipe = none := (serves.fresh pipe (Or.inr next)).pipeInst
    have used : ¬Fresh { state with nextPipe := none } pipe := fun unused =>
      absurd (serves.next pipe next)
        (not_lt.mpr (unused.resolve_right (Option.some_ne_none _).symm))
    have closed := serves_close quiet used
    rw [complete_idle quiet absent] at closed
    exact serves_endThread closed

/-- A client writes. -/
theorem serves_send {driver : Driver} {state : State Driver Response}
    (serves : Serves requestSize blank handleRequest driver state) {pipe : Nat}
    (opened : state.closed pipe = false) (message : Message) :
    Serves requestSize blank handleRequest driver
      { state with
        toServer := Function.update state.toServer pipe (state.toServer pipe ++ [message])
        written := Function.update state.written pipe (state.written pipe ++ [message]) } := by
  obtain ⟨live, open_, buffer, messages, order, answering, delivered⟩ := serves.pipes pipe
  refine serves_at serves pipe serves.sound serves.shared serves.whole serves.next
    (fun _ unused => unused) (fun other different => ?_) ?_ fun unused => ?_
  · simp only [view, Function.update_of_ne different]
  · refine ⟨live, open_, buffer, fun _ => ?_, ?_, answering, delivered⟩
    · simp only [view, Function.update_self]
      rw [← List.append_assoc]
      exact congrArg (· ++ [message]) (messages opened)
    · simp only [view, Function.update_self]
      exact order.trans (List.prefix_append _ _)
  · obtain ⟨pipeInst, opened, toClient, received, requests, kept, answers⟩ :=
      serves.fresh pipe unused
    exact ⟨pipeInst, opened, toClient, received, requests, kept, answers⟩

/-- A client reads. -/
theorem serves_receive {driver : Driver} {state : State Driver Response}
    (serves : Serves requestSize blank handleRequest driver state) {pipe : Nat}
    {response : Response} {rest : List Response} (head : state.toClient pipe = response :: rest) :
    Serves requestSize blank handleRequest driver
      { state with
        toClient := Function.update state.toClient pipe rest
        received := Function.update state.received pipe (state.received pipe ++ [response]) } := by
  obtain ⟨live, opened, buffer, messages, order, answering, delivered⟩ := serves.pipes pipe
  have same : state.received pipe ++ [response] ++ rest =
      state.received pipe ++ state.toClient pipe := by
    rw [head, List.append_assoc]
    rfl
  refine serves_at serves pipe serves.sound serves.shared serves.whole serves.next
    (fun _ unused => unused) (fun other different => ?_) ?_ fun unused => ?_
  · simp only [view, Function.update_of_ne different]
  · refine ⟨live, opened, buffer, messages, order, fun some => ?_, ?_⟩
    · simp only [view, Function.update_self]
      rw [same]
      exact answering some
    · simp only [view, Function.update_self]
      rw [same]
      exact delivered
  · have toClient : state.toClient pipe = [] := (serves.fresh pipe unused).toClient
    exact absurd (head.symm.trans toClient) (List.cons_ne_nil _ _)

theorem createAndConnectInstance_unlisten (connecting : Connecting)
    (state : State Driver Response) (pipe : Nat) (starts : Bool) :
    createAndConnectInstance connecting (startOrClose pipe starts .read state) =
      createAndConnectInstance connecting
        (startOrClose pipe starts .read { state with nextPipe := none }) := by
  cases starts <;> cases connecting <;> rfl

theorem serves_connect {driver : Driver} {before after : State Driver Response}
    {succeeds readStarts : Bool} {connecting : Connecting}
    (serves : Serves requestSize blank handleRequest driver before)
    (stepped : step requestSize blank handleRequest before
      (.connect succeeds readStarts connecting) = some after) :
    Serves requestSize blank handleRequest driver after := by
  rw [step] at stepped
  split at stepped
  · exact absurd stepped.symm (Option.some_ne_none _)
  split at stepped
  · obtain rfl := Option.some.inj stepped
    exact serves_abandon serves
  cases next : before.nextPipe with
  | none =>
    rw [next] at stepped
    obtain rfl := Option.some.inj stepped
    exact serves_create serves connecting
  | some pipe =>
    rw [next] at stepped
    obtain rfl := Option.some.inj stepped
    have accepted := serves_accepted serves next
    have absent : before.pipes pipe = none := (serves.fresh pipe (Or.inr next)).pipeInst
    have idle := complete_idle serves absent
    have used : ¬Fresh { before with
        nextPipe := none
        pipes := Function.update before.pipes pipe (some { response := blank }) } pipe :=
      fun unused => absurd (serves.next pipe next)
        (not_lt.mpr (unused.resolve_right (Option.some_ne_none _).symm))
    have started := serves_startOrClose used accepted readStarts
    have quiet : before.outstanding = Function.update before.outstanding pipe none :=
      (congrArg State.outstanding idle).symm
    rw [complete] at started
    dsimp only at started ⊢
    rw [← quiet] at started
    rw [completedWriteCallback, Bool.not_false, Bool.true_and,
      createAndConnectInstance_unlisten]
    exact serves_create started connecting

theorem serves_completedRead {driver : Driver} {before after : State Driver Response}
    {pipe : Nat} {err writeStarts : Bool}
    (serves : Serves requestSize blank handleRequest driver before)
    (stepped : step requestSize blank handleRequest before
      (.completedRead pipe err writeStarts) = some after) :
    Serves requestSize blank handleRequest driver after := by
  rw [step] at stepped
  split at stepped
  case isFalse => exact absurd stepped.symm (Option.some_ne_none _)
  case isTrue reading =>
    have live : (before.outstanding pipe).isSome = (before.pipes pipe).isSome :=
      (serves.pipes pipe).live
    rw [reading] at live
    obtain ⟨pipeInst, instance_⟩ := Option.isSome_iff_exists.mp live.symm
    have used := not_fresh serves instance_
    rw [instance_] at stepped
    cases head : before.toServer pipe with
    | nil =>
      rw [head] at stepped
      dsimp only at stepped
      split_ifs at stepped
      obtain rfl := Option.some.inj stepped
      exact serves_close serves used
    | cons message rest =>
      rw [head] at stepped
      dsimp only at stepped
      split at stepped
      · obtain rfl := Option.some.inj stepped
        exact serves_close serves used
      · obtain rfl := Option.some.inj stepped
        rw [completedReadCallback]
        split_ifs with sized
        · have later : ¬Fresh (answer handleRequest pipe pipeInst message rest before) pipe := used
          exact serves_startOrClose later (serves_answered serves instance_ reading head sized)
            writeStarts
        · exact serves_close serves used

theorem serves_completedWrite {driver : Driver} {before after : State Driver Response}
    {pipe : Nat} {err readStarts : Bool}
    (serves : Serves requestSize blank handleRequest driver before)
    (stepped : step requestSize blank handleRequest before
      (.completedWrite pipe err readStarts) = some after) :
    Serves requestSize blank handleRequest driver after := by
  rw [step] at stepped
  split at stepped
  case isFalse => exact absurd stepped.symm (Option.some_ne_none _)
  case isTrue writing =>
    have live : (before.outstanding pipe).isSome = (before.pipes pipe).isSome :=
      (serves.pipes pipe).live
    rw [writing] at live
    obtain ⟨pipeInst, instance_⟩ := Option.isSome_iff_exists.mp live.symm
    have used := not_fresh serves instance_
    rw [instance_] at stepped
    obtain rfl := Option.some.inj stepped
    cases err with
    | true => exact serves_close serves used
    | false =>
      have later : ¬Fresh { before with
          toClient := Function.update before.toClient pipe
            (before.toClient pipe ++ [pipeInst.response]) } pipe := used
      exact serves_startOrClose later (serves_written serves instance_ writing) readStarts

/-- Every step keeps the server in order. -/
theorem serves_step {driver : Driver} {before after : State Driver Response} {event : Event}
    (serves : Serves requestSize blank handleRequest driver before)
    (stepped : step requestSize blank handleRequest before event = some after) :
    Serves requestSize blank handleRequest driver after := by
  cases event with
  | start connecting =>
    rw [step] at stepped
    split_ifs at stepped with idle
    obtain rfl := Option.some.inj stepped
    exact serves_create serves connecting
  | stop =>
    rw [step] at stepped
    split_ifs at stepped with runs
    obtain rfl := Option.some.inj stepped
    exact serves_endThread serves
  | send pipe message =>
    rw [step] at stepped
    split_ifs at stepped with sends
    obtain rfl := Option.some.inj stepped
    exact serves_send serves sends.2 message
  | receive pipe =>
    rw [step] at stepped
    cases head : before.toClient pipe with
    | nil =>
      rw [head] at stepped
      exact absurd stepped.symm (Option.some_ne_none _)
    | cons response rest =>
      rw [head] at stepped
      obtain rfl := Option.some.inj stepped
      exact serves_receive serves head
  | connect succeeds readStarts connecting => exact serves_connect serves stepped
  | completedRead pipe err writeStarts => exact serves_completedRead serves stepped
  | completedWrite pipe err readStarts => exact serves_completedWrite serves stepped

/-! ### Every run -/

/-- What the clients see of a server: their requests and answers are those of a driver that takes
whole requests one after the other, in the order each client wrote them. -/
structure Sequential (requestSize : Nat) (blank : Response)
    (handleRequest : Driver → Response → Message → Driver × Response) (driver : Driver)
    (state : State Driver Response) : Prop where
  sound : state.crashed = false
  shared : state.driver = (served blank handleRequest driver state.handled).shared
  whole : ∀ entry ∈ state.handled, entry.2.length = requestSize
  order : ∀ pipe, requestsOf pipe state.handled <+: state.written pipe
  answers : ∀ pipe,
    state.received pipe <+: (served blank handleRequest driver state.handled).answers pipe
  one : ∀ pipe, (state.received pipe).length ≤ (requestsOf pipe state.handled).length
  live : ∀ pipe, (state.outstanding pipe).isSome = (state.pipes pipe).isSome

theorem serves_start (driver : Driver) :
    Serves requestSize blank handleRequest driver { driver := driver } where
  sound := rfl
  shared := rfl
  whole := fun _ member => absurd member List.not_mem_nil
  next := fun _ absent => absurd absent (Option.some_ne_none _).symm
  pipes := fun _ =>
    ⟨rfl, fun absent => absurd absent Bool.false_ne_true,
      fun _ absent => absurd absent (Option.some_ne_none _).symm, fun _ => rfl,
      List.prefix_refl _, fun absent => absurd absent Bool.false_ne_true, List.prefix_refl _⟩
  fresh := fun _ _ => ⟨rfl, rfl, rfl, rfl, rfl, rfl, rfl⟩

theorem Serves.sequential {driver : Driver} {state : State Driver Response}
    (serves : Serves requestSize blank handleRequest driver state) :
    Sequential requestSize blank handleRequest driver state := by
  have answers (pipe : Nat) : state.received pipe <+:
      (served blank handleRequest driver state.handled).answers pipe :=
    (List.prefix_append _ _).trans (serves.pipes pipe).delivered
  refine ⟨serves.sound, serves.shared, serves.whole, fun pipe => (serves.pipes pipe).order,
    answers, fun pipe => ?_, fun pipe => (serves.pipes pipe).live⟩
  rw [← length_answers (service handleRequest) driver blank state.handled pipe]
  exact (answers pipe).length_le

/-- In every run, with clients that come, write, read and fail in any order, the server is a
sequential driver, no completion meets a freed instance, and no answer goes astray. -/
theorem server_sequential {driver : Driver} {state : State Driver Response}
    (reached : Reaches (step requestSize blank handleRequest) (fun _ _ => True)
      { driver := driver } state) :
    Sequential requestSize blank handleRequest driver state :=
  (reached.invariant (serves_start driver)
    fun _ _ _ serves _ stepped => serves_step serves stepped).sequential

end Server

/-- A driver that counts requests, and two clients of which the second writes half a request. -/
def counting (driver : Nat) (_ : Nat) (message : Message) : Nat × Nat :=
  (driver + message.length, driver)

def twoClients : List Event :=
  [.start .pending, .connect true true .connected, .connect true true .pending,
    .send 1 [1], .send 0 [2, 3], .send 0 [4, 5], .completedRead 0 false true,
    .completedRead 1 false true, .completedWrite 0 false true, .completedRead 0 false true,
    .receive 0, .completedWrite 0 false true, .receive 0]

theorem server_sequential_twoClients :
    ∃ state, Reaches (step 2 0 counting) (fun _ _ => True) { driver := 0 } state ∧
      (state.received 0 = [0, 2] ∧ state.received 1 = [] ∧ state.closed 1 = true) ∧
      Sequential 2 0 counting 0 state := by
  obtain ⟨state, reached, seen⟩ : ∃ state,
      Reaches (step 2 0 counting) (fun _ _ => True) { driver := 0 } state ∧
        (state.received 0 = [0, 2] ∧ state.received 1 = [] ∧ state.closed 1 = true) :=
    reaches_evaluates twoClients (by decide +kernel)
  exact ⟨state, reached, seen, server_sequential reached⟩

end PairDriver.PipeServer
