/-
This file models the pipe client the overlay's plugins share: `Connect` with its
handshake, and `SendBlocking`, which connects again and sends once more when the
pipe turns out to be broken. The driver at the other end is any state with a
handler; it may be replaced by a blank one before every operation, and every
operation may fail. The one result the proofs use says what a call can have done:
an answer comes from the driver that now runs, over a pipe that leads to it, an
error leaves the pipe closed, and without a new connection the driver is the one
from before.
-/

import Mathlib

namespace PairDriver.Ipc

/-- What happens at one operation on the pipe. The driver may be restarted before it. The operation
works or fails; a failure is that of a broken pipe or another one, and a request may have arrived
although its answer is lost. A handshake tells whether both ends speak the same version. -/
structure Answer where
  restarts : Bool := false
  works : Bool := true
  broken : Bool := true
  arrives : Bool := false
  sameVersion : Bool := true
deriving DecidableEq

/-- The outcome of `Send` and `Receive`. -/
inductive Transferred where
  | answered
  | broken
  | failed
deriving DecidableEq

/-- The client's pipe, which leads to one process of the driver, the number of its connections, and
the driver that runs. -/
structure Link (Driver : Type) where
  pipe : Option Nat := none
  generation : Nat := 0
  driver : Driver
  process : Nat := 0

/-- What happens while a broken pipe is connected again. -/
structure Reopening where
  opening : Answer := {}
  handshake : Answer := {}
deriving DecidableEq

/-- What happens while a request is sent over an open pipe. -/
structure Exchange where
  first : Answer := {}
  reopening : Reopening := {}
  second : Answer := {}
deriving DecidableEq

/-- What happens while a closed pipe is connected. -/
structure Connecting where
  opening : Answer := {}
  handshake : Exchange := {}
  sameVersion : Bool := true
deriving DecidableEq

/-- What happens during one call of `SendBlocking`. -/
structure Sending where
  connecting : Connecting := {}
  exchange : Exchange := {}
deriving DecidableEq

section Client

variable {Driver Request : Type} (blank : Driver) (handle : Request → Driver → Driver)

/-- A handshake leaves the driver as it is. -/
def apply : Option Request → Driver → Driver
  | none, driver => driver
  | some request, driver => handle request driver

/-- A freshly started driver takes the place of the one that ran. -/
def Link.restart (link : Link Driver) : Link Driver :=
  { link with driver := blank, process := link.process + 1 }

def Link.prepare (answer : Answer) (link : Link Driver) : Link Driver :=
  if answer.restarts then link.restart blank else link

/-- The pipe leads to the driver that runs. -/
def Link.Alive (link : Link Driver) : Prop :=
  link.pipe = some link.process

instance (link : Link Driver) : Decidable link.Alive :=
  inferInstanceAs (Decidable (_ = _))

def Link.close (link : Link Driver) : Link Driver :=
  { link with pipe := none }

/-- The pipe is opened and put into message mode. -/
def Link.open (answer : Answer) (link : Link Driver) : Link Driver :=
  let prepared := link.prepare blank answer
  if answer.works then { prepared with pipe := some prepared.process } else prepared.close

/-- `Send` and `Receive` on an open pipe: an error closes it. -/
def Link.transfer (answer : Answer) (request : Option Request) (link : Link Driver) :
    Transferred × Link Driver :=
  let prepared := link.prepare blank answer
  let error := if answer.broken then Transferred.broken else .failed
  if prepared.Alive then
    if answer.works then
      (.answered, { prepared with driver := apply handle request prepared.driver })
    else if answer.arrives then
      (error, { prepared.close with driver := apply handle request prepared.driver })
    else (error, prepared.close)
  else (error, prepared.close)

/-- A connection that was checked counts as a new one; another version is closed. -/
def Link.connected (sameVersion : Bool) (link : Link Driver) : Bool × Link Driver :=
  if sameVersion then (true, { link with generation := link.generation + 1 })
  else (false, link.close)

/-- `Connect` while a broken pipe is repaired: its handshake is not sent again. -/
def Link.reconnect (answers : Reopening) (link : Link Driver) : Bool × Link Driver :=
  let opened := link.open blank answers.opening
  if opened.pipe = none then (false, opened)
  else
    match opened.transfer blank handle answers.handshake none with
    | (.answered, shaken) => shaken.connected answers.handshake.sameVersion
    | (_, shaken) => (false, shaken)

/-- `SendBlocking` on an open pipe: whether it returned, or threw. -/
def Link.exchange (answers : Exchange) (request : Option Request) (link : Link Driver) :
    Bool × Link Driver :=
  match link.transfer blank handle answers.first request with
  | (.answered, sent) => (true, sent)
  | (.failed, sent) => (false, sent)
  | (.broken, sent) =>
    match sent.reconnect blank handle answers.reopening with
    | (false, reopened) => (false, reopened)
    | (true, reopened) =>
      match reopened.transfer blank handle answers.second request with
      | (.answered, resent) => (true, resent)
      | (_, resent) => (false, resent)

/-- `Connect`: whether it returned, or threw. -/
def Link.connect (answers : Connecting) (link : Link Driver) : Bool × Link Driver :=
  let opened := link.open blank answers.opening
  if opened.pipe = none then (false, opened)
  else
    match opened.exchange blank handle answers.handshake none with
    | (true, shaken) => shaken.connected answers.sameVersion
    | (false, shaken) => (false, shaken)

/-- `SendBlocking`: whether it returned, or threw. -/
def Link.sendBlocking (answers : Sending) (request : Option Request) (link : Link Driver) :
    Bool × Link Driver :=
  if link.pipe = none then
    match link.connect blank handle answers.connecting with
    | (true, connected) => connected.exchange blank handle answers.exchange request
    | (false, failed) => (false, failed)
  else link.exchange blank handle answers.exchange request

/-! ### What an operation can have done -/

/-- A pipe never leads to a process that is still to come. -/
def Link.Formed (link : Link Driver) : Prop :=
  ∀ process ∈ link.pipe, process ≤ link.process

/-- What any operation leaves behind: the driver from before, or a blank one of a later process, to
which the request was applied a number of times. -/
structure Touched (request : Option Request) (count : Nat) (before after : Link Driver) : Prop where
  formed : after.Formed
  generation : before.generation ≤ after.generation
  driver : (after.process = before.process ∧
      after.driver = (apply handle request)^[count] before.driver) ∨
    (before.process < after.process ∧ after.driver = (apply handle request)^[count] blank)

variable {blank handle}

theorem Touched.process_le {request : Option Request} {count : Nat} {before after : Link Driver}
    (touched : Touched blank handle request count before after) :
    before.process ≤ after.process := by
  rcases touched.driver with ⟨same, _⟩ | ⟨later, _⟩
  · exact same.ge
  · exact later.le

/-- What happened before a request first arrives. -/
theorem Touched.after_idle {request : Option Request} {count : Nat}
    {before middle after : Link Driver} (idle : Touched blank handle request 0 before middle)
    (touched : Touched blank handle request count middle after) :
    Touched blank handle request count before after := by
  refine ⟨touched.formed, idle.generation.trans touched.generation, ?_⟩
  rcases touched.driver with ⟨sameProcess, applied⟩ | ⟨later, applied⟩
  · rcases idle.driver with ⟨same, earlier⟩ | ⟨restarted, earlier⟩
    · exact Or.inl ⟨sameProcess.trans same, applied.trans (congrArg _ earlier)⟩
    · exact Or.inr ⟨sameProcess ▸ restarted, applied.trans (congrArg _ earlier)⟩
  · exact Or.inr ⟨idle.process_le.trans_lt later, applied⟩

/-- Of two operations one after the other, a restart in the second makes the first forgotten. -/
theorem Touched.trans {request : Option Request} {first second : Nat}
    {before middle after : Link Driver} (one : Touched blank handle request first before middle)
    (two : Touched blank handle request second middle after) :
    ∃ count, second ≤ count ∧ Touched blank handle request count before after := by
  have generation := one.generation.trans two.generation
  rcases two.driver with ⟨sameProcess, applied⟩ | ⟨later, applied⟩
  · refine ⟨second + first, Nat.le_add_right _ _, two.formed, generation, ?_⟩
    rcases one.driver with ⟨same, earlier⟩ | ⟨restarted, earlier⟩
    · left
      exact ⟨sameProcess.trans same, by rw [applied, earlier, Function.iterate_add_apply]⟩
    · right
      exact ⟨sameProcess ▸ restarted, by rw [applied, earlier, Function.iterate_add_apply]⟩
  · exact ⟨second, le_rfl, two.formed, generation,
      Or.inr ⟨one.process_le.trans_lt later, applied⟩⟩

/-- What a handshake does is what any request does that never arrives. -/
theorem Touched.of_handshake {request : Option Request} {count : Nat} {before after : Link Driver}
    (touched : Touched blank handle none count before after) :
    Touched blank handle request 0 before after := by
  have idle : ∀ driver, (apply handle none)^[count] driver = driver := by
    intro driver
    show id^[count] driver = driver
    rw [Function.iterate_id, id]
  refine ⟨touched.formed, touched.generation, ?_⟩
  rcases touched.driver with ⟨same, applied⟩ | ⟨later, applied⟩
  · exact Or.inl ⟨same, applied.trans (idle _)⟩
  · exact Or.inr ⟨later, applied.trans (idle _)⟩

variable (blank handle) in
theorem prepare_touched (answer : Answer) (request : Option Request) {link : Link Driver}
    (formed : link.Formed) :
    Touched blank handle request 0 link (link.prepare blank answer) := by
  unfold Link.prepare
  split
  · refine ⟨fun process member => ?_, le_rfl, Or.inr ⟨Nat.lt_succ_self _, rfl⟩⟩
    exact (formed process member).trans (Nat.le_succ _)
  · exact ⟨formed, le_rfl, Or.inl ⟨rfl, rfl⟩⟩

theorem Touched.close {request : Option Request} {count : Nat} {before after : Link Driver}
    (touched : Touched blank handle request count before after) :
    Touched blank handle request count before after.close :=
  ⟨fun _ member => absurd member (Option.not_mem_none _), touched.generation, touched.driver⟩

variable (blank handle) in
/-- Opening leaves the pipe closed or leading to the driver that runs. -/
theorem open_touched (answer : Answer) (request : Option Request) {link : Link Driver}
    (formed : link.Formed) :
    Touched blank handle request 0 link (link.open blank answer) ∧
      ((link.open blank answer).pipe = none ∨ (link.open blank answer).Alive) := by
  have prepared := prepare_touched blank handle answer request formed
  unfold Link.open
  dsimp only
  split
  · refine ⟨⟨?_, prepared.generation, prepared.driver⟩, Or.inr rfl⟩
    rintro _ ⟨⟩
    exact le_rfl
  · exact ⟨prepared.close, Or.inl rfl⟩

/-- A process that has been restarted is not the one a pipe leads to. -/
theorem prepare_alive {answer : Answer} {link : Link Driver} (formed : link.Formed)
    (alive : (link.prepare blank answer).Alive) : link.Alive ∧ link.prepare blank answer = link := by
  unfold Link.prepare at alive ⊢
  split at alive
  · have above := formed _ alive
    exact absurd above (Nat.not_succ_le_self _)
  · rename_i running
    rw [if_neg running]
    exact ⟨alive, rfl⟩

/-- A transfer is answered over a pipe that was alive, and an error closes the pipe. -/
theorem transfer_touched {answer : Answer} {request : Option Request} {link after : Link Driver}
    {kind : Transferred} (formed : link.Formed)
    (moved : link.transfer blank handle answer request = (kind, after)) :
    (kind = .answered ∧ link.Alive ∧
        after = { link with driver := apply handle request link.driver }) ∨
      (kind ≠ .answered ∧ after.pipe = none ∧
        ∃ count, Touched blank handle request count link after) := by
  have prepared := prepare_touched blank handle answer request formed
  have error : (if answer.broken then Transferred.broken else .failed) ≠ .answered := by
    split <;> exact nofun
  unfold Link.transfer at moved
  dsimp only at moved
  split at moved
  · rename_i alive
    obtain ⟨before, same⟩ := prepare_alive formed alive
    rw [same] at moved
    split at moved
    · obtain ⟨rfl, rfl⟩ := Prod.mk.inj moved
      exact Or.inl ⟨rfl, before, rfl⟩
    · right
      split at moved
      · obtain ⟨rfl, rfl⟩ := Prod.mk.inj moved
        exact ⟨error, rfl, 1, fun _ member => absurd member (Option.not_mem_none _), le_rfl,
          Or.inl ⟨rfl, rfl⟩⟩
      · obtain ⟨rfl, rfl⟩ := Prod.mk.inj moved
        exact ⟨error, rfl, 0, fun _ member => absurd member (Option.not_mem_none _), le_rfl,
          Or.inl ⟨rfl, rfl⟩⟩
  · obtain ⟨rfl, rfl⟩ := Prod.mk.inj moved
    exact Or.inr ⟨error, rfl, 0, prepared.close⟩

/-- A connection that was checked is alive and new, and one of another version is closed. -/
theorem connected_touched {sameVersion ok : Bool} {request : Option Request}
    {before link after : Link Driver} (touched : Touched blank handle request 0 before link)
    (alive : link.Alive) (checked : link.connected sameVersion = (ok, after)) :
    Touched blank handle request 0 before after ∧
      ((ok = true ∧ after.Alive ∧ before.generation < after.generation) ∨
        (ok = false ∧ after.pipe = none)) := by
  unfold Link.connected at checked
  split at checked
  · obtain ⟨rfl, rfl⟩ := Prod.mk.inj checked
    exact ⟨⟨touched.formed, touched.generation.trans (Nat.le_succ _), touched.driver⟩,
      Or.inl ⟨rfl, alive, Nat.lt_succ_of_le touched.generation⟩⟩
  · obtain ⟨rfl, rfl⟩ := Prod.mk.inj checked
    exact ⟨touched.close, Or.inr ⟨rfl, rfl⟩⟩

/-- A pipe that is connected again leads to the driver that runs, and counts as a new connection. -/
theorem reconnect_touched {answers : Reopening} (request : Option Request)
    {link after : Link Driver} {ok : Bool} (formed : link.Formed)
    (moved : link.reconnect blank handle answers = (ok, after)) :
    Touched blank handle request 0 link after ∧
      ((ok = true ∧ after.Alive ∧ link.generation < after.generation) ∨
        (ok = false ∧ after.pipe = none)) := by
  obtain ⟨opened, pipe⟩ := open_touched blank handle answers.opening request formed
  unfold Link.reconnect at moved
  dsimp only at moved
  split at moved
  · rename_i none
    obtain ⟨rfl, rfl⟩ := Prod.mk.inj moved
    exact ⟨opened, Or.inr ⟨rfl, none⟩⟩
  · rename_i some
    have alive := pipe.resolve_left some
    cases shook : (link.open blank answers.opening).transfer blank handle answers.handshake none with
    | mk kind shaken =>
      rw [shook] at moved
      rcases transfer_touched opened.formed shook with
        ⟨rfl, _, rfl⟩ | ⟨error, closed, count, touched⟩
      · exact connected_touched opened alive moved
      · have failed : (false, shaken) = (ok, after) := by
          cases kind with
          | answered => exact absurd rfl error
          | broken | failed => exact moved
        obtain ⟨rfl, rfl⟩ := Prod.mk.inj failed
        exact ⟨opened.after_idle touched.of_handshake, Or.inr ⟨rfl, closed⟩⟩

/-- What a call of `SendBlocking` can have done. An answer comes over a pipe that leads to the driver
that runs, and an error leaves the pipe closed; without a new connection the pipe and the driver's
process are those from before. -/
structure Sent (blank : Driver) (handle : Request → Driver → Driver) (request : Option Request)
    (before : Link Driver) (ok : Bool) (after : Link Driver) : Prop where
  touched : ∃ count, (ok = true → 0 < count) ∧ Touched blank handle request count before after
  answered : ok = true → after.Alive
  closed : ok = false → after.pipe = none
  same : ok = true → after.generation = before.generation →
    before.Alive ∧ after = { before with driver := apply handle request before.driver }

/-- An error that closes the pipe. -/
theorem Sent.of_error {request : Option Request} {count : Nat} {before after : Link Driver}
    (touched : Touched blank handle request count before after) (closed : after.pipe = none) :
    Sent blank handle request before false after :=
  ⟨⟨count, nofun, touched⟩, nofun, fun _ => closed, nofun⟩

theorem Touched.apply {request : Option Request} {count : Nat} {before after : Link Driver}
    (touched : Touched blank handle request count before after) :
    Touched blank handle request (count + 1) before
      { after with driver := Ipc.apply handle request after.driver } := by
  refine ⟨touched.formed, touched.generation, ?_⟩
  rcases touched.driver with ⟨same, applied⟩ | ⟨later, applied⟩
  · exact Or.inl ⟨same, by rw [Function.iterate_succ_apply', ← applied]⟩
  · exact Or.inr ⟨later, by rw [Function.iterate_succ_apply', ← applied]⟩

theorem Touched.refl (request : Option Request) {link : Link Driver} (formed : link.Formed) :
    Touched blank handle request 0 link link :=
  ⟨formed, le_rfl, Or.inl ⟨rfl, rfl⟩⟩

theorem exchange_sent {answers : Exchange} {request : Option Request} {link after : Link Driver}
    {ok : Bool} (formed : link.Formed)
    (moved : link.exchange blank handle answers request = (ok, after)) :
    Sent blank handle request link ok after := by
  unfold Link.exchange at moved
  cases tried : link.transfer blank handle answers.first request with
  | mk kind sent =>
    rw [tried] at moved
    rcases transfer_touched formed tried with ⟨rfl, alive, rfl⟩ | ⟨error, closed, count, touched⟩
    · obtain ⟨rfl, rfl⟩ := Prod.mk.inj moved
      exact ⟨⟨1, fun _ => Nat.one_pos, (Touched.refl request formed).apply⟩, fun _ => alive, nofun,
        fun _ _ => ⟨alive, rfl⟩⟩
    cases kind with
    | answered => exact absurd rfl error
    | failed =>
      obtain ⟨rfl, rfl⟩ := Prod.mk.inj moved
      exact Sent.of_error touched closed
    | broken =>
      dsimp only at moved
      cases again : sent.reconnect blank handle answers.reopening with
      | mk repaired reopened =>
        rw [again] at moved
        obtain ⟨idle, outcome⟩ := reconnect_touched request touched.formed again
        obtain ⟨before, _, reopenedTouched⟩ := touched.trans idle
        rcases outcome with ⟨rfl, alive, newer⟩ | ⟨rfl, shut⟩
        · dsimp only at moved
          cases retried : reopened.transfer blank handle answers.second request with
          | mk kind resent =>
            rw [retried] at moved
            rcases transfer_touched idle.formed retried with
              ⟨rfl, _, rfl⟩ | ⟨error, closed, count, touchedAgain⟩
            · obtain ⟨rfl, rfl⟩ := Prod.mk.inj moved
              refine ⟨⟨before + 1, fun _ => Nat.succ_pos _, reopenedTouched.apply⟩, fun _ => alive,
                nofun, fun _ stale => ?_⟩
              exact absurd (stale ▸ newer) (Nat.not_lt.mpr touched.generation)
            · have failed : (false, resent) = (ok, after) := by
                cases kind with
                | answered => exact absurd rfl error
                | broken | failed => exact moved
              obtain ⟨rfl, rfl⟩ := Prod.mk.inj failed
              obtain ⟨total, _, all⟩ := reopenedTouched.trans touchedAgain
              exact Sent.of_error all closed
        · obtain ⟨rfl, rfl⟩ := Prod.mk.inj moved
          exact Sent.of_error reopenedTouched shut

/-- A handshake that was answered has left the driver as it was. -/
theorem Sent.of_handshake {before after : Link Driver} {ok : Bool}
    (sent : Sent blank handle none before ok after) (request : Option Request) :
    Touched blank handle request 0 before after := by
  obtain ⟨_, _, touched⟩ := sent.touched
  exact touched.of_handshake

/-- A connection leads to the driver that runs and counts as a new one. -/
theorem connect_touched {answers : Connecting} (request : Option Request)
    {link after : Link Driver} {ok : Bool} (formed : link.Formed)
    (moved : link.connect blank handle answers = (ok, after)) :
    Touched blank handle request 0 link after ∧
      ((ok = true ∧ after.Alive ∧ link.generation < after.generation) ∨
        (ok = false ∧ after.pipe = none)) := by
  obtain ⟨opened, pipe⟩ := open_touched blank handle answers.opening request formed
  unfold Link.connect at moved
  dsimp only at moved
  split at moved
  · rename_i none
    obtain ⟨rfl, rfl⟩ := Prod.mk.inj moved
    exact ⟨opened, Or.inr ⟨rfl, none⟩⟩
  · cases shook : (link.open blank answers.opening).exchange blank handle answers.handshake none with
    | mk answered shaken =>
      rw [shook] at moved
      have sent := exchange_sent opened.formed shook
      have touched := opened.after_idle (sent.of_handshake request)
      cases answered with
      | true => exact connected_touched touched (sent.answered rfl) moved
      | false =>
        obtain ⟨rfl, rfl⟩ := Prod.mk.inj moved
        exact ⟨touched, Or.inr ⟨rfl, sent.closed rfl⟩⟩

/-- The one rule about the client. -/
theorem sendBlocking_sent {answers : Sending} {request : Option Request} {link after : Link Driver}
    {ok : Bool} (formed : link.Formed)
    (moved : link.sendBlocking blank handle answers request = (ok, after)) :
    Sent blank handle request link ok after := by
  unfold Link.sendBlocking at moved
  split at moved
  · cases opened : link.connect blank handle answers.connecting with
    | mk connected middle =>
      rw [opened] at moved
      obtain ⟨idle, outcome⟩ := connect_touched request formed opened
      rcases outcome with ⟨rfl, _, newer⟩ | ⟨rfl, shut⟩
      · have sent := exchange_sent idle.formed moved
        obtain ⟨count, positive, touched⟩ := sent.touched
        refine ⟨⟨count, positive, idle.after_idle touched⟩, sent.answered, sent.closed, ?_⟩
        intro _ stale
        exact absurd (stale ▸ touched.generation) (Nat.not_le.mpr newer)
      · obtain ⟨rfl, rfl⟩ := Prod.mk.inj moved
        exact Sent.of_error idle shut
  · exact exchange_sent formed moved

/-! ### Calls that stay with their driver -/

/-- A pipe that is closed leads nowhere. -/
theorem not_alive_of_closed {link : Link Driver} (closed : link.pipe = none) : ¬link.Alive := by
  intro alive
  rw [Link.Alive, closed] at alive
  cases alive

/-- The driver is restarted at some point of a call. -/
def Exchange.restarts (answers : Exchange) : Bool :=
  answers.first.restarts || answers.reopening.opening.restarts ||
    answers.reopening.handshake.restarts || answers.second.restarts

/-- A pipe that breaks is opened again only where it led to the driver that runs, and goes on
running. -/
def Exchange.Stays (current : Prop) (answers : Exchange) : Prop :=
  answers.reopening.opening.works = true → current ∧ answers.restarts = false

instance (current : Prop) [Decidable current] (answers : Exchange) :
    Decidable (answers.Stays current) :=
  inferInstanceAs (Decidable (_ → _))

variable (blank handle) in
theorem transfer_process {answer : Answer} (running : answer.restarts = false)
    (request : Option Request) (link : Link Driver) :
    (link.transfer blank handle answer request).2.process = link.process := by
  have prepared : link.prepare blank answer = link := by
    rw [Link.prepare, running]
    rfl
  unfold Link.transfer
  dsimp only
  rw [prepared]
  split
  · split
    · rfl
    · split <;> rfl
  · rfl

variable (blank handle) in
theorem reconnect_process {answers : Reopening} (running : answers.opening.restarts = false)
    (shaking : answers.handshake.restarts = false) (link : Link Driver) :
    (link.reconnect blank handle answers).2.process = link.process := by
  have opened : (link.open blank answers.opening).process = link.process := by
    have prepared : link.prepare blank answers.opening = link := by
      rw [Link.prepare, running]
      rfl
    unfold Link.open
    dsimp only
    rw [prepared]
    split <;> rfl
  have shaken := transfer_process blank handle shaking none (link.open blank answers.opening)
  rw [opened] at shaken
  unfold Link.reconnect
  dsimp only
  split
  · exact opened
  · cases moved : (link.open blank answers.opening).transfer blank handle answers.handshake none with
    | mk kind after =>
      rw [moved] at shaken
      cases kind with
      | answered =>
        show (after.connected answers.handshake.sameVersion).2.process = link.process
        unfold Link.connected
        split
        · exact shaken
        · exact shaken
      | broken | failed => exact shaken

variable (blank handle) in
theorem exchange_process {answers : Exchange} (running : answers.restarts = false)
    (request : Option Request) (link : Link Driver) :
    (link.exchange blank handle answers request).2.process = link.process := by
  simp only [Exchange.restarts, Bool.or_eq_false_iff] at running
  obtain ⟨⟨⟨first, opening⟩, handshake⟩, second⟩ := running
  have tried := transfer_process blank handle first request link
  unfold Link.exchange
  cases sent : link.transfer blank handle answers.first request with
  | mk kind after =>
    rw [sent] at tried
    cases kind with
    | answered | failed => exact tried
    | broken =>
      have repaired := reconnect_process blank handle opening handshake after
      rw [tried] at repaired
      dsimp only
      cases again : after.reconnect blank handle answers.reopening with
      | mk ok reopened =>
        rw [again] at repaired
        cases ok with
        | false => exact repaired
        | true =>
          have retried := transfer_process blank handle second request reopened
          rw [repaired] at retried
          dsimp only
          cases last : reopened.transfer blank handle answers.second request with
          | mk kind resent =>
            rw [last] at retried
            cases kind with
            | answered | broken | failed => exact retried

/-- A call that stays with its driver and returns was answered by the driver from before. -/
theorem exchange_stays {answers : Exchange} {request : Option Request} {link after : Link Driver}
    (formed : link.Formed) (stays : answers.Stays link.Alive)
    (moved : link.exchange blank handle answers request = (true, after)) :
    link.Alive ∧ after.process = link.process := by
  by_cases opens : answers.reopening.opening.works = true
  · obtain ⟨alive, running⟩ := stays opens
    have same := exchange_process blank handle running request link
    rw [moved] at same
    exact ⟨alive, same⟩
  · unfold Link.exchange at moved
    cases tried : link.transfer blank handle answers.first request with
    | mk kind sent =>
      rw [tried] at moved
      rcases transfer_touched formed tried with ⟨rfl, alive, rfl⟩ | ⟨error, _⟩
      · obtain ⟨_, rfl⟩ := Prod.mk.inj moved
        exact ⟨alive, rfl⟩
      · cases kind with
        | answered => exact absurd rfl error
        | failed => cases (Prod.mk.inj moved).1
        | broken =>
          have shut : sent.reconnect blank handle answers.reopening =
              (false, sent.open blank answers.reopening.opening) := by
            unfold Link.reconnect Link.open
            dsimp only
            rw [if_neg opens]
            exact if_pos rfl
          dsimp only at moved
          rw [shut] at moved
          cases (Prod.mk.inj moved).1

end Client

end PairDriver.Ipc
