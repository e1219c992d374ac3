/-
This file models the pipe client of the overlay with the bytes it reads. The pipe carries
messages, and the server answers every request with one of any length. A read takes a message
that fits into the buffer; of a longer one it takes the beginning and says that there is more,
and the client then drains the rest.

A call to the system may fail at any time, as on a broken pipe or in another way. A broken pipe
is connected again once, and the request is sent once more. Every error closes the pipe, except
one in the middle of a drain that is not that of a broken pipe: it leaves the rest of the answer
in the open pipe, and the next call reads it.
-/

import PairDriver.Machine

namespace PairDriver.Ipc.Transfer

/-! ### State -/

/-- The errors of a call, as the client tells them apart. -/
inductive Failure where
  | broken
  | other
deriving DecidableEq

/-- What a call to the system comes to. When the call writes a request, the whole of it may have
been written or not, and the reply is the response of the server. -/
structure Answer where
  error : Option Failure := none
  whole : Bool := true
  reply : List UInt8 := []

/-- What each call to the system comes to, in the order of the calls. -/
abbrev Environment := Nat → Answer

/-- A message in the pipe, or what is left of it: the response to a request, which was the one
that was written after so many others. -/
structure Message (Request : Type) where
  request : Request
  exchange : Nat
  bytes : List UInt8

/-- The client with the unread messages of its pipe, the numbers of the calls and of the requests
so far, and which calls were reads of a drain. -/
structure Client (Request : Type) where
  pipe : Option (List (Message Request)) := none
  named : Bool := false
  reconnecting : Bool := false
  connectionGeneration : Nat := 0
  calls : Nat := 0
  exchanges : Nat := 0
  drainReads : List Nat := []

/-- How a function of the client ends. -/
inductive Outcome (Request : Type) where
  | returned
  | answered (message : Message Request)
  | threw (failure : Failure)

section Client

variable {Request : Type}

def Client.close (client : Client Request) : Client Request :=
  { client with pipe := none }

def Client.called (client : Client Request) : Client Request :=
  { client with calls := client.calls + 1 }

variable (environment : Environment)

/-! ### One exchange -/

/-- `Send`: an error, or none. -/
def send (request : Request) (client : Client Request) : Option Failure × Client Request :=
  match client.pipe with
  | none => (some .other, client)
  | some unread =>
    match (environment client.calls).error with
    | some failure => (some failure, client.called.close)
    | none =>
      if (environment client.calls).whole then
        (none, { client.called with
          pipe := some (unread ++
            [⟨request, client.exchanges + 1, (environment client.calls).reply⟩])
          exchanges := client.exchanges + 1 })
      else (some .other, client.called.close)

def drainBufferSize : Nat := 1024

def Client.drained (client : Client Request) : Client Request :=
  { client.called with drainReads := client.calls :: client.drainReads }

/-- The drain of what is left of a message, which fills some more buffers after the next one. An
error that is not that of a broken pipe ends it. -/
def drainBuffers (rest : List (Message Request)) :
    Nat → Message Request → Client Request → Failure × Client Request
  | more, left, client =>
    match (environment client.calls).error with
    | some .broken => (.broken, client.drained.close)
    | some .other => (.other, { client.drained with pipe := some (left :: rest) })
    | none =>
      match more with
      | 0 => (.other, { client.drained with pipe := some rest })
      | more + 1 =>
        drainBuffers rest more { left with bytes := left.bytes.drop drainBufferSize } client.drained

def drain (rest : List (Message Request)) (left : Message Request) (client : Client Request) :
    Failure × Client Request :=
  drainBuffers environment rest ((left.bytes.length - 1) / drainBufferSize) left client

/-- The loop as it runs: a read that leaves something is followed by another one. -/
theorem drain_eq (rest : List (Message Request)) (left : Message Request)
    (client : Client Request) :
    drain environment rest left client =
      if (environment client.calls).error = some .broken then (.broken, client.drained.close)
      else if (environment client.calls).error = some .other then
        (.other, { client.drained with pipe := some (left :: rest) })
      else if drainBufferSize < left.bytes.length then
        drain environment rest { left with bytes := left.bytes.drop drainBufferSize } client.drained
      else (.other, { client.drained with pipe := some rest }) := by
  unfold drain
  cases count : (left.bytes.length - 1) / drainBufferSize with
  | zero =>
    have last : ¬drainBufferSize < left.bytes.length := by
      unfold drainBufferSize at count ⊢
      omega
    unfold drainBuffers
    rw [if_neg last]
    rcases (environment client.calls).error with _ | failure
    · rfl
    · cases failure <;> rfl
  | succ more =>
    have next : drainBufferSize < left.bytes.length := by
      unfold drainBufferSize at count ⊢
      omega
    have fewer : ((left.bytes.drop drainBufferSize).length - 1) / drainBufferSize = more := by
      rw [List.length_drop]
      unfold drainBufferSize at count next ⊢
      omega
    rw [if_pos next, fewer]
    conv_lhs => unfold drainBuffers
    rcases (environment client.calls).error with _ | failure
    · rfl
    · cases failure <;> rfl

variable (responseSize : Nat)

/-- `Receive`. A read of an empty pipe waits until the pipe breaks. -/
def receive (client : Client Request) : Outcome Request × Client Request :=
  match client.pipe with
  | none => (.threw .other, client)
  | some unread =>
    match (environment client.calls).error, unread with
    | some failure, _ => (.threw failure, client.called.close)
    | none, [] => (.threw .broken, client.called.close)
    | none, message :: rest =>
      if responseSize < message.bytes.length then
        let (failure, drained) := drain environment rest
          { message with bytes := message.bytes.drop responseSize } client.called
        (.threw failure, drained)
      else if message.bytes.length = responseSize then
        (.answered message, { client.called with pipe := some rest })
      else (.threw .other, client.called.close)

/-- `Send` and `Receive`. -/
def exchange (request : Request) (client : Client Request) : Outcome Request × Client Request :=
  match send environment request client with
  | (some failure, sent) => (.threw failure, sent)
  | (none, sent) => receive environment responseSize sent

/-! ### Connections -/

variable (accepts : List UInt8 → Bool)

/-- `Connect`: the pipe is opened and put into message mode, and the versions are compared. -/
def connect (shake : Client Request → Option (Outcome Request × Client Request))
    (client : Client Request) : Option (Outcome Request × Client Request) :=
  let closed := { client.close with named := true }
  if (environment closed.calls).error ≠ none then some (.threw .other, closed.called)
  else if (environment closed.called.calls).error ≠ none then
    some (.threw .other, closed.called.called)
  else
    match shake { closed.called.called with pipe := some [] } with
    | some (.answered message, shaken) =>
      if accepts message.bytes then
        some (.returned, { shaken with connectionGeneration := shaken.connectionGeneration + 1 })
      else some (.threw .other, shaken.close)
    | other => other

/-- The rest of `SendBlocking`, over an open pipe: a broken one is connected again and the request
is sent once more. -/
def sendOpen (reconnect : Client Request → Option (Outcome Request × Client Request))
    (request : Request) (client : Client Request) : Option (Outcome Request × Client Request) :=
  match exchange environment responseSize request client with
  | (.threw .broken, sent) =>
    if sent.reconnecting = true ∨ sent.named = false then some (.threw .broken, sent)
    else
      match reconnect { sent.close with reconnecting := true } with
      | some (.threw _, failed) => some (.threw .other, { failed with reconnecting := false })
      | some (_, reopened) =>
        some (exchange environment responseSize request { reopened with reconnecting := false })
      | none => none
  | result => some result

variable (handshake : Request)

/-- `SendBlocking`, which connects a closed pipe, within a depth of calls of itself. -/
def sendBlocking : Nat → Request → Client Request → Option (Outcome Request × Client Request)
  | 0, _, _ => none
  | depth + 1, request, client =>
    let connecting := connect environment accepts (sendBlocking depth handshake)
    match client.pipe with
    | some _ => sendOpen environment responseSize connecting request client
    | none =>
      if client.named then
        match connecting client with
        | some (.threw failure, failed) => some (.threw failure, failed)
        | some (_, connected) => sendOpen environment responseSize connecting request connected
        | none => none
      else some (.threw .other, client)

/-! ### Runs -/

inductive Event (Request : Type) where
  | connect
  | send (request : Request)
  | close

/-- One call of the client from outside. -/
def perform (client : Client Request) : Event Request → Option (Outcome Request × Client Request)
  | .connect =>
    connect environment accepts
      (sendBlocking environment responseSize accepts handshake 2 handshake) client
  | .send request => sendBlocking environment responseSize accepts handshake 3 request client
  | .close => some (.returned, client.close)

def step (client : Client Request) (event : Event Request) : Option (Client Request) :=
  (perform environment responseSize accepts handshake client event).map Prod.snd

/-- The pipe is closed, or nothing is left in it. -/
def Client.Clean (client : Client Request) : Prop :=
  client.pipe = none ∨ client.pipe = some []

/-- A call has ended in order: the answer is that to the request that was written last, which is
the one of the call, and after an exception nothing is left in the pipe. -/
inductive InOrder : Event Request → Outcome Request → Client Request → Prop where
  | returned {event : Event Request} {after : Client Request} : InOrder event .returned after
  | answered {message : Message Request} {after : Client Request} :
      message.exchange = after.exchanges → InOrder (.send message.request) (.answered message) after
  | threw {event : Event Request} {failure : Failure} {after : Client Request} :
      after.Clean → InOrder event (.threw failure) after

/-- Every call of a run ends, and in order. -/
def AllInOrder : Client Request → List (Event Request) → Prop
  | _, [] => True
  | client, event :: events =>
    ∃ outcome after, perform environment responseSize accepts handshake client event =
        some (outcome, after) ∧
      InOrder event outcome after ∧ AllInOrder after events

/-- Every read of a drain has worked or failed on a broken pipe. -/
def Sound (client : Client Request) : Prop :=
  ∀ read ∈ client.drainReads, (environment read).error ≠ some .other

/-! ### How a call ends -/

/-- An exchange ends with its answer, with an exception over a clean pipe, or with an exception
that leaves something in the pipe after a drain that was cut short. -/
inductive Ends (request : Request) : Outcome Request × Client Request → Prop where
  | answered {message : Message Request} {after : Client Request} :
      after.pipe = some [] → Sound environment after → message.request = request →
        message.exchange = after.exchanges → Ends request (.answered message, after)
  | threw {failure : Failure} {after : Client Request} :
      after.Clean → Sound environment after → Ends request (.threw failure, after)
  | desynced {after : Client Request} :
      ¬after.Clean → ¬Sound environment after → Ends request (.threw .other, after)

theorem sound_drained {client : Client Request} (sound : Sound environment client)
    (works : (environment client.calls).error ≠ some .other) : Sound environment client.drained :=
  List.forall_mem_cons.mpr ⟨works, sound⟩

theorem not_sound_drained {client : Client Request}
    (fails : (environment client.calls).error = some .other) :
    ¬Sound environment client.drained :=
  fun sound => sound client.calls List.mem_cons_self fails

/-- An error in a drain of the last message closes the pipe or cuts the drain short. -/
theorem drainBuffers_error (request : Request) (more : Nat) (left : Message Request)
    {client : Client Request} (sound : Sound environment client) {failure : Failure}
    (error : (environment client.calls).error = some failure) :
    Ends environment request
      (.threw (drainBuffers environment [] more left client).1,
        (drainBuffers environment [] more left client).2) := by
  unfold drainBuffers
  rw [error]
  cases failure with
  | broken =>
    have works : (environment client.calls).error ≠ some .other := by
      rw [error]
      decide
    exact .threw (Or.inl rfl) (sound_drained environment sound works)
  | other =>
    refine .desynced ?_ (not_sound_drained environment error)
    exact not_or.mpr ⟨Option.some_ne_none _, fun empty => nomatch empty⟩

/-- A drain of the last message ends the pipe, empties it or is cut short. -/
theorem drainBuffers_ends (request : Request) (more : Nat) (left : Message Request)
    {client : Client Request} (sound : Sound environment client) :
    Ends environment request
      (.threw (drainBuffers environment [] more left client).1,
        (drainBuffers environment [] more left client).2) := by
  induction more generalizing left client with
  | zero =>
    cases error : (environment client.calls).error with
    | none =>
      unfold drainBuffers
      rw [error]
      exact .threw (Or.inr rfl) (sound_drained environment sound (by rw [error]; decide))
    | some failure => exact drainBuffers_error environment request 0 left sound error
  | succ more inductionHypothesis =>
    cases error : (environment client.calls).error with
    | none =>
      unfold drainBuffers
      rw [error]
      exact inductionHypothesis _ (sound_drained environment sound (by rw [error]; decide))
    | some failure => exact drainBuffers_error environment request (more + 1) left sound error

/-- `Send` on an empty pipe leaves the response to its request in it, or closes it. -/
theorem send_cases (request : Request) {client : Client Request} (empty : client.pipe = some []) :
    (∃ failure, send environment request client = (some failure, client.called.close)) ∨
      send environment request client =
        (none, { client.called with
          pipe := some [⟨request, client.exchanges + 1, (environment client.calls).reply⟩]
          exchanges := client.exchanges + 1 }) := by
  unfold send
  rw [empty]
  dsimp only
  split
  · exact Or.inl ⟨_, rfl⟩
  · split
    · exact Or.inr rfl
    · exact Or.inl ⟨_, rfl⟩

theorem receive_ends {request : Request} {client : Client Request} {message : Message Request}
    (unread : client.pipe = some [message]) (same : message.request = request)
    (last : message.exchange = client.exchanges) (sound : Sound environment client) :
    Ends environment request (receive environment responseSize client) := by
  unfold receive
  rw [unread]
  dsimp only
  split
  · exact .threw (Or.inl rfl) sound
  · rename_i none
    cases none
  · rename_i first rest _ both
    obtain ⟨rfl, rfl⟩ := List.cons.inj both
    split
    · exact drainBuffers_ends environment request _ _ sound
    · split
      · exact .answered rfl sound same last
      · exact .threw (Or.inl rfl) sound

theorem exchange_ends (request : Request) {client : Client Request} (clean : client.Clean)
    (sound : Sound environment client) :
    Ends environment request (exchange environment responseSize request client) := by
  unfold exchange
  rcases clean with closed | empty
  · have unsent : send environment request client = (some .other, client) := by
      unfold send
      rw [closed]
    rw [unsent]
    exact .threw (Or.inl closed) sound
  · rcases send_cases environment request empty with ⟨failure, failed⟩ | sent
    · rw [failed]
      exact .threw (Or.inl rfl) sound
    · rw [sent]
      exact receive_ends environment responseSize rfl rfl rfl sound

/-- A connection is made over an empty pipe, or ends as an exchange does. -/
inductive Connects : Outcome Request × Client Request → Prop where
  | returned {after : Client Request} :
      after.pipe = some [] → Sound environment after → Connects (.returned, after)
  | threw {failure : Failure} {after : Client Request} :
      after.Clean → Sound environment after → Connects (.threw failure, after)
  | desynced {after : Client Request} :
      ¬after.Clean → ¬Sound environment after → Connects (.threw .other, after)

theorem connect_connects {shake : Client Request → Option (Outcome Request × Client Request)}
    (shakes : ∀ fresh result, shake fresh = some result → fresh.Clean →
      Sound environment fresh → Ends environment handshake result)
    {client : Client Request} (sound : Sound environment client)
    {result : Outcome Request × Client Request}
    (connected : connect environment accepts shake client = some result) :
    Connects environment result := by
  unfold connect at connected
  dsimp only at connected
  split at connected
  · obtain rfl := Option.some.inj connected
    exact .threw (Or.inl rfl) sound
  · split at connected
    · obtain rfl := Option.some.inj connected
      exact .threw (Or.inl rfl) sound
    · split at connected
      · rename_i message shaken ran
        cases shakes _ _ ran (Or.inr rfl) sound with
        | answered empty kept _ _ =>
          split at connected
          · obtain rfl := Option.some.inj connected
            exact .returned empty kept
          · obtain rfl := Option.some.inj connected
            exact .threw (Or.inl rfl) kept
      · rename_i unanswered
        cases shakes _ _ connected (Or.inr rfl) sound with
        | answered _ _ _ _ => exact absurd connected (unanswered _ _)
        | threw clean kept => exact .threw clean kept
        | desynced dirty cut => exact .desynced dirty cut

theorem sendOpen_ends {reconnect : Client Request → Option (Outcome Request × Client Request)}
    (reconnects : ∀ broken result, reconnect broken = some result →
      Sound environment broken → Connects environment result)
    {request : Request} {client : Client Request} (clean : client.Clean)
    (sound : Sound environment client) {result : Outcome Request × Client Request}
    (sent : sendOpen environment responseSize reconnect request client = some result) :
    Ends environment request result := by
  have first := exchange_ends environment responseSize request clean sound
  unfold sendOpen at sent
  split at sent
  · rename_i broken exchanged
    rw [exchanged] at first
    split at sent
    · obtain rfl := Option.some.inj sent
      exact first
    · cases first with
      | threw _ kept =>
        split at sent
        · rename_i failure failed ran
          obtain rfl := Option.some.inj sent
          cases reconnects _ _ ran kept with
          | threw clean kept => exact .threw clean kept
          | desynced dirty cut => exact .desynced dirty cut
        · rename_i outcome reopened made ran
          obtain rfl := Option.some.inj sent
          cases reconnects _ _ ran kept with
          | returned empty kept =>
            exact exchange_ends environment responseSize request (Or.inr empty) kept
          | threw _ _ => exact absurd rfl (made _)
          | desynced _ _ => exact absurd rfl (made _)
        · cases sent
  · obtain rfl := Option.some.inj sent
    exact first

/-- Every call that ends over a clean pipe ends in one of the three ways. -/
theorem sendBlocking_ends (depth : Nat) {request : Request} {client : Client Request}
    (clean : client.Clean) (sound : Sound environment client)
    {result : Outcome Request × Client Request}
    (ran : sendBlocking environment responseSize accepts handshake depth request client =
      some result) :
    Ends environment request result := by
  induction depth generalizing request client result with
  | zero => cases ran
  | succ depth inductionHypothesis =>
    have reconnects : ∀ broken result, connect environment accepts
        (sendBlocking environment responseSize accepts handshake depth handshake) broken =
          some result →
        Sound environment broken → Connects environment result :=
      fun _ _ made kept => connect_connects environment accepts handshake
        (fun _ _ ran empty kept => inductionHypothesis empty kept ran) kept made
    unfold sendBlocking at ran
    dsimp only at ran
    split at ran
    · exact sendOpen_ends environment responseSize reconnects clean sound ran
    · split at ran
      · split at ran
        · rename_i failure failed connected
          obtain rfl := Option.some.inj ran
          cases reconnects _ _ connected sound with
          | threw clean kept => exact .threw clean kept
          | desynced dirty cut => exact .desynced dirty cut
        · rename_i outcome opened made connected
          cases reconnects _ _ connected sound with
          | returned empty kept =>
            exact sendOpen_ends environment responseSize reconnects (Or.inr empty) kept ran
          | threw _ _ => exact absurd rfl (made _)
          | desynced _ _ => exact absurd rfl (made _)
        · cases ran
      · obtain rfl := Option.some.inj ran
        exact .threw clean sound

/-! ### What a call leaves alone -/

/-- The mark of a reconnection is as before, and the reads of drains have become no fewer. -/
structure Follows (before after : Client Request) : Prop where
  reconnecting : after.reconnecting = before.reconnecting
  drainReads : before.drainReads ⊆ after.drainReads

theorem Follows.trans {before middle after : Client Request} (first : Follows before middle)
    (second : Follows middle after) : Follows before after where
  reconnecting := second.reconnecting.trans first.reconnecting
  drainReads := List.Subset.trans first.drainReads second.drainReads

theorem Follows.same {before after : Client Request}
    (reconnecting : after.reconnecting = before.reconnecting)
    (drainReads : after.drainReads = before.drainReads) : Follows before after :=
  ⟨reconnecting, fun _ member => drainReads ▸ member⟩

theorem Follows.since {before fresh after : Client Request} (follows : Follows fresh after)
    (reconnecting : fresh.reconnecting = before.reconnecting)
    (drainReads : fresh.drainReads = before.drainReads) : Follows before after :=
  (Follows.same reconnecting drainReads).trans follows

theorem send_follows (request : Request) (client : Client Request) :
    Follows client (send environment request client).2 := by
  unfold send
  split
  · exact .same rfl rfl
  · split
    · exact .same rfl rfl
    · split
      · exact .same rfl rfl
      · exact .same rfl rfl

theorem drainBuffers_follows (rest : List (Message Request)) (more : Nat) (left : Message Request)
    (client : Client Request) :
    Follows client (drainBuffers environment rest more left client).2 := by
  have noted : ∀ client : Client Request, Follows client client.drained :=
    fun client => ⟨rfl, List.subset_cons_self _ _⟩
  induction more generalizing left client with
  | zero =>
    unfold drainBuffers
    split
    · exact (noted client).trans (.same rfl rfl)
    · exact (noted client).trans (.same rfl rfl)
    · exact (noted client).trans (.same rfl rfl)
  | succ more inductionHypothesis =>
    unfold drainBuffers
    split
    · exact (noted client).trans (.same rfl rfl)
    · exact (noted client).trans (.same rfl rfl)
    · exact (noted client).trans (inductionHypothesis _ _)

theorem drain_follows (rest : List (Message Request)) (left : Message Request)
    (client : Client Request) : Follows client (drain environment rest left client).2 :=
  drainBuffers_follows environment rest _ left client

theorem receive_follows (client : Client Request) :
    Follows client (receive environment responseSize client).2 := by
  unfold receive
  split
  · exact .same rfl rfl
  · split
    · exact .same rfl rfl
    · exact .same rfl rfl
    · split
      · exact (drain_follows environment _ _ client.called).since rfl rfl
      · split
        · exact .same rfl rfl
        · exact .same rfl rfl

theorem exchange_follows (request : Request) (client : Client Request) :
    Follows client (exchange environment responseSize request client).2 := by
  have sent := send_follows environment request client
  unfold exchange
  split
  · rename_i same
    rw [same] at sent
    exact sent
  · rename_i same
    rw [same] at sent
    exact sent.trans (receive_follows environment responseSize _)

theorem connect_follows {shake : Client Request → Option (Outcome Request × Client Request)}
    (shakes : ∀ fresh result, shake fresh = some result → Follows fresh result.2)
    {client : Client Request} {result : Outcome Request × Client Request}
    (connected : connect environment accepts shake client = some result) :
    Follows client result.2 := by
  unfold connect at connected
  dsimp only at connected
  split at connected
  · obtain rfl := Option.some.inj connected
    exact .same rfl rfl
  · split at connected
    · obtain rfl := Option.some.inj connected
      exact .same rfl rfl
    · split at connected
      · rename_i message shaken ran
        have follows : Follows client shaken := (shakes _ _ ran).since rfl rfl
        split at connected
        · obtain rfl := Option.some.inj connected
          exact follows.trans (.same rfl rfl)
        · obtain rfl := Option.some.inj connected
          exact follows.trans (.same rfl rfl)
      · exact (shakes _ _ connected).since rfl rfl

theorem sendOpen_follows {reconnect : Client Request → Option (Outcome Request × Client Request)}
    (reconnects : ∀ broken result, reconnect broken = some result → Follows broken result.2)
    {request : Request} {client : Client Request} {result : Outcome Request × Client Request}
    (sent : sendOpen environment responseSize reconnect request client = some result) :
    Follows client result.2 := by
  have first := exchange_follows environment responseSize request client
  unfold sendOpen at sent
  split at sent
  · rename_i broken exchanged
    rw [exchanged] at first
    split at sent
    · obtain rfl := Option.some.inj sent
      exact first
    · rename_i once
      have calm : broken.reconnecting = false :=
        Bool.not_eq_true _ ▸ fun again => once (Or.inl again)
      split at sent
      · rename_i failure failed ran
        obtain rfl := Option.some.inj sent
        exact first.trans ⟨calm.symm, (reconnects _ _ ran).drainReads⟩
      · rename_i outcome reopened made ran
        obtain rfl := Option.some.inj sent
        have again := exchange_follows environment responseSize request
          { reopened with reconnecting := false }
        exact first.trans ⟨again.reconnecting.trans calm.symm,
          List.Subset.trans (reconnects _ _ ran).drainReads again.drainReads⟩
      · cases sent
  · obtain rfl := Option.some.inj sent
    exact first

theorem sendBlocking_follows (depth : Nat) {request : Request} {client : Client Request}
    {result : Outcome Request × Client Request}
    (ran : sendBlocking environment responseSize accepts handshake depth request client =
      some result) : Follows client result.2 := by
  induction depth generalizing request client result with
  | zero => cases ran
  | succ depth inductionHypothesis =>
    have reconnects : ∀ broken result, connect environment accepts
        (sendBlocking environment responseSize accepts handshake depth handshake) broken =
          some result → Follows broken result.2 :=
      fun _ _ made => connect_follows environment accepts
        (fun _ _ ran => inductionHypothesis ran) made
    unfold sendBlocking at ran
    dsimp only at ran
    split at ran
    · exact sendOpen_follows environment responseSize reconnects ran
    · split at ran
      · split at ran
        · rename_i failure failed connected
          obtain rfl := Option.some.inj ran
          exact reconnects _ _ connected
        · rename_i outcome opened made connected
          exact (reconnects _ _ connected).trans
            (sendOpen_follows environment responseSize reconnects ran)
        · cases ran
      · obtain rfl := Option.some.inj ran
        exact .same rfl rfl

/-! ### The depth of the recursion -/

theorem connect_returns {shake : Client Request → Option (Outcome Request × Client Request)}
    {client : Client Request}
    (shakes : ∀ fresh, fresh.pipe ≠ none → fresh.reconnecting = client.reconnecting →
      (shake fresh).isSome = true) :
    (connect environment accepts shake client).isSome = true := by
  unfold connect
  dsimp only
  split
  · rfl
  · split
    · rfl
    · split
      · split
        · rfl
        · rfl
      · exact shakes _ (Option.some_ne_none _) rfl

/-- A connection is tried again only if none is being tried again. -/
theorem sendOpen_returns {reconnect : Client Request → Option (Outcome Request × Client Request)}
    (request : Request) {client : Client Request}
    (reconnects : client.reconnecting = false → ∀ broken, broken.reconnecting = true →
      (reconnect broken).isSome = true) :
    (sendOpen environment responseSize reconnect request client).isSome = true := by
  have first := exchange_follows environment responseSize request client
  unfold sendOpen
  split
  · rename_i broken exchanged
    rw [exchanged] at first
    split
    · rfl
    · rename_i once
      have calm : client.reconnecting = false :=
        first.reconnecting ▸ (Bool.not_eq_true _ ▸ fun again => once (Or.inl again))
      split
      · rfl
      · rfl
      · rename_i lost
        have made := reconnects calm { broken.close with reconnecting := true } rfl
        rw [lost] at made
        cases made
  · rfl

theorem sendBlocking_open_eq (depth : Nat) (request : Request) {client : Client Request}
    (connected : client.pipe ≠ none) :
    sendBlocking environment responseSize accepts handshake (depth + 1) request client =
      sendOpen environment responseSize (connect environment accepts
        (sendBlocking environment responseSize accepts handshake depth handshake)) request
          client := by
  obtain ⟨unread, pipe⟩ := Option.ne_none_iff_exists'.mp connected
  unfold sendBlocking
  rw [pipe]

theorem sendBlocking_reconnecting_returns (depth : Nat) (request : Request)
    {client : Client Request} (connected : client.pipe ≠ none)
    (reconnecting : client.reconnecting = true) :
    (sendBlocking environment responseSize accepts handshake (depth + 1) request client).isSome =
      true := by
  rw [sendBlocking_open_eq _ _ _ _ _ _ connected]
  refine sendOpen_returns environment responseSize request fun calm => ?_
  rw [reconnecting] at calm
  cases calm

theorem sendBlocking_open_returns (depth : Nat) (request : Request) {client : Client Request}
    (connected : client.pipe ≠ none) :
    (sendBlocking environment responseSize accepts handshake (depth + 2) request client).isSome =
      true := by
  rw [sendBlocking_open_eq _ _ _ _ _ _ connected]
  refine sendOpen_returns environment responseSize request fun _ broken reconnecting => ?_
  refine connect_returns environment accepts fun fresh opened same => ?_
  exact sendBlocking_reconnecting_returns environment responseSize accepts handshake depth handshake
    opened (same.trans reconnecting)

/-- `SendBlocking` is three calls of itself deep at most. -/
theorem sendBlocking_returns (depth : Nat) (request : Request) (client : Client Request) :
    (sendBlocking environment responseSize accepts handshake (depth + 3) request client).isSome =
      true := by
  have reconnects : ∀ broken : Client Request, (connect environment accepts
      (sendBlocking environment responseSize accepts handshake (depth + 2) handshake)
        broken).isSome = true :=
    fun broken => connect_returns environment accepts fun fresh opened _ =>
      sendBlocking_open_returns environment responseSize accepts handshake depth handshake opened
  unfold sendBlocking
  dsimp only
  split
  · exact sendOpen_returns environment responseSize request fun _ broken _ => reconnects broken
  · split
    · split
      · rfl
      · exact sendOpen_returns environment responseSize request fun _ broken _ => reconnects broken
      · rename_i lost
        have made := reconnects client
        rw [lost] at made
        cases made
    · rfl

/-! ### Runs -/

theorem perform_returns (client : Client Request) (event : Event Request) :
    (perform environment responseSize accepts handshake client event).isSome = true := by
  cases event with
  | connect =>
    exact connect_returns environment accepts fun _ opened _ =>
      sendBlocking_open_returns environment responseSize accepts handshake 0 handshake opened
  | send request =>
    exact sendBlocking_returns environment responseSize accepts handshake 0 request client
  | close => rfl

theorem perform_follows {client after : Client Request} {event : Event Request}
    {outcome : Outcome Request}
    (performed : perform environment responseSize accepts handshake client event =
      some (outcome, after)) : Follows client after := by
  cases event with
  | connect =>
    exact connect_follows environment accepts
      (fun _ _ ran => sendBlocking_follows environment responseSize accepts handshake 2 ran)
      performed
  | send request =>
    exact sendBlocking_follows environment responseSize accepts handshake 3 performed
  | close =>
    obtain ⟨_, rfl⟩ := Prod.mk.inj (Option.some.inj performed)
    exact .same rfl rfl

/-- A call over a clean pipe ends in order and leaves a clean pipe, or a drain was cut short and it
does not end in order. -/
theorem perform_cases {client after : Client Request} {event : Event Request}
    {outcome : Outcome Request} (clean : client.Clean) (sound : Sound environment client)
    (performed : perform environment responseSize accepts handshake client event =
      some (outcome, after)) :
    (after.Clean ∧ Sound environment after ∧ InOrder event outcome after) ∨
      (¬Sound environment after ∧ ¬InOrder event outcome after) := by
  have dirty : ∀ {after : Client Request} {failure : Failure}, ¬after.Clean →
      ¬InOrder event (.threw failure) after := by
    intro after failure dirty ordered
    cases ordered with
    | threw clean => exact dirty clean
  cases event with
  | connect =>
    have ended := connect_connects environment accepts handshake
      (fun _ _ ran empty kept =>
        sendBlocking_ends environment responseSize accepts handshake 2 empty kept ran)
      sound performed
    cases ended with
    | returned empty kept => exact Or.inl ⟨Or.inr empty, kept, .returned⟩
    | threw clean kept => exact Or.inl ⟨clean, kept, .threw clean⟩
    | desynced unread cut => exact Or.inr ⟨cut, dirty unread⟩
  | send request =>
    cases sendBlocking_ends environment responseSize accepts handshake 3 clean sound performed with
    | answered empty kept same last =>
      exact Or.inl ⟨Or.inr empty, kept, same ▸ .answered last⟩
    | threw clean kept => exact Or.inl ⟨clean, kept, .threw clean⟩
    | desynced unread cut => exact Or.inr ⟨cut, dirty unread⟩
  | close =>
    obtain ⟨rfl, rfl⟩ := Prod.mk.inj (Option.some.inj performed)
    exact Or.inl ⟨Or.inl rfl, sound, .returned⟩

theorem run_follows (events : List (Event Request)) (client : Client Request) :
    ∃ final, run (step environment responseSize accepts handshake) client events = some final ∧
      Follows client final := by
  induction events generalizing client with
  | nil => exact ⟨client, rfl, .same rfl rfl⟩
  | cons event rest inductionHypothesis =>
    obtain ⟨⟨outcome, after⟩, performed⟩ := Option.isSome_iff_exists.mp
      (perform_returns environment responseSize accepts handshake client event)
    obtain ⟨final, ran, follows⟩ := inductionHypothesis after
    refine ⟨final, ?_, (perform_follows _ _ _ _ performed).trans follows⟩
    rw [run, step, performed]
    exact ran

theorem run_in_order_iff (events : List (Event Request)) {client : Client Request}
    (clean : client.Clean) (sound : Sound environment client) :
    ∃ final, run (step environment responseSize accepts handshake) client events = some final ∧
      (AllInOrder environment responseSize accepts handshake client events ↔
        Sound environment final) := by
  induction events generalizing client with
  | nil => exact ⟨client, rfl, iff_of_true trivial sound⟩
  | cons event rest inductionHypothesis =>
    obtain ⟨⟨outcome, after⟩, performed⟩ := Option.isSome_iff_exists.mp
      (perform_returns environment responseSize accepts handshake client event)
    have onward : ∀ final,
        run (step environment responseSize accepts handshake) after rest = some final →
          run (step environment responseSize accepts handshake) client (event :: rest) =
            some final := by
      intro final ran
      rw [run, step, performed]
      exact ran
    have first : AllInOrder environment responseSize accepts handshake client (event :: rest) ↔
        InOrder event outcome after ∧
          AllInOrder environment responseSize accepts handshake after rest := by
      constructor
      · rintro ⟨_, _, same, ordered, later⟩
        rw [performed] at same
        obtain ⟨rfl, rfl⟩ := Prod.mk.inj (Option.some.inj same)
        exact ⟨ordered, later⟩
      · rintro ⟨ordered, later⟩
        exact ⟨outcome, after, performed, ordered, later⟩
    rw [first]
    rcases perform_cases environment responseSize accepts handshake clean sound performed with
      ⟨cleanAfter, soundAfter, ordered⟩ | ⟨cut, disordered⟩
    · obtain ⟨final, ran, exactly⟩ := inductionHypothesis cleanAfter soundAfter
      exact ⟨final, onward final ran, (and_iff_right ordered).trans exactly⟩
    · obtain ⟨final, ran, follows⟩ :=
        run_follows environment responseSize accepts handshake rest after
      refine ⟨final, onward final ran, iff_of_false (fun both => disordered both.1) fun kept => ?_⟩
      exact cut fun read member => kept read (follows.drainReads member)

/-- Every run of calls ends, however the calls to the system come out, and all of it is in order
exactly if no read of a drain fails in another way than on a broken pipe. -/
theorem send_blocking_in_order_iff (events : List (Event Request)) :
    ∃ final, run (step environment responseSize accepts handshake) {} events = some final ∧
      (AllInOrder environment responseSize accepts handshake {} events ↔
        ∀ read ∈ final.drainReads, (environment read).error ≠ some .other) :=
  run_in_order_iff environment responseSize accepts handshake events (Or.inl rfl) fun _ member =>
    nomatch member

end Client

/-! ### A drain that is cut short -/

def responseSize : Nat := 144

/-- The handshake and the second request are answered as they should be; the first request gets two
responses in one message, and the read that would drain the second fails. -/
def cutShort : Environment
  | 2 | 7 => { reply := List.replicate 144 1 }
  | 4 => { reply := List.replicate 288 2 }
  | 6 => { error := some .other }
  | _ => {}

/-- The request whose response an outcome holds. -/
def answeredRequest {Request : Type} : Outcome Request → Option Request
  | .answered message => some message.request
  | _ => none

/-- The call of the second request returns the rest of the response to the first. -/
theorem send_blocking_cut_short :
    ((run (step cutShort responseSize (fun _ => true) 0) {} [.connect, .send 1]).bind fun client =>
      (perform cutShort responseSize (fun _ => true) 0 client (.send 2)).bind fun result =>
        answeredRequest result.1) = some 1 ∧
      ¬AllInOrder cutShort responseSize (fun _ => true) 0 {} [.connect, .send 1, .send 2] := by
  have cut : ∃ final, run (step cutShort responseSize (fun _ => true) 0) {}
      [.connect, .send 1, .send 2] = some final ∧ final.drainReads = [6] :=
    run_evaluates (by decide +kernel)
  have clean : Client.Clean ({} : Client Nat) := Or.inl rfl
  have sound : Sound cutShort ({} : Client Nat) := fun _ member => nomatch member
  refine ⟨by decide +kernel, fun ordered => ?_⟩
  obtain ⟨final, ran, reads⟩ := cut
  obtain ⟨last, same, exactly⟩ := run_in_order_iff cutShort responseSize (fun _ => true) 0
    [.connect, .send 1, .send 2] clean sound
  obtain rfl := Option.some.inj (ran.symm.trans same)
  exact exactly.mp ordered 6 (by rw [reads]; exact List.mem_cons_self) rfl

end PairDriver.Ipc.Transfer
