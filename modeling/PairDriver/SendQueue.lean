/-
This file audits the router's send queue. A ledger beside the router records the packets
that were accepted, those that were taken, and the packets that were refused because the
queue was full, in all and for each route whose pattern matches them. The queue is a
bounded FIFO of the accepted packets and the global counter agrees with the ledger in
every run.

The counters of the routes are raised where a packet is built and enqueued. A frame of
the publish pipe that finds the queue full raises only the global counter, so the routes'
counters agree exactly in the runs that lose no such frame with an address some active
route matches.
-/

import PairDriver.PublishBounds

namespace PairDriver.Router

open Osc PubPipe

/-! ### Events and the ledger -/

/-- What the producers, the consumer and the overlay do to the router. -/
inductive Event where
  | publishOsc (address typetag : List UInt8) (args : Option (List UInt8)) (argLen : Nat)
  | handlePublish (request : OscPublish) (beyond : Nat → UInt8)
  | pubPipeFrame (frame : List UInt8)
  | sendTurn (sent : Nat) (qpcTick : UInt64)
  | subscribe (request : OscRouteSubscribe)
  | unsubscribe (id : UInt32)
  | shutdown

def OscRouter.step (router : OscRouter) : Event → OscRouter
  | .publishOsc address typetag args argLen => (router.publishOsc address typetag args argLen).2
  | .handlePublish request beyond => (router.handlePublish request beyond).2
  | .pubPipeFrame frame => router.pubPipeFrame frame
  | .sendTurn sent qpcTick => router.sendTurn sent qpcTick
  | .subscribe request =>
    { router with routeTable := (router.routeTable.handleSubscribe request).2 }
  | .unsubscribe id => { router with routeTable := (router.routeTable.handleUnsubscribe id).2 }
  | .shutdown => { router with stop := true }

/-- The bytes of a packet that is intact. -/
def intactBytes {N : Nat} (packet : OscPacket N) : Option (List UInt8) :=
  if packet.ok = true then some packet.bytes else none

/-- The packet an event offers to the queue, if it gets that far. -/
def OscRouter.offered (router : OscRouter) : Event → Option (List UInt8)
  | .publishOsc address typetag args argLen =>
    if router.stop = true then none else intactBytes (buildPacket address typetag args argLen)
  | .handlePublish request beyond => intactBytes (request.packet beyond)
  | .pubPipeFrame frame =>
    if frame.length = 0 ∨ frame.length > kSendQueueEntryMaxSize then none else some frame
  | _ => none

def OscRouter.QueueFull (router : OscRouter) : Prop :=
  kSendQueueCapacity ≤ router.queue.count

instance (router : OscRouter) : Decidable router.QueueFull :=
  inferInstanceAs (Decidable (kSendQueueCapacity ≤ router.queue.count))

/-- An active route matches the address of a packet. -/
def RouteEntry.matchesPacket (entry : RouteEntry) (packet : List UInt8) : Bool :=
  (oscParseMessage packet).valid &&
    (oscParseMessage packet).address.any fun address => entry.routes address

/-- What was accepted and taken, how many packets were refused by a full queue, and how many of
them each slot's route matched since it was subscribed. -/
structure Ledger where
  accepted : List (List UInt8) := []
  taken : List (List UInt8) := []
  refused : Nat := 0
  refusedFor : Fin kMaxRoutes → Nat := fun _ => 0

def Ledger.accept (packet : List UInt8) (ledger : Ledger) : Ledger :=
  { ledger with accepted := ledger.accepted ++ [packet] }

def Ledger.refuse (table : RouteTable) (packet : List UInt8) (ledger : Ledger) : Ledger :=
  { ledger with
    refused := ledger.refused + 1
    refusedFor := fun slot =>
      if (table.entries slot).matchesPacket packet then ledger.refusedFor slot + 1
      else ledger.refusedFor slot }

/-- The ledger after a packet was offered, if one was. -/
def OscRouter.recordOffer (router : OscRouter) (ledger : Ledger) :
    Option (List UInt8) → Ledger
  | some packet =>
    if router.QueueFull then ledger.refuse router.routeTable packet else ledger.accept packet
  | none => ledger

/-- The ledger after an event. -/
def OscRouter.record (router : OscRouter) (ledger : Ledger) : Event → Ledger
  | .sendTurn _ _ =>
    if router.queue.count = 0 then ledger
    else { ledger with taken := ledger.taken ++ [router.queue.front] }
  | .subscribe request =>
    match router.routeTable.subscribeSlot request.subscriberId with
    | some slot => { ledger with refusedFor := Function.update ledger.refusedFor slot 0 }
    | none => ledger
  | event => router.recordOffer ledger (router.offered event)

/-- The router agrees with the ledger. -/
structure OscRouter.Agrees (router : OscRouter) (ledger : Ledger) : Prop where
  sound : router.queue.Sound
  fifo : ledger.accepted = ledger.taken ++ router.queue.contents
  dropped : router.droppedCount = UInt64.ofNat ledger.refused
  routes : ∀ slot, (router.routeTable.entries slot).active = true →
    (router.routeTable.entries slot).dropCount = UInt64.ofNat (ledger.refusedFor slot)

/-- The router agrees with the ledger at every point of a run. -/
def OscRouter.Audited : OscRouter → Ledger → List Event → Prop
  | router, ledger, [] => router.Agrees ledger
  | router, ledger, event :: rest =>
    router.Agrees ledger ∧ (router.step event).Audited (router.record ledger event) rest

/-- The event is no frame that a full queue refuses and an active route matches. -/
def OscRouter.Charges (router : OscRouter) : Event → Prop
  | .pubPipeFrame frame =>
    router.offered (.pubPipeFrame frame) ≠ none → router.QueueFull →
      ∀ slot, (router.routeTable.entries slot).matchesPacket frame = false
  | _ => True

/-- No frame of a run that a full queue refuses is matched by an active route. -/
def OscRouter.ChargesAll : OscRouter → List Event → Prop
  | _, [] => True
  | router, event :: rest => router.Charges event ∧ (router.step event).ChargesAll rest

/-! ### The address of a packet -/

theorem cString_cString (text : List UInt8) : cString (cString text) = cString text :=
  cString_plain (cString text) (not_mem_cString text)

theorem writeOscString_cString (text : List UInt8) :
    writeOscString (cString text) = writeOscString text := by
  unfold writeOscString
  rw [cString_cString]

/-- A packet that was built has the address it was built with. -/
theorem buildPacket_matches (address typetag : List UInt8) (args : Option (List UInt8))
    (argLen : Nat) (intact : (buildPacket address typetag args argLen).ok = true)
    (entry : RouteEntry) :
    entry.matchesPacket (buildPacket address typetag args argLen).bytes = entry.routes address := by
  obtain ⟨size, bytes⟩ := buildPacket_writes address typetag args argLen
  have fits := size.mp intact
  have longer : ∀ text : List UInt8, (cString text).length ≤ (writeOscString text).length := by
    intro text
    simp only [writeOscString, List.length_append]
    omega
  have first := longer address
  have second := longer typetag
  simp only [List.length_append, kSendQueueEntryMaxSize] at fits
  have parsed := oscParseMessage_written (cString address) (cString typetag)
    (writtenArgs args argLen) (not_mem_cString address) (by omega) (not_mem_cString typetag)
    (by omega)
  rw [writeOscString_cString, writeOscString_cString, ← bytes intact] at parsed
  rw [RouteEntry.matchesPacket, parsed]
  simp only [Bool.true_and, Option.any_some, RouteEntry.routes, oscPatternMatch, cString_cString]

/-! ### Accepting and refusing -/

/-- A packet that finds room is appended. -/
theorem push_agrees {router : OscRouter} {ledger : Ledger} (agrees : router.Agrees ledger)
    (room : ¬router.QueueFull) (packet : List UInt8) :
    { router with queue := router.queue.push packet }.Agrees (ledger.accept packet) where
  sound := push_sound router.queue agrees.sound (Nat.lt_of_not_le room) packet
  fifo := by
    show ledger.accepted ++ [packet] = ledger.taken ++ (router.queue.push packet).contents
    rw [contents_push router.queue agrees.sound (Nat.lt_of_not_le room), agrees.fifo,
      List.append_assoc]
  dropped := agrees.dropped
  routes := agrees.routes

theorem ofNat_succ (count : Nat) : UInt64.ofNat (count + 1) = UInt64.ofNat count + 1 :=
  UInt64.ofNat_add count 1

/-- A packet that is refused is counted once, and once for every route that is charged with it. -/
theorem refuse_agrees {router : OscRouter} {ledger : Ledger} (agrees : router.Agrees ledger)
    (packet : List UInt8) (table : RouteTable) (shmem : Option StatsShmem)
    (charged : ∀ slot,
      (table.entries slot).active = (router.routeTable.entries slot).active ∧
        (table.entries slot).dropCount =
          if (router.routeTable.entries slot).matchesPacket packet then
            (router.routeTable.entries slot).dropCount + 1
          else (router.routeTable.entries slot).dropCount) :
    { router with
      droppedCount := router.droppedCount + 1
      routeTable := table
      statsShmem := shmem }.Agrees (ledger.refuse router.routeTable packet) where
  sound := agrees.sound
  fifo := agrees.fifo
  dropped := by
    show router.droppedCount + 1 = UInt64.ofNat (ledger.refused + 1)
    rw [ofNat_succ, agrees.dropped]
  routes := by
    intro slot active
    have counted := agrees.routes slot ((charged slot).1 ▸ active)
    refine (charged slot).2.trans ?_
    show _ = UInt64.ofNat (if (router.routeTable.entries slot).matchesPacket packet then
      ledger.refusedFor slot + 1 else ledger.refusedFor slot)
    split_ifs
    · rw [ofNat_succ, counted]
    · exact counted

/-- The loop that raises the drop counts charges the routes of the address. -/
theorem bumpDropCount_charges (table : RouteTable) (address : List UInt8) (slot : Fin kMaxRoutes) :
    ((table.bumpDropCount address).entries slot).active = (table.entries slot).active ∧
      ((table.bumpDropCount address).entries slot).dropCount =
        if (table.entries slot).routes address then (table.entries slot).dropCount + 1
        else (table.entries slot).dropCount := by
  unfold RouteTable.bumpDropCount RouteTable.bump
  dsimp only
  split_ifs <;> exact ⟨rfl, rfl⟩

/-- What a packet that is built and enqueued leaves. -/
theorem buildAndEnqueue_cases (router : OscRouter) (address typetag : List UInt8)
    (args : Option (List UInt8)) (argLen : Nat) :
    ((buildPacket address typetag args argLen).ok = false ∧
        (router.buildAndEnqueue address typetag args argLen).2 = router) ∨
      ((buildPacket address typetag args argLen).ok = true ∧ ¬router.QueueFull ∧
        (router.buildAndEnqueue address typetag args argLen).2 =
          { router with
            queue := router.queue.push (buildPacket address typetag args argLen).bytes }) ∨
      ((buildPacket address typetag args argLen).ok = true ∧ router.QueueFull ∧
        (router.buildAndEnqueue address typetag args argLen).2 =
          { router with
            droppedCount := router.droppedCount + 1
            routeTable := router.routeTable.bumpDropCount address
            statsShmem := router.statsShmem.map StatsShmem.addDropped }) := by
  have fits := Nat.not_lt_of_le (buildPacket address typetag args argLen).fits
  unfold OscRouter.buildAndEnqueue
  dsimp only
  by_cases intact : (buildPacket address typetag args argLen).ok = true
  · rw [if_pos intact]
    by_cases full : router.QueueFull
    · have refused : enqueueLocked (buildPacket address typetag args argLen).bytes router.queue =
          (false, router.queue) := if_pos full
      rw [refused]
      exact Or.inr (Or.inr ⟨intact, full, rfl⟩)
    · have accepted : enqueueLocked (buildPacket address typetag args argLen).bytes router.queue =
          (true, router.queue.push (buildPacket address typetag args argLen).bytes) :=
        (if_neg full).trans (if_neg fits)
      rw [accepted]
      exact Or.inr (Or.inl ⟨intact, full, rfl⟩)
  · rw [if_neg intact]
    exact Or.inl ⟨Bool.eq_false_of_not_eq_true intact, rfl⟩

theorem buildAndEnqueue_agrees {router : OscRouter} {ledger : Ledger}
    (agrees : router.Agrees ledger) (address typetag : List UInt8) (args : Option (List UInt8))
    (argLen : Nat) :
    (router.buildAndEnqueue address typetag args argLen).2.Agrees
      (router.recordOffer ledger (intactBytes (buildPacket address typetag args argLen))) := by
  unfold intactBytes
  rcases buildAndEnqueue_cases router address typetag args argLen with
    ⟨broken, left⟩ | ⟨intact, room, left⟩ | ⟨intact, full, left⟩
  · rw [left, if_neg (ne_true_of_eq_false broken)]
    exact agrees
  · rw [left, if_pos intact, OscRouter.recordOffer, if_neg room]
    exact push_agrees agrees room _
  · rw [left, if_pos intact, OscRouter.recordOffer, if_pos full]
    refine refuse_agrees agrees _ _ _ fun slot => ?_
    rw [buildPacket_matches address typetag args argLen intact]
    exact bumpDropCount_charges router.routeTable address slot

/-! ### The other events -/

/-- A frame finds room, or it is refused without a charge to the routes. -/
theorem pubPipeFrame_cases (router : OscRouter) (frame : List UInt8) :
    (router.offered (.pubPipeFrame frame) = none ∧ router.pubPipeFrame frame = router) ∨
      (router.offered (.pubPipeFrame frame) = some frame ∧ ¬router.QueueFull ∧
        router.pubPipeFrame frame = { router with queue := router.queue.push frame }) ∨
      (router.offered (.pubPipeFrame frame) = some frame ∧ router.QueueFull ∧
        router.pubPipeFrame frame =
          { router with
            droppedCount := router.droppedCount + 1
            statsShmem := router.statsShmem.map StatsShmem.addDropped }) := by
  unfold OscRouter.offered OscRouter.pubPipeFrame
  dsimp only
  by_cases invalid : frame.length = 0 ∨ frame.length > kSendQueueEntryMaxSize
  · rw [if_pos invalid, if_pos invalid]
    exact Or.inl ⟨rfl, rfl⟩
  · rw [if_neg invalid, if_neg invalid]
    by_cases full : router.QueueFull
    · have refused : enqueueLocked frame router.queue = (false, router.queue) := if_pos full
      rw [refused]
      exact Or.inr (Or.inr ⟨rfl, full, rfl⟩)
    · have accepted : enqueueLocked frame router.queue = (true, router.queue.push frame) :=
        (if_neg full).trans (if_neg fun long => invalid (Or.inr long))
      rw [accepted]
      exact Or.inr (Or.inl ⟨rfl, full, rfl⟩)

theorem pubPipeFrame_agrees {router : OscRouter} {ledger : Ledger} (agrees : router.Agrees ledger)
    (frame : List UInt8) (charges : router.Charges (.pubPipeFrame frame)) :
    (router.pubPipeFrame frame).Agrees (router.record ledger (.pubPipeFrame frame)) := by
  show (router.pubPipeFrame frame).Agrees
    (router.recordOffer ledger (router.offered (.pubPipeFrame frame)))
  rcases pubPipeFrame_cases router frame with ⟨offered, left⟩ | ⟨offered, room, left⟩ |
    ⟨offered, full, left⟩
  · rw [offered, left]
    exact agrees
  · rw [offered, left, OscRouter.recordOffer, if_neg room]
    exact push_agrees agrees room frame
  · rw [offered, left, OscRouter.recordOffer, if_pos full]
    refine refuse_agrees agrees frame router.routeTable _ fun slot => ⟨rfl, ?_⟩
    rw [charges (offered.symm ▸ Option.some_ne_none frame) full slot]
    rfl

/-- Matching an address raises no drop count. -/
theorem dispatch_keeps (table : RouteTable) (address : List UInt8) (qpcTick : UInt64)
    (slot : Fin kMaxRoutes) :
    ((table.dispatch address qpcTick).entries slot).active = (table.entries slot).active ∧
      ((table.dispatch address qpcTick).entries slot).dropCount =
        (table.entries slot).dropCount := by
  unfold RouteTable.dispatch RouteTable.bump
  dsimp only
  split_ifs <;> exact ⟨rfl, rfl⟩

theorem countSent_keeps (router : OscRouter) (packet : List UInt8) (sent : Nat)
    (qpcTick : UInt64) :
    (router.countSent packet sent qpcTick).queue = router.queue ∧
      (router.countSent packet sent qpcTick).droppedCount = router.droppedCount ∧
      ∀ slot,
        ((router.countSent packet sent qpcTick).routeTable.entries slot).active =
            (router.routeTable.entries slot).active ∧
          ((router.countSent packet sent qpcTick).routeTable.entries slot).dropCount =
            (router.routeTable.entries slot).dropCount := by
  unfold OscRouter.countSent
  dsimp only
  split
  · exact ⟨rfl, rfl, dispatch_keeps router.routeTable _ qpcTick⟩
  · exact ⟨rfl, rfl, fun slot => ⟨rfl, rfl⟩⟩

/-- Taking the first packet of the queue. -/
theorem pop_agrees {router : OscRouter} {ledger : Ledger} (agrees : router.Agrees ledger)
    (nonempty : 0 < router.queue.count) :
    { router with queue := router.queue.pop }.Agrees
      { ledger with taken := ledger.taken ++ [router.queue.front] } where
  sound := pop_sound router.queue agrees.sound nonempty
  fifo := by
    show ledger.accepted = ledger.taken ++ [router.queue.front] ++ router.queue.pop.contents
    rw [agrees.fifo, contents_pop router.queue agrees.sound nonempty, List.append_assoc,
      List.singleton_append]
  dropped := agrees.dropped
  routes := agrees.routes

theorem sendTurn_agrees {router : OscRouter} {ledger : Ledger} (agrees : router.Agrees ledger)
    (sent : Nat) (qpcTick : UInt64) :
    (router.sendTurn sent qpcTick).Agrees (router.record ledger (.sendTurn sent qpcTick)) := by
  unfold OscRouter.sendTurn OscRouter.record
  by_cases empty : router.queue.count = 0
  · rw [if_pos empty, if_pos empty]
    exact agrees
  · rw [if_neg empty, if_neg empty]
    have popped := pop_agrees agrees (Nat.pos_of_ne_zero empty)
    dsimp only
    split_ifs
    · obtain ⟨queue, dropped, kept⟩ := countSent_keeps
        { router with queue := router.queue.pop } router.queue.front sent qpcTick
      refine ⟨queue.symm ▸ popped.sound, queue.symm ▸ popped.fifo, dropped.trans popped.dropped,
        fun slot active => ?_⟩
      exact (kept slot).2.trans (popped.routes slot ((kept slot).1.symm.trans active))
    · exact popped

/-- A subscription starts the account of its slot anew. -/
theorem subscribe_agrees {router : OscRouter} {ledger : Ledger} (agrees : router.Agrees ledger)
    (request : OscRouteSubscribe) :
    (router.step (.subscribe request)).Agrees (router.record ledger (.subscribe request)) := by
  unfold OscRouter.step OscRouter.record RouteTable.handleSubscribe RouteTable.subscribe
  dsimp only
  cases router.routeTable.subscribeSlot request.subscriberId with
  | none => exact agrees
  | some slot =>
    refine ⟨agrees.sound, agrees.fifo, agrees.dropped, fun other active => ?_⟩
    by_cases here : other = slot
    · rw [here]
      show ((router.routeTable.set slot _).entries slot).dropCount =
        UInt64.ofNat (Function.update ledger.refusedFor slot 0 slot)
      rw [set_entries_self, Function.update_self]
      rfl
    · show ((router.routeTable.set slot _).entries other).dropCount =
        UInt64.ofNat (Function.update ledger.refusedFor slot 0 other)
      have before : ((router.routeTable.set slot (routeEntry request.subscriberId request.pattern
          (ascii "sub-" ++ decimalText request.subscriberId.toNat))).entries other).active = true :=
        active
      rw [set_entries_other router.routeTable _ here] at before ⊢
      rw [Function.update_of_ne here]
      exact agrees.routes other before

theorem unsubscribe_agrees {router : OscRouter} {ledger : Ledger} (agrees : router.Agrees ledger)
    (id : UInt32) : (router.step (.unsubscribe id)).Agrees ledger := by
  refine ⟨agrees.sound, agrees.fifo, agrees.dropped, fun slot active => ?_⟩
  have kept : ((router.routeTable.unsubscribe id).entries slot).active = true →
      (router.routeTable.entries slot).active = true ∧
        ((router.routeTable.unsubscribe id).entries slot).dropCount =
          (router.routeTable.entries slot).dropCount := by
    unfold RouteTable.unsubscribe
    split
    · rename_i freed _
      by_cases here : slot = freed
      · rw [here, set_entries_self]
        exact fun broken => absurd broken Bool.false_ne_true
      · rw [set_entries_other router.routeTable _ here]
        exact fun still => ⟨still, rfl⟩
    · exact fun still => ⟨still, rfl⟩
  obtain ⟨before, same⟩ := kept active
  exact same.trans (agrees.routes slot before)

/-! ### Runs -/

/-- A step that charges the routes keeps the agreement. -/
theorem step_agrees {router : OscRouter} {ledger : Ledger} (agrees : router.Agrees ledger)
    (event : Event) (charges : router.Charges event) :
    (router.step event).Agrees (router.record ledger event) := by
  cases event with
  | publishOsc address typetag args argLen =>
    show (router.publishOsc address typetag args argLen).2.Agrees
      (router.recordOffer ledger (router.offered (.publishOsc address typetag args argLen)))
    unfold OscRouter.publishOsc OscRouter.offered
    dsimp only
    split_ifs
    · exact agrees
    · exact buildAndEnqueue_agrees agrees address typetag args argLen
  | handlePublish request beyond => exact buildAndEnqueue_agrees agrees _ _ _ _
  | pubPipeFrame frame => exact pubPipeFrame_agrees agrees frame charges
  | sendTurn sent qpcTick => exact sendTurn_agrees agrees sent qpcTick
  | subscribe request => exact subscribe_agrees agrees request
  | unsubscribe id => exact unsubscribe_agrees agrees id
  | shutdown => exact ⟨agrees.sound, agrees.fifo, agrees.dropped, agrees.routes⟩

/-- A step that keeps the agreement charges the routes. -/
theorem charges_of_agrees {router : OscRouter} {ledger : Ledger} (agrees : router.Agrees ledger)
    (event : Event) (after : (router.step event).Agrees (router.record ledger event)) :
    router.Charges event := by
  cases event with
  | pubPipeFrame frame =>
    intro offered full slot
    refine Bool.eq_false_of_not_eq_true fun matched => ?_
    have active : (router.routeTable.entries slot).active = true := by
      have parts := (Bool.and_eq_true_iff.mp matched).2
      obtain ⟨address, -, routed⟩ := (Option.any_eq_true _ _).mp parts
      exact (Bool.and_eq_true_iff.mp routed).1
    rcases pubPipeFrame_cases router frame with ⟨invalid, -⟩ | ⟨-, room, -⟩ | ⟨valid, -, left⟩
    · exact offered invalid
    · exact room full
    · have recorded : router.record ledger (.pubPipeFrame frame) =
          ledger.refuse router.routeTable frame := by
        show router.recordOffer ledger (router.offered (.pubPipeFrame frame)) = _
        rw [valid]
        exact if_pos full
      have stepped : router.step (.pubPipeFrame frame) = router.pubPipeFrame frame := rfl
      rw [recorded, stepped, left] at after
      have counted := after.routes slot active
      have before := agrees.routes slot active
      have charged : (ledger.refuse router.routeTable frame).refusedFor slot =
          ledger.refusedFor slot + 1 := if_pos matched
      rw [charged, ofNat_succ, ← before] at counted
      exact absurd (left_eq_add.mp counted) (by decide)
  | _ => trivial

theorem audited_iff {router : OscRouter} {ledger : Ledger} (agrees : router.Agrees ledger)
    (events : List Event) : router.Audited ledger events ↔ router.ChargesAll events := by
  induction events generalizing router ledger with
  | nil => exact iff_of_true agrees trivial
  | cons event rest inductionHypothesis =>
    constructor
    · rintro ⟨-, later⟩
      have next : (router.step event).Agrees (router.record ledger event) := by
        cases rest with
        | nil => exact later
        | cons => exact later.1
      exact ⟨charges_of_agrees agrees event next, (inductionHypothesis next).mp later⟩
    · rintro ⟨charges, later⟩
      exact ⟨agrees, (inductionHypothesis (step_agrees agrees event charges)).mpr later⟩

/-- A router that has just been constructed: no routes, an empty queue and no drops. -/
structure OscRouter.Fresh (router : OscRouter) : Prop where
  routes : ∀ slot, (router.routeTable.entries slot).active = false
  head : router.queue.head = 0
  tail : router.queue.tail = 0
  count : router.queue.count = 0
  dropped : router.droppedCount = 0

theorem OscRouter.Fresh.agrees {router : OscRouter} (fresh : router.Fresh) : router.Agrees {} where
  sound := by
    refine ⟨?_, ?_, ?_⟩
    · rw [fresh.count]
      decide
    · rw [fresh.head]
      decide
    · rw [fresh.tail, fresh.head, fresh.count]
      rfl
  fifo := by
    rw [Ring.contents, fresh.count]
    rfl
  dropped := fresh.dropped
  routes slot active := absurd (active.symm.trans (fresh.routes slot)) (by decide)

/-- The queue is a FIFO and all counters agree with the ledger in every run in which no frame of the
pipe that an active route matches is refused, and in no other. -/
theorem send_queue_audited_iff (router : OscRouter) (fresh : router.Fresh) (events : List Event) :
    router.Audited {} events ↔ router.ChargesAll events :=
  audited_iff fresh.agrees events

theorem emptyRouter_fresh : emptyRouter.Fresh where
  routes _ := rfl
  head := rfl
  tail := rfl
  count := rfl
  dropped := rfl

/-- A route, a publish, a frame and a turn of the send worker. -/
theorem send_queue_audited_mixed :
    emptyRouter.Audited {}
      [.subscribe ⟨7, 1, ascii "/a"⟩, .publishOsc (ascii "/a") (ascii ",") none 0,
        .pubPipeFrame [47, 97, 0, 0, 44, 0, 0, 0], .sendTurn 8 5] := by
  refine (send_queue_audited_iff emptyRouter emptyRouter_fresh _).mpr
    ⟨trivial, trivial, fun _ full => absurd full ?_, trivial, trivial⟩
  decide +kernel

/-! ### A full queue -/

/-- The message `/a` without arguments. -/
def slashA : List UInt8 := [47, 97, 0, 0, 44, 0, 0, 0]

theorem chargesAll_append (router : OscRouter) (first second : List Event)
    (charges : router.ChargesAll (first ++ second)) :
    (first.foldl OscRouter.step router).ChargesAll second := by
  induction first generalizing router with
  | nil => exact charges
  | cons event first inductionHypothesis => exact inductionHypothesis _ charges.2

/-- Frames that find room fill the queue and leave the routes. -/
theorem frames_fill (router : OscRouter) (count : Nat)
    (room : router.queue.count + count ≤ kSendQueueCapacity) :
    ((List.replicate count (Event.pubPipeFrame slashA)).foldl OscRouter.step
        router).queue.count = router.queue.count + count ∧
      ((List.replicate count (Event.pubPipeFrame slashA)).foldl OscRouter.step
        router).routeTable = router.routeTable := by
  induction count generalizing router with
  | zero => exact ⟨rfl, rfl⟩
  | succ count inductionHypothesis =>
    have stepped : router.step (.pubPipeFrame slashA) =
        { router with queue := router.queue.push slashA } := by
      rcases pubPipeFrame_cases router slashA with ⟨invalid, -⟩ | ⟨-, -, left⟩ | ⟨-, full, -⟩
      · exact nomatch invalid
      · exact left
      · exact absurd full (Nat.not_le_of_lt (by omega))
    have pushed : (router.queue.push slashA).count = router.queue.count + 1 := rfl
    rw [List.replicate_succ, List.foldl_cons, stepped]
    obtain ⟨filled, kept⟩ := inductionHypothesis
      { router with queue := router.queue.push slashA } (by rw [pushed]; omega)
    refine ⟨filled.trans ?_, kept⟩
    rw [pushed]
    omega

/-- A route for `/a`, as many frames as the queue holds, and one more. -/
def overload : List Event :=
  .subscribe ⟨7, 1, ascii "/a"⟩ ::
    (List.replicate kSendQueueCapacity (.pubPipeFrame slashA) ++ [.pubPipeFrame slashA])

/-- The frame that finds the queue full is not charged to the route it belongs to. -/
theorem overload_is_not_charged : ¬emptyRouter.Audited {} overload := by
  intro audited
  have charges := ((audited_iff emptyRouter_fresh.agrees overload).mp audited).2
  obtain ⟨filled, kept⟩ := frames_fill (emptyRouter.step (.subscribe ⟨7, 1, ascii "/a"⟩))
    kSendQueueCapacity (Nat.le_of_eq (Nat.zero_add _))
  have last := (chargesAll_append _ _ _ charges).1
  have missed := last (Option.some_ne_none slashA)
    (Nat.le_of_eq (filled.trans (Nat.zero_add _)).symm) ⟨0, by decide⟩
  rw [kept] at missed
  have matched : ((emptyRouter.step (.subscribe ⟨7, 1, ascii "/a"⟩)).routeTable.entries
      ⟨0, by decide⟩).matchesPacket slashA = true := by
    decide +kernel
  exact absurd (missed.symm.trans matched) (by decide)

end PairDriver.Router
