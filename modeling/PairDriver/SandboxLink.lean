/-
This file models the link between the host and a module process. The client sends a packet
in one datagram or in chunks; before the server has acknowledged its handshake it queues all
other packets, and the acknowledgement sends the queue. Calls on several threads are under
way at a time, each sends its datagrams one by one, and a call that found the link not yet
acknowledged may reach the queue only later. The server decodes each datagram and hands the
packet on, or collects it as a chunk.

Whatever the threads do and however the datagrams are mixed, reordered or lost on the way,
the server hands on packets that were given to the client, each at most once and as it was
given. If no datagram is lost and no call is under way, it hands on all that is not left in
the queue.
-/

import PairDriver.Machine
import PairDriver.PacketChunks

namespace PairDriver.Sandbox

open FragmentReassembly

/-! ### The server -/

/-- What the server does on a datagram. -/
inductive ServerAction where
  | acknowledge (packet : IpcPacket)
  | onPacketReceived (packet : IpcPacket)
deriving DecidableEq

section Server

variable (replacing : List UInt8 → String)

/-- `OnBytesReceived` of the server, with a callback registered; a combined packet is received as
a datagram in its turn, to a depth. A throw ends the loop that receives. -/
def onBytesReceived : Nat → PacketBuffers → List UInt8 →
    Option (PacketBuffers × List ServerAction)
  | 0, _, _ => none
  | depth + 1, buffers, data => do
    let packet ← tryDecodePacket replacing data
    match packet with
    | none => return (buffers, [])
    | some (.handshake packet) =>
      let acknowledged := if packet.isValid then [.acknowledge (.handshake packet)] else []
      return (buffers, acknowledged ++ [.onPacketReceived (.handshake packet)])
    | some .splitPacketChunk =>
      let (buffers, combinedData) ← decodePacket buffers data
      if combinedData.length > 0 then onBytesReceived depth buffers combinedData
      else return (buffers, [])
    | some packet => return (buffers, [.onPacketReceived packet])

/-- The datagrams that arrive one after the other. -/
def listen (depth : Nat) (buffers : PacketBuffers) :
    List (List UInt8) → Option (PacketBuffers × List ServerAction)
  | [] => some (buffers, [])
  | data :: rest => (onBytesReceived replacing depth buffers data).bind fun received =>
      (listen depth received.1 rest).map fun last => (last.1, received.2 ++ last.2)

end Server

/-! ### The client -/

/-- The datagrams of a packet; the id counts if it is split. -/
def datagrams (mtu : Nat) (packet : UInt32 × IpcPacket) : List (List UInt8) :=
  if packet.2.getBytes.length > mtu then splitPacketIntoChunks packet.2.getBytes mtu packet.1
  else [packet.2.getBytes]

/-- A call of `SendData` under way: it is about to queue its packet, or has datagrams left. -/
inductive Call where
  | pushing (packet : IpcPacket)
  | sending (left : List (List UInt8))

/-- The client with the calls under way, what the acknowledgement has left to send of the packet
it took off the queue, and the datagrams on the wire; then the packets given to it so far, and
those whose sending began, with the id that each drew. -/
structure Client where
  handshakeConnected : Bool := false
  eventBus : List IpcPacket := []
  running : List Call := []
  flushing : Option (List (List UInt8)) := none
  wire : List (List UInt8) := []
  given : List IpcPacket := []
  begun : List (UInt32 × IpcPacket) := []

inductive ClientEvent where
  | sendData (packet : IpcPacket) (packetId : UInt32)
  | advance (call : Nat)
  | acknowledged
  | sendPending (packetId : UInt32)

/-- One step of a call: the push, the next datagram, or the return. -/
def Client.advance (call : Nat) (client : Client) : Option Client :=
  match client.running[call]? with
  | none => none
  | some (.pushing packet) => some { client with
      eventBus := client.eventBus ++ [packet]
      running := client.running.eraseIdx call }
  | some (.sending []) => some { client with running := client.running.eraseIdx call }
  | some (.sending (data :: left)) => some { client with
      wire := client.wire ++ [data]
      running := .sending left :: client.running.eraseIdx call }

/-- One step of `SendAllPendingPackets`. -/
def Client.sendPending (mtu : Nat) (packetId : UInt32) (client : Client) : Option Client :=
  match client.flushing, client.eventBus with
  | none, _ => none
  | some (data :: left), _ => some { client with
      wire := client.wire ++ [data]
      flushing := some left }
  | some [], packet :: rest => some { client with
      eventBus := rest
      flushing := some (datagrams mtu (packetId, packet))
      begun := client.begun ++ [(packetId, packet)] }
  | some [], [] => some { client with flushing := none }

/-- The flag is read when the call begins. -/
def Client.step (mtu : Nat) (client : Client) : ClientEvent → Option Client
  | .sendData packet packetId =>
    if client.handshakeConnected || packet.getPacketType = .handshake then
      some { client with
        running := .sending (datagrams mtu (packetId, packet)) :: client.running
        given := client.given ++ [packet]
        begun := client.begun ++ [(packetId, packet)] }
    else
      some { client with
        running := .pushing packet :: client.running
        given := client.given ++ [packet] }
  | .advance call => client.advance call
  | .acknowledged =>
    if client.flushing.isNone then
      some { client with handshakeConnected := true, flushing := some [] }
    else none
  | .sendPending packetId => client.sendPending mtu packetId

/-! ### The books of the client -/

/-- The datagrams a call has left. -/
def Call.pending : Call → List (List UInt8)
  | .pushing _ => []
  | .sending left => left

/-- The packet a call is about to queue. -/
def Call.waiting : Call → List IpcPacket
  | .pushing packet => [packet]
  | .sending _ => []

/-- Every packet given to the client was begun, or is queued, or is about to be; and the datagrams
of those begun are on the wire or left to some call. -/
structure Accounts (mtu : Nat) (client : Client) : Prop where
  packets : client.given.Perm (client.begun.map Prod.snd ++
    (client.eventBus ++ client.running.flatMap Call.waiting))
  datagrams : (client.begun.flatMap (datagrams mtu)).Perm (client.wire ++
    (client.running.flatMap Call.pending ++ client.flushing.getD []))

/-- The books in numbers: how often each packet and each datagram occurs. -/
theorem Accounts.counts {mtu : Nat} {client : Client} (accounts : Accounts mtu client) :
    (∀ packet, client.given.count packet = (client.begun.map Prod.snd).count packet +
        (client.eventBus.count packet + (client.running.flatMap Call.waiting).count packet)) ∧
      ∀ data, (client.begun.flatMap (Sandbox.datagrams mtu)).count data = client.wire.count data +
        ((client.running.flatMap Call.pending).count data +
          (client.flushing.getD []).count data) := by
  obtain ⟨packets, parts⟩ := accounts
  rw [List.perm_iff_count] at packets parts
  simp only [List.count_append] at packets parts
  exact ⟨packets, parts⟩

theorem Accounts.of_counts {mtu : Nat} {client : Client}
    (packets : ∀ packet, client.given.count packet = (client.begun.map Prod.snd).count packet +
        (client.eventBus.count packet + (client.running.flatMap Call.waiting).count packet))
    (parts : ∀ data, (client.begun.flatMap (Sandbox.datagrams mtu)).count data =
      client.wire.count data + ((client.running.flatMap Call.pending).count data +
        (client.flushing.getD []).count data)) : Accounts mtu client := by
  refine ⟨List.perm_iff_count.mpr fun packet => ?_, List.perm_iff_count.mpr fun data => ?_⟩
  · rw [List.count_append, List.count_append]
    exact packets packet
  · rw [List.count_append, List.count_append]
    exact parts data

theorem taken {Value : Type} {running : List Call} {index : Nat} {call : Call}
    (found : running[index]? = some call) (part : Call → List Value) :
    (running.flatMap part).Perm (part call ++ (running.eraseIdx index).flatMap part) := by
  obtain ⟨inside, rfl⟩ := List.getElem?_eq_some_iff.mp found
  exact (List.getElem_cons_eraseIdx_perm inside).symm.flatMap_right part

theorem count_first {Item : Type} [BEq Item] (first : Item) (rest : List Item) (value : Item) :
    (first :: rest).count value = [first].count value + rest.count value :=
  @List.count_append _ _ value [first] rest

theorem advance_accounts {mtu : Nat} {client after : Client} (accounts : Accounts mtu client)
    {call : Nat} (stepped : client.advance call = some after) : Accounts mtu after := by
  obtain ⟨packets, parts⟩ := accounts.counts
  rw [Client.advance] at stepped
  cases found : client.running[call]? with
  | none =>
    rw [found] at stepped
    exact absurd stepped (Option.some_ne_none _).symm
  | some taking =>
    rw [found] at stepped
    have waiting := List.perm_iff_count.mp (taken found Call.waiting)
    have pending := List.perm_iff_count.mp (taken found Call.pending)
    simp only [List.count_append] at waiting pending
    cases taking with
    | pushing packet =>
      cases Option.some.inj stepped
      refine .of_counts (fun value => ?_) fun value => ?_
      · have before := packets value
        have moved := waiting value
        simp only [List.count_append, Call.waiting] at moved ⊢
        omega
      · have before := parts value
        have moved := pending value
        simp only [Call.pending, List.count_nil] at moved ⊢
        omega
    | sending left =>
      cases left with
      | nil =>
        cases Option.some.inj stepped
        refine .of_counts (fun value => ?_) fun value => ?_
        · have before := packets value
          have moved := waiting value
          simp only [Call.waiting, List.count_nil] at moved ⊢
          omega
        · have before := parts value
          have moved := pending value
          simp only [Call.pending, List.count_nil] at moved ⊢
          omega
      | cons data left =>
        cases Option.some.inj stepped
        refine .of_counts (fun value => ?_) fun value => ?_
        · have before := packets value
          have moved := waiting value
          simp only [List.count_append, List.flatMap_cons, Call.waiting, List.count_nil]
            at moved ⊢
          omega
        · have before := parts value
          have moved := pending value
          have first := count_first data left value
          simp only [List.count_append, List.flatMap_cons, Call.pending] at moved ⊢
          omega

theorem sendPending_accounts {mtu : Nat} {client after : Client} (accounts : Accounts mtu client)
    {packetId : UInt32} (stepped : client.sendPending mtu packetId = some after) :
    Accounts mtu after := by
  obtain ⟨packets, parts⟩ := accounts.counts
  rw [Client.sendPending] at stepped
  cases flushing : client.flushing with
  | none =>
    rw [flushing] at stepped
    exact absurd stepped (Option.some_ne_none _).symm
  | some left =>
    rw [flushing] at stepped parts
    cases left with
    | cons data left =>
      cases Option.some.inj stepped
      refine .of_counts (fun value => ?_) fun value => ?_
      · exact packets value
      · have before := parts value
        have first := count_first data left value
        simp only [List.count_append, Option.getD_some] at before ⊢
        omega
    | nil =>
      cases queued : client.eventBus with
      | nil =>
        rw [queued] at stepped
        cases Option.some.inj stepped
        refine .of_counts (fun value => ?_) fun value => ?_
        · have before := packets value
          simp only [queued] at before ⊢
          omega
        · have before := parts value
          simp only [Option.getD_some, Option.getD_none] at before ⊢
          omega
      | cons packet rest =>
        rw [queued] at stepped packets
        cases Option.some.inj stepped
        refine .of_counts (fun value => ?_) fun value => ?_
        · have before := packets value
          have first := count_first packet rest value
          simp only [List.count_append, List.map_append, List.map_singleton] at before ⊢
          omega
        · have before := parts value
          simp only [List.count_append, List.flatMap_append, List.flatMap_singleton,
            Option.getD_some, List.count_nil] at before ⊢
          omega

theorem step_accounts {mtu : Nat} {client after : Client} (accounts : Accounts mtu client)
    {event : ClientEvent} (stepped : client.step mtu event = some after) :
    Accounts mtu after := by
  cases event with
  | advance call => exact advance_accounts accounts stepped
  | sendPending packetId => exact sendPending_accounts accounts stepped
  | acknowledged =>
    rw [Client.step] at stepped
    split at stepped
    next idle =>
      cases Option.some.inj stepped
      have none := Option.isNone_iff_eq_none.mp idle
      refine ⟨accounts.packets, ?_⟩
      have before := accounts.datagrams
      rwa [none] at before
    · exact absurd stepped (Option.some_ne_none _).symm
  | sendData packet packetId =>
    obtain ⟨packets, parts⟩ := accounts.counts
    rw [Client.step] at stepped
    split at stepped
    · cases Option.some.inj stepped
      refine .of_counts (fun value => ?_) fun value => ?_
      · have before := packets value
        simp only [List.count_append, List.flatMap_cons, Call.waiting, List.count_nil,
          List.map_append, List.map_singleton] at before ⊢
        omega
      · have before := parts value
        simp only [List.count_append, List.flatMap_cons, List.flatMap_append, List.flatMap_nil,
          List.count_nil, Call.pending] at before ⊢
        omega
    · cases Option.some.inj stepped
      refine .of_counts (fun value => ?_) fun value => ?_
      · have before := packets value
        simp only [List.count_append, List.flatMap_cons, Call.waiting] at before ⊢
        omega
      · have before := parts value
        simp only [List.count_append, List.flatMap_cons, Call.pending, List.count_nil]
          at before ⊢
        omega

/-- The books hold in every run. -/
theorem reaches_accounts {mtu : Nat} {client : Client} {allowed : Client → ClientEvent → Prop}
    (reached : Reaches (Client.step mtu) allowed {} client) : Accounts mtu client :=
  reached.invariant ⟨List.Perm.refl [], List.Perm.refl []⟩
    fun _ _ _ accounts _ stepped => step_accounts accounts stepped

/-! ### What the server makes of the datagrams -/

/-- The actions a packet comes to. -/
def actionsOf : IpcPacket → List ServerAction
  | .handshake packet => [.acknowledge (.handshake packet), .onPacketReceived (.handshake packet)]
  | packet => [.onPacketReceived packet]

/-- The type word says that a datagram is a chunk. -/
def isChunk (data : List UInt8) : Bool :=
  toUInt32 data 4 == some PacketType.splitPacketChunk.number

/-- The packet is split. -/
def large (mtu : Nat) (packet : UInt32 × IpcPacket) : Bool :=
  packet.2.getBytes.length > mtu

/-- Packets that can be sent, whose ids differ as far as they are split. -/
structure Traffic (mtu : Nat) (sent : List (UInt32 × IpcPacket)) : Prop where
  room : packetNonDataSizeBytes < decreasedMtu mtu
  whole : ∀ packet ∈ sent, packet.2 ≠ .splitPacketChunk
  sized : ∀ packet ∈ sent, packet.2.getBytes.length < 2 ^ 31
  distinct : ((sent.filter (large mtu)).map Prod.fst).Nodup

/-- The packets that are split, as bytes under their ids. -/
def largeBytes (mtu : Nat) (sent : List (UInt32 × IpcPacket)) : List (UInt32 × List UInt8) :=
  (sent.filter (large mtu)).map fun packet => (packet.1, packet.2.getBytes)

section Delivery

variable (replacing : List UInt8 → String) {mtu : Nat} {sent : List (UInt32 × IpcPacket)}

/-- The packet in a datagram. -/
def decodedOf (data : List UInt8) : IpcPacket :=
  ((tryDecodePacket replacing data).getD none).getD .eventUpdate

theorem getBytes_header {packet : IpcPacket} (whole : packet ≠ .splitPacketChunk) :
    ∃ body, packet.getBytes = header packet.getPacketType ++ body := by
  cases packet with
  | splitPacketChunk => exact absurd rfl whole
  | eventGetSupported => exact ⟨[], rfl⟩
  | eventTeardown => exact ⟨[], rfl⟩
  | eventUpdate => exact ⟨[], rfl⟩
  | replyTeardown => exact ⟨[], rfl⟩
  | handshake packet => exact ⟨_, rfl⟩
  | eventInit packet => exact ⟨_, rfl⟩
  | eventUpdateStatus moduleState => exact ⟨_, rfl⟩
  | eventLog packet => exact ⟨_, rfl⟩
  | replyGetSupported packet => exact ⟨_, rfl⟩
  | replyInit packet => exact ⟨_, rfl⟩
  | replyUpdate data => exact ⟨_, rfl⟩

theorem type_header (type : PacketType) (body : List UInt8) :
    toUInt32 (header type ++ body) 4 = some type.number := by
  rw [header, List.append_assoc]
  exact toUInt32_append handshakeMagic body type.number

theorem isChunk_getBytes {packet : IpcPacket} (whole : packet ≠ .splitPacketChunk) :
    isChunk packet.getBytes = false := by
  obtain ⟨body, bytes⟩ := getBytes_header whole
  rw [isChunk, bytes, type_header]
  cases packet with
  | splitPacketChunk => exact absurd rfl whole
  | _ => rfl

theorem chunk_header (room : packetNonDataSizeBytes < decreasedMtu mtu)
    {packet : UInt32 × List UInt8} {chunk : List UInt8}
    (member : chunk ∈ splitPacketIntoChunks packet.2 mtu packet.1) :
    ∃ body, chunk = header .splitPacketChunk ++ body := by
  rw [splitPacketIntoChunks_eq room.le] at member
  obtain ⟨fragment, -, rfl⟩ := List.mem_map.mp member
  exact ⟨_, rfl⟩

theorem isChunk_chunk (room : packetNonDataSizeBytes < decreasedMtu mtu)
    {packet : UInt32 × List UInt8} {chunk : List UInt8}
    (member : chunk ∈ splitPacketIntoChunks packet.2 mtu packet.1) : isChunk chunk = true := by
  obtain ⟨body, rfl⟩ := chunk_header room member
  rw [isChunk, type_header, beq_self_eq_true]

theorem decodedOf_getBytes (traffic : Traffic mtu sent) {packet : UInt32 × IpcPacket}
    (member : packet ∈ sent) : decodedOf replacing packet.2.getBytes = packet.2.received := by
  rw [decodedOf, tryDecodePacket_getBytes replacing packet.2 (traffic.whole packet member)
    (traffic.sized packet member)]
  rfl

/-- A packet in one datagram, or put together from chunks. -/
theorem onBytesReceived_getBytes (traffic : Traffic mtu sent) {packet : UInt32 × IpcPacket}
    (member : packet ∈ sent) (depth : Nat) (buffers : PacketBuffers) :
    onBytesReceived replacing (depth + 1) buffers packet.2.getBytes =
      some (buffers, actionsOf packet.2.received) := by
  have whole := traffic.whole packet member
  rw [onBytesReceived, tryDecodePacket_getBytes replacing packet.2 whole
    (traffic.sized packet member), Option.bind_eq_bind, Option.bind_some]
  generalize packet.2 = sending at whole
  cases sending with
  | splitPacketChunk => exact absurd rfl whole
  | _ => rfl

theorem distinct_largeBytes (traffic : Traffic mtu sent) :
    ((largeBytes mtu sent).map Prod.fst).Nodup := by
  rw [largeBytes, List.map_map]
  exact traffic.distinct

theorem sized_largeBytes (traffic : Traffic mtu sent) :
    ∀ packet ∈ largeBytes mtu sent, packet.2.length < 2 ^ 31 := by
  intro packet member
  obtain ⟨source, inside, rfl⟩ := List.mem_map.mp member
  exact traffic.sized source (List.mem_filter.mp inside).1

theorem content_of_message (traffic : Traffic mtu sent) {message : Message UInt32 UInt8}
    (member : message ∈ (largeBytes mtu sent).map (packetMessage mtu)) :
    ∃ packet ∈ sent, message.content = packet.2.getBytes ∧ packet.2.getBytes ≠ [] := by
  obtain ⟨bytes, inside, rfl⟩ := List.mem_map.mp member
  obtain ⟨packet, kept, rfl⟩ := List.mem_map.mp inside
  obtain ⟨own, long⟩ := List.mem_filter.mp kept
  refine ⟨packet, own, content_packetMessage traffic.room _, fun none => ?_⟩
  rw [large, none] at long
  exact absurd (of_decide_eq_true long) (Nat.not_lt_zero _)

/-- One chunk: what it completes is received in its turn. -/
theorem onBytesReceived_chunk (traffic : Traffic mtu sent) {before : List (List UInt8)}
    {chunk : List UInt8}
    (arrives : (before ++ [chunk]).Subperm (splitAll mtu (largeBytes mtu sent))) :
    onBytesReceived replacing 2 (buffersOf (before.map fragmentOf)) chunk =
      some (buffersOf ((before ++ [chunk]).map fragmentOf),
        (release (before.map fragmentOf) (fragmentOf chunk)).flatMap
          fun bytes => actionsOf (decodedOf replacing bytes)) := by
  have there := arrives.subset (List.mem_append_right before (List.mem_singleton_self chunk))
  obtain ⟨bytes, -, own⟩ := List.mem_flatMap.mp there
  obtain ⟨body, begins⟩ := chunk_header traffic.room own
  have decoded : tryDecodePacket replacing chunk = some (some .splitPacketChunk) := by
    rw [begins]
    exact tryDecodePacket_header replacing .splitPacketChunk body
  have fragments := arrives_fragments traffic.room (sized_largeBytes traffic) arrives
  have keys : (((largeBytes mtu sent).map (packetMessage mtu)).map Message.key).Nodup :=
    keys_packetMessage ▸ distinct_largeBytes traffic
  rw [List.map_append, List.map_singleton] at fragments
  obtain ⟨message, member, ours⟩ := fragments.sender
    (List.mem_append_right _ (List.mem_singleton_self _))
  rw [onBytesReceived, decoded, Option.bind_eq_bind, Option.bind_some]
  simp only [decodePacket_release traffic.room (sized_largeBytes traffic)
    (distinct_largeBytes traffic) arrives, Option.bind_eq_bind, Option.bind_some]
  rw [(release_eq fragments keys member ours).1]
  by_cases done : complete (before.map fragmentOf ++ [fragmentOf chunk]) message = true
  · obtain ⟨packet, inside, content, some⟩ := content_of_message traffic member
    rw [if_pos done, List.flatten_cons, List.flatten_nil, List.append_nil, content,
      if_pos (List.length_pos_iff.mpr some), onBytesReceived_getBytes replacing traffic inside,
      List.flatMap_cons, List.flatMap_nil, List.append_nil,
      decodedOf_getBytes replacing traffic inside]
  · rw [if_neg done]
    rfl

theorem listen_append (depth : Nat) (buffers : PacketBuffers) (first second : List (List UInt8)) :
    listen replacing depth buffers (first ++ second) =
      (listen replacing depth buffers first).bind fun earlier =>
        (listen replacing depth earlier.1 second).map fun last =>
          (last.1, earlier.2 ++ last.2) := by
  induction first generalizing buffers with
  | nil =>
    rw [List.nil_append, listen, Option.bind_some]
    exact Option.map_id'.symm
  | cons data rest inductionHypothesis =>
    rw [List.cons_append, listen, listen]
    simp only [inductionHypothesis, Option.bind_assoc, Option.bind_map, Option.map_bind,
      Option.map_map, Function.comp_def, List.append_assoc]

theorem listen_snoc {buffers middle after : PacketBuffers} {before : List (List UInt8)}
    {data : List UInt8} {earlier last : List ServerAction}
    (heard : listen replacing 2 buffers before = some (middle, earlier))
    (received : onBytesReceived replacing 2 middle data = some (after, last)) :
    listen replacing 2 buffers (before ++ [data]) = some (after, earlier ++ last) := by
  have one : listen replacing 2 middle [data] = some (after, last) := by
    rw [listen, received, Option.bind_some, listen, Option.map_some, List.append_nil]
  rw [listen_append, heard, Option.bind_some, one]
  rfl

theorem filter_chunks (traffic : Traffic mtu sent) :
    (sent.flatMap (datagrams mtu)).filter isChunk = splitAll mtu (largeBytes mtu sent) ∧
      (sent.flatMap (datagrams mtu)).filter (fun data => !isChunk data) =
        (sent.filter fun packet => !large mtu packet).map fun packet => packet.2.getBytes := by
  have each (packet : UInt32 × IpcPacket) (member : packet ∈ sent) :
      (large mtu packet = true → ∀ data ∈ datagrams mtu packet, isChunk data = true) ∧
        (large mtu packet = false → datagrams mtu packet = [packet.2.getBytes] ∧
          isChunk packet.2.getBytes = false) := by
    constructor
    · intro long data own
      rw [datagrams, if_pos (of_decide_eq_true long)] at own
      have chunk : data ∈ splitPacketIntoChunks (packet.1, packet.2.getBytes).2 mtu
        (packet.1, packet.2.getBytes).1 := own
      exact isChunk_chunk traffic.room chunk
    · intro short
      exact ⟨if_neg (of_decide_eq_false short), isChunk_getBytes (traffic.whole packet member)⟩
  clear traffic
  rw [splitAll, largeBytes]
  induction sent with
  | nil => exact ⟨rfl, rfl⟩
  | cons packet rest inductionHypothesis =>
    obtain ⟨chunks, others⟩ := inductionHypothesis fun other member =>
      each other (List.mem_cons_of_mem _ member)
    have head := each packet List.mem_cons_self
    simp only [List.flatMap_cons, List.filter_append, List.filter_cons, chunks, others]
    cases size : large mtu packet with
    | true =>
      have all := head.1 size
      have long : packet.2.getBytes.length > mtu := of_decide_eq_true size
      constructor
      · rw [List.filter_eq_self.mpr all, if_pos rfl, List.map_cons, List.flatMap_cons, datagrams,
          if_pos long]
      · rw [List.filter_eq_nil_iff.mpr fun data own => by rw [all data own]; decide]
        rfl
    | false =>
      obtain ⟨one, whole⟩ := head.2 size
      rw [one]
      constructor
      · rw [List.filter_cons_of_neg (by rw [whole]; decide)]
        rfl
      · rw [List.filter_cons_of_pos (by rw [whole]; decide)]
        rfl

/-- The server after the datagrams that arrived: its buffers hold the chunks among them, and it
acted on the packets that came in one datagram and on those that were completed. -/
theorem listen_eq (traffic : Traffic mtu sent) {arrived : List (List UInt8)}
    (arrives : arrived.Subperm (sent.flatMap (datagrams mtu))) :
    ∃ received : List IpcPacket, listen replacing 2 (fun _ => none) arrived =
        some (buffersOf ((arrived.filter isChunk).map fragmentOf),
          received.flatMap actionsOf) ∧
      received.Perm ((arrived.filter fun data => !isChunk data).map (decodedOf replacing) ++
        (emitted [] ((arrived.filter isChunk).map fragmentOf)).map (decodedOf replacing)) := by
  induction arrived using List.reverseRecOn with
  | nil => exact ⟨[], rfl, List.Perm.refl []⟩
  | append_singleton before data inductionHypothesis =>
    have earlier := (List.sublist_append_left before [data]).subperm.trans arrives
    obtain ⟨received, heard, same⟩ := inductionHypothesis earlier
    cases kind : isChunk data with
    | false =>
      have there := arrives.subset (List.mem_append_right before (List.mem_singleton_self data))
      have small : data ∈ (sent.flatMap (datagrams mtu)).filter fun data => !isChunk data :=
        List.mem_filter.mpr ⟨there, by rw [kind]; rfl⟩
      rw [(filter_chunks traffic).2] at small
      obtain ⟨packet, kept, rfl⟩ := List.mem_map.mp small
      have member := (List.mem_filter.mp kept).1
      refine ⟨received ++ [packet.2.received], ?_, ?_⟩
      · rw [listen_snoc replacing heard (onBytesReceived_getBytes replacing traffic member 1 _)]
        simp only [List.filter_append, List.flatMap_append, List.flatMap_cons, List.flatMap_nil,
          List.append_nil, List.filter_cons, kind, Bool.false_eq_true, if_false, List.filter_nil]
      · simp only [List.filter_append, List.filter_cons, kind, Bool.false_eq_true, if_false,
          List.filter_nil, Bool.not_false, if_true, List.map_append, List.map_singleton,
          List.append_nil, decodedOf_getBytes replacing traffic member]
        rw [List.append_assoc, List.singleton_append]
        refine (same.append_right _).trans ?_
        rw [List.append_assoc]
        exact (List.perm_append_singleton _ _).append_left _
    | true =>
      have chunks : (before.filter isChunk ++ [data]).Subperm
          (splitAll mtu (largeBytes mtu sent)) := by
        have kept := List.Subperm.filter isChunk arrives
        rw [(filter_chunks traffic).1, List.filter_append,
          List.filter_cons_of_pos (by exact kind), List.filter_nil] at kept
        exact kept
      refine ⟨received ++ (release ((before.filter isChunk).map fragmentOf)
        (fragmentOf data)).map (decodedOf replacing), ?_, ?_⟩
      · rw [listen_snoc replacing heard (onBytesReceived_chunk replacing traffic chunks)]
        simp only [List.filter_append, List.flatMap_append, List.filter_cons, kind, if_true,
          List.filter_nil, List.flatMap_map]
      · simp only [List.filter_append, List.filter_cons, kind, if_true, List.filter_nil,
          Bool.not_true, Bool.false_eq_true, if_false, List.append_nil, List.map_append,
          List.map_singleton]
        rw [emitted_append, List.nil_append, emitted, emitted, List.append_nil, List.map_append,
          ← List.append_assoc]
        exact same.append_right _

theorem subperm_map {Source Target : Type} {first second : List Source}
    (inside : first.Subperm second) (make : Source → Target) :
    (first.map make).Subperm (second.map make) := by
  obtain ⟨same, perm, kept⟩ := inside
  exact ⟨same.map make, perm.map make, kept.map make⟩

theorem map_small (traffic : Traffic mtu sent) :
    ((sent.filter fun packet => !large mtu packet).map fun packet => packet.2.getBytes).map
        (decodedOf replacing) =
      (sent.filter fun packet => !large mtu packet).map fun packet => packet.2.received := by
  rw [List.map_map]
  exact List.map_congr_left fun packet kept =>
    decodedOf_getBytes replacing traffic (List.mem_filter.mp kept).1

theorem map_large (traffic : Traffic mtu sent) :
    (((largeBytes mtu sent).map (packetMessage mtu)).map Message.content).map
        (decodedOf replacing) =
      (sent.filter (large mtu)).map fun packet => packet.2.received := by
  rw [largeBytes, List.map_map, List.map_map, List.map_map]
  refine List.map_congr_left fun packet kept => ?_
  have content := content_packetMessage traffic.room (packet.1, packet.2.getBytes)
  simp only [Function.comp_apply, content]
  exact decodedOf_getBytes replacing traffic (List.mem_filter.mp kept).1

theorem small_large (sent : List (UInt32 × IpcPacket)) :
    (((sent.filter fun packet => !large mtu packet).map fun packet => packet.2.received) ++
        (sent.filter (large mtu)).map fun packet => packet.2.received).Perm
      (sent.map fun packet => packet.2.received) := by
  rw [← List.map_append]
  exact (List.perm_append_comm.trans (List.filter_append_perm (large mtu) sent)).map _

/-- Of the datagrams of some packets, in any order and with losses, the server makes these
packets, each at most once; if none is lost, all of them. -/
theorem server_delivers (traffic : Traffic mtu sent) {arrived : List (List UInt8)}
    (arrives : arrived.Subperm (sent.flatMap (datagrams mtu))) :
    ∃ buffers, ∃ received : List IpcPacket,
      listen replacing 2 (fun _ => none) arrived = some (buffers, received.flatMap actionsOf) ∧
      received.Subperm (sent.map fun packet => packet.2.received) ∧
      (arrived.Perm (sent.flatMap (datagrams mtu)) →
        received.Perm (sent.map fun packet => packet.2.received)) := by
  obtain ⟨received, heard, same⟩ := listen_eq replacing traffic arrives
  refine ⟨_, received, heard, ?_, fun all => ?_⟩
  · have whole : (arrived.filter fun data => !isChunk data).Subperm
        ((sent.filter fun packet => !large mtu packet).map fun packet => packet.2.getBytes) := by
      rw [← (filter_chunks traffic).2]
      exact List.Subperm.filter _ arrives
    have chunks : (arrived.filter isChunk).Subperm (splitAll mtu (largeBytes mtu sent)) := by
      rw [← (filter_chunks traffic).1]
      exact List.Subperm.filter _ arrives
    have fragments := arrives_fragments traffic.room (sized_largeBytes traffic) chunks
    have keys : (((largeBytes mtu sent).map (packetMessage mtu)).map Message.key).Nodup :=
      keys_packetMessage ▸ distinct_largeBytes traffic
    have completed := ((emitted_perm fragments keys).map (decodedOf replacing)).subperm.trans
      (((List.filter_sublist (l := (largeBytes mtu sent).map (packetMessage mtu))).map
        Message.content).map (decodedOf replacing)).subperm
    have small := subperm_map whole (decodedOf replacing)
    rw [map_small replacing traffic] at small
    rw [map_large replacing traffic] at completed
    exact same.subperm.trans ((small.append completed).trans (small_large sent).subperm)
  · have whole : (arrived.filter fun data => !isChunk data).Perm
        ((sent.filter fun packet => !large mtu packet).map fun packet => packet.2.getBytes) := by
      rw [← (filter_chunks traffic).2]
      exact all.filter _
    have chunks : (arrived.filter isChunk).Perm (splitAll mtu (largeBytes mtu sent)) := by
      rw [← (filter_chunks traffic).1]
      exact all.filter _
    have fragments := arrives_fragments traffic.room (sized_largeBytes traffic) chunks.subperm
    have keys : (((largeBytes mtu sent).map (packetMessage mtu)).map Message.key).Nodup :=
      keys_packetMessage ▸ distinct_largeBytes traffic
    have every : ((arrived.filter isChunk).map fragmentOf).Perm
        (((largeBytes mtu sent).map (packetMessage mtu)).flatMap Message.fragments) := by
      rw [← fragments_splitAll traffic.room (sized_largeBytes traffic)]
      exact chunks.map fragmentOf
    have done : ((largeBytes mtu sent).map (packetMessage mtu)).filter
        (complete ((arrived.filter isChunk).map fragmentOf)) =
          (largeBytes mtu sent).map (packetMessage mtu) := by
      refine List.filter_eq_self.mpr fun message member => ?_
      obtain ⟨packet, -, content, some⟩ := content_of_message traffic member
      refine complete_of_perm every keys member fun none => some ?_
      rw [← content, Message.content, none, List.flatten_nil]
    have completed := (emitted_perm fragments keys).map (decodedOf replacing)
    have small := whole.map (decodedOf replacing)
    rw [map_small replacing traffic] at small
    rw [done, map_large replacing traffic] at completed
    exact same.trans ((small.append completed).trans (small_large sent))

/-- What the server makes of the datagrams of a client that are not lost. -/
theorem accounts_delivers {client : Client} (accounts : Accounts mtu client)
    (traffic : Traffic mtu client.begun) {arrived : List (List UInt8)}
    (arrives : arrived.Subperm client.wire) :
    ∃ buffers, ∃ received : List IpcPacket,
      listen replacing 2 (fun _ => none) arrived = some (buffers, received.flatMap actionsOf) ∧
      received.Subperm (client.given.map IpcPacket.received) ∧
      (client.running = [] → client.flushing.getD [] = [] → arrived.Perm client.wire →
        (received ++ client.eventBus.map IpcPacket.received).Perm
          (client.given.map IpcPacket.received)) := by
  obtain ⟨packets, parts⟩ := accounts
  have sent : client.wire.Subperm (client.begun.flatMap (datagrams mtu)) :=
    (List.sublist_append_left _ _).subperm.trans parts.symm.subperm
  obtain ⟨buffers, received, heard, some, all⟩ :=
    server_delivers replacing traffic (arrives.trans sent)
  have begun : (client.begun.map fun packet => packet.2.received) =
      (client.begun.map Prod.snd).map IpcPacket.received := by
    rw [List.map_map]
    rfl
  rw [begun] at some all
  have given := packets.map IpcPacket.received
  rw [List.map_append] at given
  refine ⟨buffers, received, heard, ?_, fun idle flushed lossless => ?_⟩
  · exact some.trans ((List.sublist_append_left _ _).subperm.trans given.symm.subperm)
  · rw [idle, flushed, List.flatMap_nil, List.append_nil, List.append_nil] at parts
    rw [idle, List.flatMap_nil, List.append_nil] at given
    exact ((all (lossless.trans parts.symm)).append_right _).trans given.symm

end Delivery

/-! ### When nothing stays in the queue -/

/-- The queue is found empty only when no call is about to push. -/
def Drained (client : Client) : ClientEvent → Prop
  | .sendPending _ => client.flushing = some [] → client.eventBus = [] →
      client.running.flatMap Call.waiting = []
  | _ => True

instance (client : Client) (event : ClientEvent) : Decidable (Drained client event) :=
  match event with
  | .sendPending _ => inferInstanceAs (Decidable (client.flushing = some [] →
      client.eventBus = [] → client.running.flatMap Call.waiting = []))
  | .sendData _ _ => isTrue trivial
  | .advance _ => isTrue trivial
  | .acknowledged => isTrue trivial

/-- Once the queue was sent, it is empty and stays so. -/
def Emptied (client : Client) : Prop :=
  client.handshakeConnected = true → client.flushing = none →
    client.eventBus = [] ∧ client.running.flatMap Call.waiting = []

theorem step_emptied {mtu : Nat} {client after : Client} {event : ClientEvent}
    (emptied : Emptied client) (drained : Drained client event)
    (stepped : client.step mtu event = some after) : Emptied after := by
  cases event with
  | sendData packet packetId =>
    rw [Client.step] at stepped
    split at stepped
    · cases Option.some.inj stepped
      exact emptied
    · rename_i refused
      cases Option.some.inj stepped
      intro connected
      have flag : client.handshakeConnected = true := connected
      rw [flag, Bool.true_or] at refused
      exact absurd rfl refused
  | acknowledged =>
    rw [Client.step] at stepped
    split at stepped
    · cases Option.some.inj stepped
      exact fun _ sending => absurd sending (Option.some_ne_none _)
    · exact absurd stepped (Option.some_ne_none _).symm
  | sendPending packetId =>
    rw [Client.step, Client.sendPending] at stepped
    cases flushing : client.flushing with
    | none =>
      rw [flushing] at stepped
      exact absurd stepped (Option.some_ne_none _).symm
    | some left =>
      rw [flushing] at stepped
      cases left with
      | cons data left =>
        cases Option.some.inj stepped
        exact fun _ sending => absurd sending (Option.some_ne_none _)
      | nil =>
        cases queued : client.eventBus with
        | nil =>
          rw [queued] at stepped
          cases Option.some.inj stepped
          exact fun _ _ => ⟨rfl, drained flushing queued⟩
        | cons packet rest =>
          rw [queued] at stepped
          cases Option.some.inj stepped
          exact fun _ sending => absurd sending (Option.some_ne_none _)
  | advance call =>
    rw [Client.step, Client.advance] at stepped
    cases found : client.running[call]? with
    | none =>
      rw [found] at stepped
      exact absurd stepped (Option.some_ne_none _).symm
    | some taking =>
      rw [found] at stepped
      have waiting := taken found Call.waiting
      cases taking with
      | pushing packet =>
        cases Option.some.inj stepped
        intro connected idle
        rw [(emptied connected idle).2] at waiting
        exact absurd waiting.symm.eq_nil (List.cons_ne_nil _ _)
      | sending left =>
        cases left with
        | nil =>
          cases Option.some.inj stepped
          intro connected idle
          rw [(emptied connected idle).2] at waiting
          exact ⟨(emptied connected idle).1, waiting.symm.eq_nil⟩
        | cons data left =>
          cases Option.some.inj stepped
          intro connected idle
          rw [(emptied connected idle).2] at waiting
          exact ⟨(emptied connected idle).1, waiting.symm.eq_nil⟩

/-- A handshake, and a log message that was queued and is split. -/
def someBegun : List (UInt32 × IpcPacket) :=
  [(0, .handshake { pid := 5, modulePath := "m" }),
    (7, .eventLog { logLevel := 2, message := "a message longer than a datagram" })]

/-- The message is queued while the handshake is being sent, and sent after the answer. -/
def someCalls : List ClientEvent :=
  [.sendData (.handshake { pid := 5, modulePath := "m" }) 0,
    .sendData (.eventLog { logLevel := 2, message := "a message longer than a datagram" }) 3,
    .advance 0, .advance 0, .advance 0, .acknowledged, .sendPending 7, .sendPending 0,
    .sendPending 0, .sendPending 0, .sendPending 0]

end PairDriver.Sandbox
