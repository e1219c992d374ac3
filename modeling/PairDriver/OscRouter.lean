/-
This file models the OSC router inside the driver: the route table, the send queue with
its three producers and one consumer, and the counters they keep.

The table is written by the requests of the overlay. The queue is filled by calls from
other modules, by publish requests and by the frames of the publish pipe, and emptied by
the send worker, which counts the matches of what it has sent. Each event of the model is
what one thread does under the lock of the table or the queue.
-/

import PairDriver.Decimal
import PairDriver.OscPattern
import PairDriver.OscRoundTrip
import PairDriver.RingBuffer

namespace PairDriver.Router

open Osc PubPipe

/-! ### The route table -/

/-- `OSC_ROUTER_ROUTE_SLOTS`. -/
def kMaxRoutes : Nat := 32

/-- `OSC_ROUTE_ADDR_LEN`. -/
def routeAddrLen : Nat := 64

/-- A route; its texts are C strings. -/
structure RouteEntry where
  subscriberId : UInt32
  pattern : List UInt8
  subscriberLabel : List UInt8
  matchCount : UInt64 := 0
  dropCount : UInt64 := 0
  lastMatchTick : UInt64 := 0
  active : Bool := false
deriving DecidableEq

structure RouteTable where
  entries : Fin kMaxRoutes → RouteEntry

/-- `FindSlot`. -/
def RouteTable.findSlot (table : RouteTable) (id : UInt32) : Option (Fin kMaxRoutes) :=
  (List.finRange kMaxRoutes).find? fun slot =>
    (table.entries slot).active && (table.entries slot).subscriberId == id

/-- `FindFreeSlot`. -/
def RouteTable.findFreeSlot (table : RouteTable) : Option (Fin kMaxRoutes) :=
  (List.finRange kMaxRoutes).find? fun slot => !(table.entries slot).active

/-- The loop that copies a C string into a buffer and terminates it. -/
def copyText (size : Nat) (text : List UInt8) : List UInt8 :=
  (cString text).take (size - 1)

/-- What `Subscribe` writes into a slot. -/
def routeEntry (id : UInt32) (pattern label : List UInt8) : RouteEntry where
  subscriberId := id
  pattern := copyText routeAddrLen pattern
  subscriberLabel := copyText 32 label
  matchCount := 0
  dropCount := 0
  lastMatchTick := 0
  active := true

def RouteTable.set (table : RouteTable) (slot : Fin kMaxRoutes) (entry : RouteEntry) : RouteTable :=
  { entries := Function.update table.entries slot entry }

theorem set_entries_self (table : RouteTable) (slot : Fin kMaxRoutes) (entry : RouteEntry) :
    (table.set slot entry).entries slot = entry := Function.update_self _ _ _

theorem set_entries_other (table : RouteTable) {slot other : Fin kMaxRoutes} (entry : RouteEntry)
    (different : other ≠ slot) : (table.set slot entry).entries other = table.entries other :=
  Function.update_of_ne different _ _

/-- The slot `Subscribe` writes, if the table is not full. -/
def RouteTable.subscribeSlot (table : RouteTable) (id : UInt32) : Option (Fin kMaxRoutes) :=
  match table.findSlot id with
  | some slot => some slot
  | none => table.findFreeSlot

def RouteTable.subscribe (table : RouteTable) (id : UInt32) (pattern label : List UInt8) :
    Bool × RouteTable :=
  match table.subscribeSlot id with
  | some slot => (true, table.set slot (routeEntry id pattern label))
  | none => (false, table)

def RouteTable.unsubscribe (table : RouteTable) (id : UInt32) : RouteTable :=
  match table.findSlot id with
  | some slot => table.set slot { table.entries slot with active := false }
  | none => table

/-- An active route whose pattern matches an address. -/
def RouteEntry.routes (entry : RouteEntry) (address : List UInt8) : Bool :=
  entry.active && oscPatternMatch entry.pattern address

/-- The loop over the active routes whose pattern matches an address. -/
def RouteTable.bump (table : RouteTable) (address : List UInt8) (change : RouteEntry → RouteEntry) :
    RouteTable :=
  { entries := fun slot =>
      if (table.entries slot).routes address then change (table.entries slot)
      else table.entries slot }

def RouteTable.dispatch (table : RouteTable) (address : List UInt8) (qpcTick : UInt64) :
    RouteTable :=
  table.bump address fun entry =>
    { entry with matchCount := entry.matchCount + 1, lastMatchTick := qpcTick }

def RouteTable.bumpDropCount (table : RouteTable) (address : List UInt8) : RouteTable :=
  table.bump address fun entry => { entry with dropCount := entry.dropCount + 1 }

/-! ### Requests -/

structure OscRouteSubscribe where
  subscriberId : UInt32
  enabled : UInt8
  pattern : List UInt8

/-- `HandleSubscribe`, and whether the response is `ResponseSuccess`. -/
def RouteTable.handleSubscribe (table : RouteTable) (request : OscRouteSubscribe) :
    Bool × RouteTable :=
  table.subscribe request.subscriberId request.pattern
    (ascii "sub-" ++ decimalText request.subscriberId.toNat)

/-- `HandleUnsubscribe`. -/
def RouteTable.handleUnsubscribe (table : RouteTable) (id : UInt32) : Bool × RouteTable :=
  (true, table.unsubscribe id)

/-- A publish request, with its fields in the order in which they lie in memory. -/
structure OscPublish where
  address : Vector UInt8 64
  typetag : Vector UInt8 8
  argLen : UInt8
  reserved : Vector UInt8 7
  argBytes : Vector UInt8 32

/-- A table without routes. -/
def emptyTable : RouteTable where
  entries _ := { subscriberId := 0, pattern := [], subscriberLabel := [] }

/-! ### The send queue -/

def kSendQueueCapacity : Nat := 1024

/-- The counters in shared memory. -/
structure StatsShmem where
  packetsSent : UInt64 := 0
  bytesSent : UInt64 := 0
  packetsDropped : UInt64 := 0

/-- The router; without shared memory its counters there are none. -/
structure OscRouter where
  routeTable : RouteTable
  queue : Ring (List UInt8) kSendQueueCapacity
  droppedCount : UInt64 := 0
  packetsSent : UInt64 := 0
  bytesSent : UInt64 := 0
  statsShmem : Option StatsShmem := none
  stop : Bool := false

/-- `EnqueueLocked`. -/
def enqueueLocked (data : List UInt8) (queue : Ring (List UInt8) kSendQueueCapacity) :
    Bool × Ring (List UInt8) kSendQueueCapacity :=
  if queue.count ≥ kSendQueueCapacity then (false, queue)
  else if data.length > kSendQueueEntryMaxSize then (false, queue)
  else (true, queue.push data)

def StatsShmem.addDropped (shmem : StatsShmem) : StatsShmem :=
  { shmem with packetsDropped := shmem.packetsDropped + 1 }

def StatsShmem.addSent (size : UInt64) (shmem : StatsShmem) : StatsShmem :=
  { shmem with packetsSent := shmem.packetsSent + 1, bytesSent := shmem.bytesSent + size }

/-- The guarded call of `WriteRawArgs`: the arguments are the bytes at a pointer that may be
null, of which a given number is written. -/
def writeRawArgs (args : Option (List UInt8)) (argLen : Nat)
    (packet : OscPacket kSendQueueEntryMaxSize) : OscPacket kSendQueueEntryMaxSize :=
  match args with
  | some memory => if argLen > 0 then packet.append (memory.take argLen) else packet
  | none => packet

/-- The packet `BuildAndEnqueue` serialises. -/
def buildPacket (address typetag : List UInt8) (args : Option (List UInt8)) (argLen : Nat) :
    OscPacket kSendQueueEntryMaxSize :=
  writeRawArgs args argLen (OscPacket.begin kSendQueueEntryMaxSize address typetag)

def OscRouter.buildAndEnqueue (router : OscRouter) (address typetag : List UInt8)
    (args : Option (List UInt8)) (argLen : Nat) : Bool × OscRouter :=
  let packet := buildPacket address typetag args argLen
  if packet.ok then
    let (queued, queue) := enqueueLocked packet.bytes router.queue
    if queued then (true, { router with queue := queue })
    else
      (false,
        { router with
          droppedCount := router.droppedCount + 1
          routeTable := router.routeTable.bumpDropCount address
          statsShmem := router.statsShmem.map StatsShmem.addDropped })
  else (false, router)

/-- `PublishOsc`. -/
def OscRouter.publishOsc (router : OscRouter) (address typetag : List UInt8)
    (args : Option (List UInt8)) (argLen : Nat) : Bool × OscRouter :=
  if router.stop then (false, router) else router.buildAndEnqueue address typetag args argLen

/-- The memory from the argument bytes of a request on, as far as an 8-bit length reaches;
`beyond` is what lies behind them. -/
def OscPublish.argMemory (request : OscPublish) (beyond : Nat → UInt8) : List UInt8 :=
  request.argBytes.toList ++ (List.range 223).map beyond

/-- `HandlePublish`, given the memory behind the request. -/
def OscRouter.handlePublish (router : OscRouter) (request : OscPublish) (beyond : Nat → UInt8) :
    Bool × OscRouter :=
  router.buildAndEnqueue (request.address.toList ++ [0]) (request.typetag.toList ++ [0])
    (some (request.argMemory beyond)) request.argLen.toNat

/-- What `PubPipeWorkerMain` does with a frame; a frame of an invalid length is not read. -/
def OscRouter.pubPipeFrame (router : OscRouter) (frame : List UInt8) : OscRouter :=
  if frame.length = 0 ∨ frame.length > kSendQueueEntryMaxSize then router
  else
    let (queued, queue) := enqueueLocked frame router.queue
    if queued then { router with queue := queue }
    else
      { router with
        droppedCount := router.droppedCount + 1
        statsShmem := router.statsShmem.map StatsShmem.addDropped }

/-- The counters after a packet was sent, and the match counts of its address. -/
def OscRouter.countSent (router : OscRouter) (packet : List UInt8) (sent : Nat)
    (qpcTick : UInt64) : OscRouter :=
  let counted :=
    { router with
      packetsSent := router.packetsSent + 1
      bytesSent := router.bytesSent + UInt64.ofNat sent
      statsShmem := router.statsShmem.map (StatsShmem.addSent (UInt64.ofNat sent)) }
  match oscParseMessage packet with
  | { address := some address, valid := true, .. } =>
    { counted with routeTable := counted.routeTable.dispatch address qpcTick }
  | _ => counted

/-- One turn of `SendWorkerMain`, given how many bytes the socket sends, none if it is closed
or fails. -/
def OscRouter.sendTurn (router : OscRouter) (sent : Nat) (qpcTick : UInt64) : OscRouter :=
  if router.queue.count = 0 then router
  else
    let packet := router.queue.front
    let taken := { router with queue := router.queue.pop }
    if packet.length > 0 ∧ sent > 0 then taken.countSent packet sent qpcTick else taken

/-- A router that has done nothing yet. -/
def emptyRouter : OscRouter where
  routeTable := emptyTable
  queue := { slots := fun _ => [], head := 0, tail := 0, count := 0 }

end PairDriver.Router
