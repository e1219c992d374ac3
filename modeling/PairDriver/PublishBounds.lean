/-
This file is about the packet a publish request becomes. The request declares how many of
its argument bytes are used in a byte of its own, and that length reaches the copy into
the packet as it is: the packet has room for any of them, so whatever the length says is
read. The request's own 32 bytes suffice for exactly the lengths up to 32.
-/

import PairDriver.OscRouter

namespace PairDriver.Router

open Osc PubPipe

/-! ### The packet that is built -/

/-- The argument bytes that are written. -/
def writtenArgs (args : Option (List UInt8)) (argLen : Nat) : List UInt8 :=
  match args with
  | some memory => memory.take argLen
  | none => []

theorem writeRawArgs_writes (args : Option (List UInt8)) (argLen : Nat) :
    Writes (writtenArgs args argLen) (writeRawArgs args argLen) := by
  cases args with
  | none => exact writes_nothing
  | some memory =>
    cases argLen with
    | zero => exact writes_nothing
    | succ argLen => exact append_writes (memory.take (argLen + 1))

/-- A packet that is intact is the encoding of its three parts. -/
theorem buildPacket_writes (address typetag : List UInt8) (args : Option (List UInt8))
    (argLen : Nat) :
    ((buildPacket address typetag args argLen).ok = true ↔
        (writeOscString address ++ (writeOscString typetag ++ writtenArgs args argLen)).length ≤
          kSendQueueEntryMaxSize) ∧
      ((buildPacket address typetag args argLen).ok = true →
        (buildPacket address typetag args argLen).bytes =
          writeOscString address ++ (writeOscString typetag ++ writtenArgs args argLen)) := by
  have written := (writeStr_writes (N := kSendQueueEntryMaxSize) address).andThen
    ((writeStr_writes typetag).andThen (writeRawArgs_writes args argLen))
    { bytes := [], ok := true, fits := Nat.zero_le _ }
  refine ⟨written.1.trans ?_, written.2⟩
  simp only [List.length_nil, Nat.zero_add, true_and]

/-- The address and the type tag of a request, which are terminated in copies of their own. -/
def OscPublish.addressText (request : OscPublish) : List UInt8 := request.address.toList ++ [0]

def OscPublish.typetagText (request : OscPublish) : List UInt8 := request.typetag.toList ++ [0]

/-- The packet of a request, given the memory behind it. -/
def OscPublish.packet (request : OscPublish) (beyond : Nat → UInt8) :
    OscPacket kSendQueueEntryMaxSize :=
  buildPacket request.addressText request.typetagText (some (request.argMemory beyond))
    request.argLen.toNat

/-- The number of bytes `Append` copies from its source. -/
def copied {N : Nat} (packet : OscPacket N) (size : Nat) : Nat :=
  if packet.ok = true ∧ packet.bytes.length + size ≤ N then size else 0

/-- The number of bytes that are read from the argument bytes of a request on. -/
def OscPublish.argBytesRead (request : OscPublish) : Nat :=
  if request.argLen.toNat > 0 then
    copied (OscPacket.begin kSendQueueEntryMaxSize request.addressText request.typetagText)
      request.argLen.toNat
  else 0

/-! ### Sizes -/

theorem writeOscString_bounded (text : List UInt8) (size : Nat) (aligned : 4 ∣ size)
    (short : text.length ≤ size) (small : size < 2 ^ 30) (terminated : 0 ∈ text) :
    (writeOscString text).length ≤ size := by
  have cut : (cString text).length < text.length := by
    refine Nat.lt_of_le_of_ne (cString_length_le text) fun same => ?_
    have whole := List.takeWhile_eq_self_iff.mp
      ((List.takeWhile_prefix _).eq_of_length same : cString text = text)
    exact absurd (whole 0 terminated) (by decide)
  rw [writeOscString_length text (by omega)]
  unfold roundUp4
  omega

/-- The strings of a request take at most 68 and 12 bytes. -/
theorem request_strings_bounded (request : OscPublish) :
    (writeOscString request.addressText).length ≤ 68 ∧
      (writeOscString request.typetagText).length ≤ 12 := by
  constructor
  · refine writeOscString_bounded _ 68 (by decide) ?_ (by decide) ?_
    · rw [OscPublish.addressText, List.length_append, Vector.length_toList]
      decide
    · exact List.mem_append_right _ List.mem_cons_self
  · refine writeOscString_bounded _ 12 (by decide) ?_ (by decide) ?_
    · rw [OscPublish.typetagText, List.length_append, Vector.length_toList]
      decide
    · exact List.mem_append_right _ List.mem_cons_self

/-- Every length a request can state is read in full. -/
theorem argBytesRead_eq (request : OscPublish) : request.argBytesRead = request.argLen.toNat := by
  obtain ⟨address, typetag⟩ := request_strings_bounded request
  have small := request.argLen.toNat_lt
  have begun := buildPacket_writes request.addressText request.typetagText none 0
  have bytes : (writeOscString request.addressText ++ (writeOscString request.typetagText ++
      writtenArgs none 0)).length ≤ 80 := by
    simp only [writtenArgs, List.append_nil, List.length_append]
    omega
  have intact := begun.1.mpr (Nat.le_trans bytes (by decide))
  have size := congrArg List.length (begun.2 intact)
  unfold OscPublish.argBytesRead copied
  by_cases stated : request.argLen.toNat > 0
  · have room : (OscPacket.begin kSendQueueEntryMaxSize request.addressText
        request.typetagText).ok = true ∧
        (OscPacket.begin kSendQueueEntryMaxSize request.addressText
          request.typetagText).bytes.length + request.argLen.toNat ≤ kSendQueueEntryMaxSize := by
      have most : (buildPacket request.addressText request.typetagText none 0).bytes.length ≤ 80 :=
        size ▸ bytes
      refine ⟨intact, Nat.le_trans (Nat.add_le_add most (Nat.le_of_lt_succ small)) (by decide)⟩
    rw [if_pos stated, if_pos room]
  · rw [if_neg stated]
    omega

theorem packet_ok (request : OscPublish) (beyond : Nat → UInt8) :
    (request.packet beyond).ok = true := by
  obtain ⟨address, typetag⟩ := request_strings_bounded request
  have small := request.argLen.toNat_lt
  refine (buildPacket_writes _ _ _ _).1.mpr ?_
  have args : (writtenArgs (some (request.argMemory beyond)) request.argLen.toNat).length ≤ 255 :=
    Nat.le_trans (List.length_take_le _ _) (Nat.le_of_lt_succ small)
  simp only [List.length_append]
  exact Nat.le_trans (Nat.add_le_add address (Nat.add_le_add typetag args)) (by decide)

/-- The argument bytes of a packet, for a length within the request and for one beyond it. -/
theorem writtenArgs_within (request : OscPublish) (beyond : Nat → UInt8)
    (within : request.argLen.toNat ≤ 32) :
    writtenArgs (some (request.argMemory beyond)) request.argLen.toNat =
      request.argBytes.toList.take request.argLen.toNat := by
  have length : request.argBytes.toList.length = 32 := Vector.length_toList
  exact List.take_append_of_le_length (length.symm ▸ within)

theorem writtenArgs_beyond (request : OscPublish) (beyond : Nat → UInt8)
    (outside : 32 < request.argLen.toNat) :
    (writtenArgs (some (request.argMemory beyond)) request.argLen.toNat)[32]? =
      some (beyond 0) := by
  have length : request.argBytes.toList.length = 32 := Vector.length_toList
  show ((request.argBytes.toList ++ (List.range 223).map beyond).take request.argLen.toNat)[32]? = _
  rw [List.getElem?_take_of_lt outside, List.getElem?_append_right (Nat.le_of_eq length), length]
  rfl

/-! ### Requests and the memory behind them -/

/-- The publish request reads no more than its own argument bytes, and what it does to the router
is the same for every request with the same declared fields and whatever lies behind them. -/
structure OscPublish.Declared (request : OscPublish) : Prop where
  reads : request.argBytesRead ≤ 32
  same : ∀ other : OscPublish, other.address = request.address → other.typetag = request.typetag →
    other.argLen = request.argLen → other.argBytes = request.argBytes →
    ∀ (router : OscRouter) (beyond otherBeyond : Nat → UInt8),
      router.handlePublish other otherBeyond = router.handlePublish request beyond

theorem handlePublish_eq (router : OscRouter) (request : OscPublish) (beyond : Nat → UInt8) :
    router.handlePublish request beyond =
      router.buildAndEnqueue request.addressText request.typetagText
        (some (request.argMemory beyond)) request.argLen.toNat := rfl

/-- What is built and enqueued depends on no more than the bytes that are written. -/
theorem buildPacket_congr (address typetag : List UInt8) (first second : List UInt8) (argLen : Nat)
    (same : first.take argLen = second.take argLen) :
    buildPacket address typetag (some first) argLen =
      buildPacket address typetag (some second) argLen := by
  unfold buildPacket writeRawArgs
  dsimp only
  rw [same]

theorem buildAndEnqueue_congr (router : OscRouter) (address typetag : List UInt8)
    (first second : List UInt8) (argLen : Nat) (same : first.take argLen = second.take argLen) :
    router.buildAndEnqueue address typetag (some first) argLen =
      router.buildAndEnqueue address typetag (some second) argLen := by
  unfold OscRouter.buildAndEnqueue
  rw [buildPacket_congr address typetag first second argLen same]

/-- Beyond the 32 bytes the packet takes what lies there. -/
theorem packet_depends (request : OscPublish) (outside : 32 < request.argLen.toNat)
    (beyond otherBeyond : Nat → UInt8) (different : beyond 0 ≠ otherBeyond 0) :
    (request.packet beyond).bytes ≠ (request.packet otherBeyond).bytes := by
  intro same
  have first := (buildPacket_writes _ _ _ _).2 (packet_ok request beyond)
  have second := (buildPacket_writes _ _ _ _).2 (packet_ok request otherBeyond)
  have args := List.append_cancel_left (List.append_cancel_left
    (first.symm.trans (same.trans second)))
  have last := congrArg (fun bytes : List UInt8 => bytes[32]?) args
  rw [writtenArgs_beyond request beyond outside, writtenArgs_beyond request otherBeyond outside]
    at last
  exact different (Option.some.inj last)

/-- A request keeps to its declared fields exactly if its length stays within its argument
bytes. -/
theorem declared_iff (request : OscPublish) : request.Declared ↔ request.argLen.toNat ≤ 32 := by
  constructor
  · intro declared
    rw [← argBytesRead_eq request]
    exact declared.reads
  · intro within
    refine ⟨argBytesRead_eq request ▸ within, ?_⟩
    rintro other address typetag argLen argBytes router beyond otherBeyond
    have written : (other.argMemory otherBeyond).take request.argLen.toNat =
        (request.argMemory beyond).take request.argLen.toNat := by
      have first := writtenArgs_within other otherBeyond (argLen ▸ within)
      have second := writtenArgs_within request beyond within
      rw [argLen, argBytes] at first
      exact first.trans second.symm
    rw [handlePublish_eq, handlePublish_eq, OscPublish.addressText, OscPublish.typetagText, address,
      typetag, argLen]
    exact buildAndEnqueue_congr router _ _ _ _ _ written

/-- A request for an argument of 33 bytes. -/
def longPublish : OscPublish where
  address := Vector.replicate 64 47
  typetag := Vector.replicate 8 44
  argLen := 33
  reserved := Vector.replicate 7 0
  argBytes := Vector.replicate 32 0

/-- A request for one byte more than it has is answered with a byte that lies behind it. -/
theorem long_publish_reads_beyond :
    ¬longPublish.Declared ∧
      (longPublish.packet fun _ => 1).bytes ≠ (longPublish.packet fun _ => 2).bytes := by
  refine ⟨fun declared => ?_, packet_depends longPublish (by decide) _ _ (by decide)⟩
  have read := declared.reads
  rw [argBytesRead_eq] at read
  exact absurd read (by decide)

end PairDriver.Router
