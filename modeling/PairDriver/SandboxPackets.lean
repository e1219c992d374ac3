/-
This file models the packets that the host and the module processes exchange, byte by byte:
the magic, a type word, and then the fields of each class of packet. A read beyond the end of
a datagram throws, as does a negative length; the model has no value there.

Every packet is decoded from its own bytes. The challenge of a handshake, which is meant to
tell a peer from a stranger, is compared and then forgotten.
-/

import PairDriver.Bytes
import PairDriver.Cbor

namespace PairDriver.Sandbox

open Cbor

/-! ### Reads of a datagram -/

/-- `BitConverter.ToUInt32`; it throws if fewer than four bytes are left. -/
def toUInt32 (data : List UInt8) (startIndex : Nat) : Option UInt32 :=
  if startIndex + 4 ≤ data.length then
    some (UInt32.ofNat (ofLittleEndian32 ((data.drop startIndex).take 4)))
  else none

/-- `BitConverter.ToInt32`. -/
def toInt32 (data : List UInt8) (startIndex : Nat) : Option Int32 :=
  (toUInt32 data startIndex).map UInt32.toInt32

/-- So many bytes from an index on, as the calls that take an index and a count read them; they
throw if the count is negative or there are fewer. -/
def bytesAt (data : List UInt8) (index : Nat) (count : Int32) : Option (List UInt8) :=
  if 0 ≤ count.toInt ∧ index + count.toInt.toNat ≤ data.length then
    some ((data.drop index).take count.toInt.toNat)
  else none

/-- `data[index] != expected` for each of the expected bytes, up to the first that differs. -/
def sameBytes : List UInt8 → List UInt8 → Option Bool
  | [], _ => some true
  | _ :: _, [] => none
  | expected :: rest, byte :: data => if byte = expected then sameBytes rest data else some false

/-- `BitConverter.GetBytes` of a word and of a signed word. -/
def uintBytes (value : UInt32) : List UInt8 :=
  littleEndian32 value.toNat

def intBytes (value : Int32) : List UInt8 :=
  uintBytes value.toUInt32

/-- The length of an array, as a signed word. -/
def lengthBytes (data : List UInt8) : List UInt8 :=
  intBytes (Int32.ofNat data.length)

theorem toUInt32_append (before after : List UInt8) (value : UInt32) :
    toUInt32 (before ++ (uintBytes value ++ after)) before.length = some value := by
  have fits : before.length + 4 ≤ (before ++ (uintBytes value ++ after)).length := by
    rw [List.length_append, List.length_append, uintBytes, littleEndian32_length]
    omega
  rw [toUInt32, if_pos fits, List.drop_left, uintBytes,
    List.take_left' (littleEndian32_length value.toNat),
    ofLittleEndian32_littleEndian32 _ value.toNat_lt, UInt32.ofNat_toNat]

theorem toInt32_append (before after : List UInt8) (value : Int32) :
    toInt32 (before ++ (intBytes value ++ after)) before.length = some value := by
  rw [toInt32, intBytes, toUInt32_append, Option.map_some, Int32.toInt32_toUInt32]

theorem bytesAt_append (before data after : List UInt8) (fits : data.length < 2 ^ 31) :
    bytesAt (before ++ (data ++ after)) before.length (Int32.ofNat data.length) =
      some data := by
  have count : (Int32.ofNat data.length).toInt = data.length := Int32.toInt_ofNat_of_lt fits
  have there : 0 ≤ (data.length : Int) ∧ before.length + (data.length : Int).toNat ≤
      (before ++ (data ++ after)).length := by
    rw [List.length_append, List.length_append, Int.toNat_natCast]
    omega
  rw [bytesAt, count, if_pos there, List.drop_left, Int.toNat_natCast,
    List.take_left' rfl]

theorem sameBytes_append (expected after : List UInt8) :
    sameBytes expected (expected ++ after) = some true := by
  induction expected with
  | nil => rfl
  | cons byte rest inductionHypothesis =>
    rw [List.cons_append, sameBytes, if_pos rfl, inductionHypothesis]

/-! ### The classes of packets -/

/-- `IpcPacket.PacketType`: the types that have a class. -/
inductive PacketType where
  | handshake
  | splitPacketChunk
  | eventGetSupported
  | eventInit
  | eventTeardown
  | eventUpdate
  | eventUpdateStatus
  | eventLog
  | replyGetSupported
  | replyInit
  | replyUpdate
  | replyTeardown
deriving DecidableEq

def PacketType.number : PacketType → UInt32
  | .handshake => 1
  | .splitPacketChunk => 2
  | .eventGetSupported => 200
  | .eventInit => 201
  | .eventTeardown => 202
  | .eventUpdate => 203
  | .eventUpdateStatus => 204
  | .eventLog => 205
  | .replyGetSupported => 300
  | .replyInit => 301
  | .replyUpdate => 302
  | .replyTeardown => 303

structure HandshakePacket where
  isValid : Bool := true
  pid : Int32
  modulePath : String
deriving DecidableEq

/-- The two flags that `EventInitPacket` and `ReplySupportedPacket` hold. -/
structure Availability where
  eyeAvailable : Bool
  expressionAvailable : Bool
deriving DecidableEq

structure EventLogPacket where
  logLevel : Int32
  message : String
deriving DecidableEq

/-- The icons are the bytes their streams have left. -/
structure ReplyInitPacket where
  eyeSuccess : Bool
  expressionSuccess : Bool
  moduleInformationName : String
  iconDataStreams : List (List UInt8)
deriving DecidableEq

/-- `EXPRESSION_COUNT`. -/
def expressionCount : Nat := 89

/-- `UpdateDataContiguous`; a number is its 32 bits. -/
structure UpdateDataContiguous where
  eyeMaxDilation : UInt32
  eyeMinDilation : UInt32
  eyeLeftGazeX : UInt32
  eyeLeftGazeY : UInt32
  eyeLeftPupilDiameterMM : UInt32
  eyeLeftOpenness : UInt32
  eyeRightGazeX : UInt32
  eyeRightGazeY : UInt32
  eyeRightPupilDiameterMM : UInt32
  eyeRightOpenness : UInt32
  headYaw : UInt32
  headPitch : UInt32
  headRoll : UInt32
  headPosX : UInt32
  headPosY : UInt32
  headPosZ : UInt32
  expressionShapes : List UInt32
  shapes : expressionShapes.length = expressionCount
deriving DecidableEq

inductive IpcPacket where
  | handshake (packet : HandshakePacket)
  | splitPacketChunk
  | eventGetSupported
  | eventInit (packet : Availability)
  | eventTeardown
  | eventUpdate
  | eventUpdateStatus (moduleState : Int32)
  | eventLog (packet : EventLogPacket)
  | replyGetSupported (packet : Availability)
  | replyInit (packet : ReplyInitPacket)
  | replyUpdate (data : UpdateDataContiguous)
  | replyTeardown
deriving DecidableEq

def IpcPacket.getPacketType : IpcPacket → PacketType
  | .handshake _ => .handshake
  | .splitPacketChunk => .splitPacketChunk
  | .eventGetSupported => .eventGetSupported
  | .eventInit _ => .eventInit
  | .eventTeardown => .eventTeardown
  | .eventUpdate => .eventUpdate
  | .eventUpdateStatus _ => .eventUpdateStatus
  | .eventLog _ => .eventLog
  | .replyGetSupported _ => .replyGetSupported
  | .replyInit _ => .replyInit
  | .replyUpdate _ => .replyUpdate
  | .replyTeardown => .replyTeardown

/-! ### Encoding -/

/-- `HANDSHAKE_MAGIC`. -/
def handshakeMagic : List UInt8 := [0xAF, 0xEC, 0x00, 0x8D]

/-- `HANDSHAKE_CHALLENGE`. -/
def handshakeChallenge : List UInt8 := [0xDE, 0xC1, 0xCA, 0x12, 0xD0]

/-- The magic and the type, which every packet begins with. -/
def header (type : PacketType) : List UInt8 :=
  handshakeMagic ++ uintBytes type.number

theorem length_header (type : PacketType) : (header type).length = 8 := rfl

/-- Two flags in one byte. -/
def packedData (first second : Bool) : UInt8 :=
  (if first then 1 else 0) ||| (if second then 2 else 0)

def HandshakePacket.body (packet : HandshakePacket) : List UInt8 :=
  handshakeChallenge ++ (intBytes packet.pid ++
    (lengthBytes (utf8 packet.modulePath) ++ utf8 packet.modulePath))

def Availability.body (packet : Availability) : List UInt8 :=
  [packedData packet.eyeAvailable packet.expressionAvailable]

def EventLogPacket.body (packet : EventLogPacket) : List UInt8 :=
  intBytes packet.logLevel ++ (lengthBytes (utf8 packet.message) ++ utf8 packet.message)

/-- One icon with its length. -/
def streamBytes (stream : List UInt8) : List UInt8 :=
  lengthBytes stream ++ stream

def ReplyInitPacket.body (packet : ReplyInitPacket) : List UInt8 :=
  [packedData packet.eyeSuccess packet.expressionSuccess] ++
    (lengthBytes (utf8 packet.moduleInformationName) ++ (utf8 packet.moduleInformationName ++
      (intBytes (Int32.ofNat packet.iconDataStreams.length) ++
        packet.iconDataStreams.flatMap streamBytes)))

/-- The numbers of the structure in the order of its fields. -/
def UpdateDataContiguous.numbers (data : UpdateDataContiguous) : List UInt32 :=
  [data.eyeMaxDilation, data.eyeMinDilation, data.eyeLeftGazeX, data.eyeLeftGazeY,
    data.eyeLeftPupilDiameterMM, data.eyeLeftOpenness, data.eyeRightGazeX, data.eyeRightGazeY,
    data.eyeRightPupilDiameterMM, data.eyeRightOpenness, data.headYaw, data.headPitch,
    data.headRoll, data.headPosX, data.headPosY, data.headPosZ] ++ data.expressionShapes

/-- `Marshal.StructureToPtr`: the structure as a block of bytes. -/
def structureToPtr (data : UpdateDataContiguous) : List UInt8 :=
  data.numbers.flatMap uintBytes

/-- `Marshal.SizeOf`. -/
def sizeStruct : Nat := 4 * (16 + expressionCount)

def UpdateDataContiguous.body (data : UpdateDataContiguous) : List UInt8 :=
  intBytes (Int32.ofNat sizeStruct) ++ structureToPtr data

/-- `GetBytes`. A chunk of a split packet is written by `SplitPacketIntoChunks` only. -/
def IpcPacket.getBytes : IpcPacket → List UInt8
  | .handshake packet => header .handshake ++ packet.body
  | .splitPacketChunk => []
  | .eventGetSupported => header .eventGetSupported
  | .eventInit packet => header .eventInit ++ packet.body
  | .eventTeardown => header .eventTeardown
  | .eventUpdate => header .eventUpdate
  | .eventUpdateStatus moduleState => header .eventUpdateStatus ++ intBytes moduleState
  | .eventLog packet => header .eventLog ++ packet.body
  | .replyGetSupported packet => header .replyGetSupported ++ packet.body
  | .replyInit packet => header .replyInit ++ packet.body
  | .replyUpdate data => header .replyUpdate ++ data.body
  | .replyTeardown => header .replyTeardown

/-! ### Decoding -/

section Decoding

variable (replacing : List UInt8 → String)

/-- `Encoding.UTF8.GetString`; `replacing` is what it makes of bytes that are no UTF-8. -/
def getString (data : List UInt8) (index : Nat) (count : Int32) : Option String :=
  (bytesAt data index count).map fun bytes => (fromUtf8 bytes).getD (replacing bytes)

/-- The outcome of the challenge is overwritten at the end. -/
def HandshakePacket.decode (data : List UInt8) : Option HandshakePacket := do
  let _isValid ← sameBytes handshakeChallenge (data.drop 8)
  let pid ← toInt32 data 13
  let modulePathLength ← toInt32 data 17
  let modulePath ← getString replacing data 21 modulePathLength
  return { isValid := true, pid, modulePath }

def Availability.decode (data : List UInt8) : Option Availability := do
  let packedData : UInt8 ← data[8]?
  return { eyeAvailable := packedData &&& 1 == 1, expressionAvailable := packedData &&& 2 == 2 }

def EventLogPacket.decode (data : List UInt8) : Option EventLogPacket := do
  let logLevel ← toInt32 data 8
  let stringLength ← toInt32 data 12
  let message ← getString replacing data 16 stringLength
  return { logLevel, message }

/-- The loop over the icons, from an offset on. -/
def decodeStreams (data : List UInt8) : Nat → Nat → Option (List (List UInt8))
  | 0, _ => some []
  | count + 1, offset => do
    let imageStreamSize ← toInt32 data offset
    let imageStream ← bytesAt data (offset + 4) imageStreamSize
    let later ← decodeStreams data count (offset + 4 + imageStream.length)
    return imageStream :: later

def ReplyInitPacket.decode (data : List UInt8) : Option ReplyInitPacket := do
  let packedData : UInt8 ← data[8]?
  let moduleInfoStringLength ← toInt32 data 9
  let moduleInformationName ← getString replacing data 13 moduleInfoStringLength
  let streamCount ← toInt32 data (13 + moduleInfoStringLength.toInt.toNat)
  let iconDataStreams ← decodeStreams data streamCount.toInt.toNat
    (13 + moduleInfoStringLength.toInt.toNat + 4)
  return {
    eyeSuccess := packedData &&& 1 == 1
    expressionSuccess := packedData &&& 2 == 2
    moduleInformationName, iconDataStreams }

/-- The numbers of a block, as long as it has four bytes for one. -/
def numbersOf : Nat → List UInt8 → List UInt32
  | 0, _ => []
  | count + 1, block =>
    UInt32.ofNat (ofLittleEndian32 (block.take 4)) :: numbersOf count (block.drop 4)

/-- `Marshal.PtrToStructure`. The block has to be as large as the structure. -/
def ptrToStructure (block : List UInt8) : Option UpdateDataContiguous :=
  if sizeStruct ≤ block.length then
    match numbersOf 16 block with
    | [eyeMaxDilation, eyeMinDilation, eyeLeftGazeX, eyeLeftGazeY, eyeLeftPupilDiameterMM,
        eyeLeftOpenness, eyeRightGazeX, eyeRightGazeY, eyeRightPupilDiameterMM, eyeRightOpenness,
        headYaw, headPitch, headRoll, headPosX, headPosY, headPosZ] =>
      let expressionShapes := numbersOf expressionCount (block.drop 64)
      if shapes : expressionShapes.length = expressionCount then
        some {
          eyeMaxDilation, eyeMinDilation, eyeLeftGazeX, eyeLeftGazeY, eyeLeftPupilDiameterMM,
          eyeLeftOpenness, eyeRightGazeX, eyeRightGazeY, eyeRightPupilDiameterMM, eyeRightOpenness,
          headYaw, headPitch, headRoll, headPosX, headPosY, headPosZ, expressionShapes, shapes }
      else none
    | _ => none
  else none

def UpdateDataContiguous.decode (data : List UInt8) : Option UpdateDataContiguous := do
  let structSize ← toInt32 data 8
  let block ← bytesAt data 12 structSize
  ptrToStructure block

/-- `TryDecodePacket`: it throws, or refuses the datagram, or returns the packet. -/
def tryDecodePacket (data : List UInt8) : Option (Option IpcPacket) := do
  let magic ← sameBytes handshakeMagic data
  if magic then
    let packetType ← toUInt32 data 4
    if packetType = PacketType.handshake.number then
      (HandshakePacket.decode replacing data).map fun packet => some (.handshake packet)
    else if packetType = PacketType.splitPacketChunk.number then return some .splitPacketChunk
    else if packetType = PacketType.eventGetSupported.number then return some .eventGetSupported
    else if packetType = PacketType.eventInit.number then
      (Availability.decode data).map fun packet => some (.eventInit packet)
    else if packetType = PacketType.eventTeardown.number then return some .eventTeardown
    else if packetType = PacketType.eventUpdate.number then return some .eventUpdate
    else if packetType = PacketType.eventLog.number then
      (EventLogPacket.decode replacing data).map fun packet => some (.eventLog packet)
    else if packetType = PacketType.replyGetSupported.number then
      (Availability.decode data).map fun packet => some (.replyGetSupported packet)
    else if packetType = PacketType.replyInit.number then
      (ReplyInitPacket.decode replacing data).map fun packet => some (.replyInit packet)
    else if packetType = PacketType.replyUpdate.number then
      (UpdateDataContiguous.decode data).map fun packet => some (.replyUpdate packet)
    else if packetType = PacketType.replyTeardown.number then return some .replyTeardown
    else if packetType = PacketType.eventUpdateStatus.number then
      (toInt32 data 8).map fun moduleState => some (.eventUpdateStatus moduleState)
    else return none
  else return none

/-! ### Every packet is decoded from its own bytes -/

/-- The decoder that the type word of a datagram chooses. -/
theorem tryDecodePacket_header (type : PacketType) (rest : List UInt8) :
    tryDecodePacket replacing (header type ++ rest) =
      match type with
      | .handshake => (HandshakePacket.decode replacing (header type ++ rest)).map
          fun packet => some (.handshake packet)
      | .splitPacketChunk => some (some .splitPacketChunk)
      | .eventGetSupported => some (some .eventGetSupported)
      | .eventInit => (Availability.decode (header type ++ rest)).map
          fun packet => some (.eventInit packet)
      | .eventTeardown => some (some .eventTeardown)
      | .eventUpdate => some (some .eventUpdate)
      | .eventUpdateStatus => (toInt32 (header type ++ rest) 8).map
          fun moduleState => some (.eventUpdateStatus moduleState)
      | .eventLog => (EventLogPacket.decode replacing (header type ++ rest)).map
          fun packet => some (.eventLog packet)
      | .replyGetSupported => (Availability.decode (header type ++ rest)).map
          fun packet => some (.replyGetSupported packet)
      | .replyInit => (ReplyInitPacket.decode replacing (header type ++ rest)).map
          fun packet => some (.replyInit packet)
      | .replyUpdate => (UpdateDataContiguous.decode (header type ++ rest)).map
          fun packet => some (.replyUpdate packet)
      | .replyTeardown => some (some .replyTeardown) := by
  have magic : sameBytes handshakeMagic (header type ++ rest) = some true := by
    rw [header, List.append_assoc]
    exact sameBytes_append handshakeMagic _
  have number : toUInt32 (header type ++ rest) 4 = some type.number := by
    rw [header, List.append_assoc]
    exact toUInt32_append handshakeMagic rest type.number
  rw [tryDecodePacket, magic, Option.bind_eq_bind, Option.bind_some, if_pos rfl, number,
    Option.bind_eq_bind, Option.bind_some]
  cases type <;> rfl

theorem getString_append (before after : List UInt8) (text : String)
    (fits : (utf8 text).length < 2 ^ 31) :
    getString replacing (before ++ (utf8 text ++ after)) before.length
      (Int32.ofNat (utf8 text).length) = some text := by
  rw [getString, bytesAt_append before (utf8 text) after fits, Option.map_some, fromUtf8_utf8,
    Option.getD_some]

end Decoding

theorem packedData_first (first second : Bool) :
    (packedData first second &&& 1 == 1) = first := by
  cases first <;> cases second <;> decide

theorem packedData_second (first second : Bool) :
    (packedData first second &&& 2 == 2) = second := by
  cases first <;> cases second <;> decide

theorem length_uintBytes (value : UInt32) : (uintBytes value).length = 4 := rfl

theorem length_intBytes (value : Int32) : (intBytes value).length = 4 := rfl

theorem length_lengthBytes (data : List UInt8) : (lengthBytes data).length = 4 := rfl

theorem toNat_ofNat {length : Nat} (fits : length < 2 ^ 31) :
    (Int32.ofNat length).toInt.toNat = length := by
  rw [Int32.toInt_ofNat_of_lt fits, Int.toNat_natCast]

theorem decodeStreams_append (streams : List (List UInt8)) (before after : List UInt8)
    (fit : ∀ stream ∈ streams, stream.length < 2 ^ 31) :
    decodeStreams (before ++ (streams.flatMap streamBytes ++ after)) streams.length
      before.length = some streams := by
  induction streams generalizing before with
  | nil => rfl
  | cons stream rest inductionHypothesis =>
    have whole : before ++ ((stream :: rest).flatMap streamBytes ++ after) =
        before ++ (lengthBytes stream ++ (stream ++ (rest.flatMap streamBytes ++ after))) := by
      simp only [List.flatMap_cons, streamBytes, List.append_assoc]
    have length : toInt32 (before ++ (lengthBytes stream ++ (stream ++
        (rest.flatMap streamBytes ++ after)))) before.length =
          some (Int32.ofNat stream.length) := toInt32_append before _ _
    have data : bytesAt ((before ++ lengthBytes stream) ++ (stream ++
        (rest.flatMap streamBytes ++ after))) (before ++ lengthBytes stream).length
          (Int32.ofNat stream.length) = some stream :=
      bytesAt_append _ stream _ (fit stream List.mem_cons_self)
    have later := inductionHypothesis (before ++ (lengthBytes stream ++ stream))
      fun other member => fit other (List.mem_cons_of_mem _ member)
    rw [List.append_assoc, List.length_append, length_lengthBytes] at data
    rw [List.append_assoc, List.append_assoc, List.length_append, List.length_append,
      length_lengthBytes, ← Nat.add_assoc] at later
    rw [whole, List.length_cons, decodeStreams, length, Option.bind_eq_bind, Option.bind_some,
      data, Option.bind_eq_bind, Option.bind_some, later]
    rfl

theorem numbersOf_flatMap (numbers : List UInt32) (after : List UInt8) :
    numbersOf numbers.length (numbers.flatMap uintBytes ++ after) = numbers := by
  induction numbers with
  | nil => rfl
  | cons number rest inductionHypothesis =>
    rw [List.length_cons, List.flatMap_cons, List.append_assoc, numbersOf,
      List.take_left' (length_uintBytes number), List.drop_left' (length_uintBytes number),
      inductionHypothesis, uintBytes, ofLittleEndian32_littleEndian32 _ number.toNat_lt,
      UInt32.ofNat_toNat]

theorem length_flatMap_uintBytes (numbers : List UInt32) :
    (numbers.flatMap uintBytes).length = 4 * numbers.length := by
  induction numbers with
  | nil => rfl
  | cons number rest inductionHypothesis =>
    rw [List.flatMap_cons, List.length_append, inductionHypothesis, length_uintBytes,
      List.length_cons]
    omega

theorem length_structureToPtr (data : UpdateDataContiguous) :
    (structureToPtr data).length = sizeStruct := by
  rw [structureToPtr, length_flatMap_uintBytes, UpdateDataContiguous.numbers, List.length_append,
    data.shapes]
  rfl

/-- The block the structure is written to is read back as the structure. -/
theorem ptrToStructure_structureToPtr (data : UpdateDataContiguous) :
    ptrToStructure (structureToPtr data) = some data := by
  have block : structureToPtr data = (data.numbers.take 16).flatMap uintBytes ++
      (data.expressionShapes.flatMap uintBytes ++ []) := by
    rw [List.append_nil, structureToPtr, UpdateDataContiguous.numbers, List.flatMap_append]
    rfl
  have fields : numbersOf 16 (structureToPtr data) = data.numbers.take 16 := by
    rw [block]
    exact numbersOf_flatMap (data.numbers.take 16) _
  have later : numbersOf expressionCount ((structureToPtr data).drop 64) =
      data.expressionShapes := by
    have first : ((data.numbers.take 16).flatMap uintBytes).length = 64 :=
      length_flatMap_uintBytes _
    rw [block, List.drop_left' first, ← data.shapes]
    exact numbersOf_flatMap data.expressionShapes []
  rw [ptrToStructure, if_pos (length_structureToPtr data).ge]
  simp only [fields, later, UpdateDataContiguous.numbers, data.shapes]
  rfl

/-! ### Round trip -/

/-- The packet as it arrives: a handshake is marked as valid. -/
def IpcPacket.received : IpcPacket → IpcPacket
  | .handshake packet => .handshake { packet with isValid := true }
  | other => other

variable (replacing : List UInt8 → String)

theorem handshake_decode (packet : HandshakePacket) (fits : packet.body.length < 2 ^ 31) :
    HandshakePacket.decode replacing (header .handshake ++ packet.body) =
      some { packet with isValid := true } := by
  have text : (utf8 packet.modulePath).length < 2 ^ 31 := by
    simp only [HandshakePacket.body, List.length_append] at fits
    omega
  have challenge : sameBytes handshakeChallenge ((header .handshake ++ packet.body).drop 8) =
      some true := by
    rw [List.drop_left' (length_header _), HandshakePacket.body]
    exact sameBytes_append handshakeChallenge _
  have pid : toInt32 (header .handshake ++ packet.body) 13 = some packet.pid := by
    rw [HandshakePacket.body, ← List.append_assoc]
    exact toInt32_append (header .handshake ++ handshakeChallenge) _ packet.pid
  have length : toInt32 (header .handshake ++ packet.body) 17 =
      some (Int32.ofNat (utf8 packet.modulePath).length) := by
    rw [HandshakePacket.body, ← List.append_assoc, ← List.append_assoc]
    exact toInt32_append (header .handshake ++ handshakeChallenge ++ intBytes packet.pid) _ _
  have path : getString replacing (header .handshake ++ packet.body) 21
      (Int32.ofNat (utf8 packet.modulePath).length) = some packet.modulePath := by
    have read := getString_append replacing (header .handshake ++ handshakeChallenge ++
      intBytes packet.pid ++ lengthBytes (utf8 packet.modulePath)) [] packet.modulePath text
    rw [List.append_nil] at read
    rw [HandshakePacket.body, ← List.append_assoc, ← List.append_assoc, ← List.append_assoc]
    exact read
  simp only [HandshakePacket.decode, challenge, pid, length, path, Option.bind_eq_bind,
    Option.bind_some]
  rfl

theorem availability_decode (type : PacketType) (packet : Availability) :
    Availability.decode (header type ++ packet.body) = some packet := by
  have flags : (header type ++ packet.body)[8]? =
      some (packedData packet.eyeAvailable packet.expressionAvailable) := rfl
  simp only [Availability.decode, flags, Option.bind_eq_bind, Option.bind_some,
    packedData_first, packedData_second]
  rfl

theorem eventLog_decode (packet : EventLogPacket) (fits : packet.body.length < 2 ^ 31) :
    EventLogPacket.decode replacing (header .eventLog ++ packet.body) = some packet := by
  have text : (utf8 packet.message).length < 2 ^ 31 := by
    simp only [EventLogPacket.body, List.length_append] at fits
    omega
  have level : toInt32 (header .eventLog ++ packet.body) 8 = some packet.logLevel :=
    toInt32_append (header .eventLog) _ packet.logLevel
  have length : toInt32 (header .eventLog ++ packet.body) 12 =
      some (Int32.ofNat (utf8 packet.message).length) := by
    rw [EventLogPacket.body, ← List.append_assoc]
    exact toInt32_append (header .eventLog ++ intBytes packet.logLevel) _ _
  have message : getString replacing (header .eventLog ++ packet.body) 16
      (Int32.ofNat (utf8 packet.message).length) = some packet.message := by
    have read := getString_append replacing (header .eventLog ++ intBytes packet.logLevel ++
      lengthBytes (utf8 packet.message)) [] packet.message text
    rw [List.append_nil] at read
    rw [EventLogPacket.body, ← List.append_assoc, ← List.append_assoc]
    exact read
  simp only [EventLogPacket.decode, level, length, message, Option.bind_eq_bind,
    Option.bind_some]
  rfl

theorem length_le_of_mem {streams : List (List UInt8)} {stream : List UInt8}
    (member : stream ∈ streams) : stream.length ≤ (streams.flatMap streamBytes).length := by
  obtain ⟨before, after, rfl⟩ := List.append_of_mem member
  simp only [List.flatMap_append, List.flatMap_cons, List.length_append, streamBytes]
  omega

theorem length_le_flatMap (streams : List (List UInt8)) :
    streams.length ≤ (streams.flatMap streamBytes).length := by
  induction streams with
  | nil => exact Nat.le_refl 0
  | cons stream rest inductionHypothesis =>
    simp only [List.flatMap_cons, List.length_append, List.length_cons, streamBytes,
      length_lengthBytes]
    omega

theorem replyInit_decode (packet : ReplyInitPacket) (fits : packet.body.length < 2 ^ 31) :
    ReplyInitPacket.decode replacing (header .replyInit ++ packet.body) = some packet := by
  have sizes : (utf8 packet.moduleInformationName).length < 2 ^ 31 ∧
      (packet.iconDataStreams.flatMap streamBytes).length < 2 ^ 31 := by
    simp only [ReplyInitPacket.body, List.length_append] at fits
    omega
  have streams : packet.iconDataStreams.length < 2 ^ 31 :=
    (length_le_flatMap packet.iconDataStreams).trans_lt sizes.2
  have flags : (header .replyInit ++ packet.body)[8]? =
      some (packedData packet.eyeSuccess packet.expressionSuccess) := rfl
  have length : toInt32 (header .replyInit ++ packet.body) 9 =
      some (Int32.ofNat (utf8 packet.moduleInformationName).length) := by
    rw [ReplyInitPacket.body, ← List.append_assoc]
    exact toInt32_append (header .replyInit ++ [packedData packet.eyeSuccess
      packet.expressionSuccess]) _ _
  have name : getString replacing (header .replyInit ++ packet.body) 13
      (Int32.ofNat (utf8 packet.moduleInformationName).length) =
        some packet.moduleInformationName := by
    rw [ReplyInitPacket.body, ← List.append_assoc, ← List.append_assoc]
    exact getString_append replacing (header .replyInit ++ [packedData packet.eyeSuccess
      packet.expressionSuccess] ++ lengthBytes (utf8 packet.moduleInformationName)) _ _ sizes.1
  have before : (header .replyInit ++ [packedData packet.eyeSuccess packet.expressionSuccess] ++
      lengthBytes (utf8 packet.moduleInformationName) ++
        utf8 packet.moduleInformationName).length =
      13 + (utf8 packet.moduleInformationName).length := by
    simp only [List.length_append, length_header, length_lengthBytes, List.length_cons,
      List.length_nil]
  have count : toInt32 (header .replyInit ++ packet.body)
      (13 + (utf8 packet.moduleInformationName).length) =
        some (Int32.ofNat packet.iconDataStreams.length) := by
    rw [ReplyInitPacket.body, ← List.append_assoc, ← List.append_assoc, ← List.append_assoc,
      ← before]
    exact toInt32_append _ _ _
  have icons : decodeStreams (header .replyInit ++ packet.body) packet.iconDataStreams.length
      (13 + (utf8 packet.moduleInformationName).length + 4) = some packet.iconDataStreams := by
    have read := decodeStreams_append packet.iconDataStreams (header .replyInit ++
      [packedData packet.eyeSuccess packet.expressionSuccess] ++
        lengthBytes (utf8 packet.moduleInformationName) ++ utf8 packet.moduleInformationName ++
          intBytes (Int32.ofNat packet.iconDataStreams.length)) []
            fun stream member => (length_le_of_mem member).trans_lt sizes.2
    rw [List.append_nil, List.length_append, before, length_intBytes] at read
    rw [ReplyInitPacket.body, ← List.append_assoc, ← List.append_assoc, ← List.append_assoc,
      ← List.append_assoc]
    exact read
  simp only [ReplyInitPacket.decode, flags, length, name, toNat_ofNat sizes.1, count,
    toNat_ofNat streams, icons, Option.bind_eq_bind, Option.bind_some, packedData_first,
    packedData_second]
  rfl

theorem replyUpdate_decode (data : UpdateDataContiguous) :
    UpdateDataContiguous.decode (header .replyUpdate ++ data.body) = some data := by
  have size : toInt32 (header .replyUpdate ++ data.body) 8 = some (Int32.ofNat sizeStruct) :=
    toInt32_append (header .replyUpdate) _ _
  have block : bytesAt (header .replyUpdate ++ data.body) 12 (Int32.ofNat sizeStruct) =
      some (structureToPtr data) := by
    have read := bytesAt_append (header .replyUpdate ++ intBytes (Int32.ofNat sizeStruct))
      (structureToPtr data) [] (by rw [length_structureToPtr]; decide)
    rw [List.append_nil, length_structureToPtr] at read
    rw [UpdateDataContiguous.body, ← List.append_assoc]
    exact read
  simp only [UpdateDataContiguous.decode, size, block, ptrToStructure_structureToPtr,
    Option.bind_eq_bind, Option.bind_some]

/-- A packet of any class, with texts and icons of any length that fits into an array, is decoded
from its own bytes. -/
theorem tryDecodePacket_getBytes (packet : IpcPacket) (whole : packet ≠ .splitPacketChunk)
    (fits : packet.getBytes.length < 2 ^ 31) :
    tryDecodePacket replacing packet.getBytes = some (some packet.received) := by
  have body {type : PacketType} {bytes : List UInt8}
      (all : (header type ++ bytes).length < 2 ^ 31) : bytes.length < 2 ^ 31 := by
    rw [List.length_append] at all
    omega
  cases packet with
  | handshake packet =>
    rw [IpcPacket.getBytes, tryDecodePacket_header]
    simp only [handshake_decode replacing packet (body fits)]
    rfl
  | splitPacketChunk => exact absurd rfl whole
  | eventGetSupported => exact tryDecodePacket_header replacing .eventGetSupported []
  | eventInit packet =>
    rw [IpcPacket.getBytes, tryDecodePacket_header]
    simp only [availability_decode]
    rfl
  | eventTeardown => exact tryDecodePacket_header replacing .eventTeardown []
  | eventUpdate => exact tryDecodePacket_header replacing .eventUpdate []
  | eventUpdateStatus moduleState =>
    have read := toInt32_append (header .eventUpdateStatus) [] moduleState
    rw [List.append_nil] at read
    have state : toInt32 (header .eventUpdateStatus ++ intBytes moduleState) 8 =
        some moduleState := read
    rw [IpcPacket.getBytes, tryDecodePacket_header]
    simp only [state]
    rfl
  | eventLog packet =>
    rw [IpcPacket.getBytes, tryDecodePacket_header]
    simp only [eventLog_decode replacing packet (body fits)]
    rfl
  | replyGetSupported packet =>
    rw [IpcPacket.getBytes, tryDecodePacket_header]
    simp only [availability_decode]
    rfl
  | replyInit packet =>
    rw [IpcPacket.getBytes, tryDecodePacket_header]
    simp only [replyInit_decode replacing packet (body fits)]
    rfl
  | replyUpdate data =>
    rw [IpcPacket.getBytes, tryDecodePacket_header]
    simp only [replyUpdate_decode]
    rfl
  | replyTeardown => exact tryDecodePacket_header replacing .replyTeardown []

/-- A packet is decoded from its own bytes, and packets with the same bytes arrive as the same. -/
theorem getBytes_round_trip (packet : IpcPacket) (whole : packet ≠ .splitPacketChunk)
    (fits : packet.getBytes.length < 2 ^ 31) :
    tryDecodePacket replacing packet.getBytes = some (some packet.received) ∧
      ∀ other : IpcPacket, other ≠ .splitPacketChunk → other.getBytes = packet.getBytes →
        other.received = packet.received := by
  have decoded := tryDecodePacket_getBytes replacing packet whole fits
  refine ⟨decoded, fun other otherWhole same => ?_⟩
  have again := tryDecodePacket_getBytes replacing other otherWhole (same ▸ fits)
  rw [same, decoded] at again
  exact (Option.some.inj (Option.some.inj again)).symm

theorem getBytes_round_trip_log :
    tryDecodePacket (fun _ => "") (IpcPacket.eventLog ⟨2, "started"⟩).getBytes =
      some (some (.eventLog ⟨2, "started"⟩)) :=
  (getBytes_round_trip (fun _ => "") (.eventLog ⟨2, "started"⟩) (by decide)
    (by decide +kernel)).1

/-! ### What passes for a handshake -/

theorem sameBytes_iff (expected data : List UInt8) :
    sameBytes expected data = some true ↔ expected <+: data := by
  induction expected generalizing data with
  | nil => exact iff_of_true rfl List.nil_prefix
  | cons byte rest inductionHypothesis =>
    cases data with
    | nil => exact iff_of_false (Option.some_ne_none _).symm (by simp)
    | cons head data =>
      rw [sameBytes, List.cons_prefix_cons]
      by_cases same : head = byte
      · rw [if_pos same, inductionHypothesis]
        exact (and_iff_right same.symm).symm
      · rw [if_neg same]
        exact iff_of_false (by simp) fun both => same both.1.symm

theorem sameBytes_returns {expected data : List UInt8} (long : expected.length ≤ data.length) :
    ∃ same, sameBytes expected data = some same := by
  induction expected generalizing data with
  | nil => exact ⟨true, rfl⟩
  | cons byte rest inductionHypothesis =>
    cases data with
    | nil => exact absurd long (Nat.not_succ_le_zero _)
    | cons head data =>
      rw [sameBytes]
      split
      · exact inductionHypothesis (Nat.le_of_succ_le_succ long)
      · exact ⟨false, rfl⟩

theorem littleEndian32_ofLittleEndian32 (first second third fourth : UInt8) :
    littleEndian32 (ofLittleEndian32 [first, second, third, fourth]) =
      [first, second, third, fourth] := by
  have bounds := And.intro (And.intro first.toNat_lt second.toNat_lt)
    (And.intro third.toNat_lt fourth.toNat_lt)
  simp only [ofLittleEndian32, littleEndian32, List.cons.injEq, and_true]
  refine ⟨?_, ?_, ?_, ?_⟩ <;> refine UInt8.toNat_inj.mp ?_ <;> rw [UInt8.toNat_ofNat'] <;> omega

theorem take_four :
    {data : List UInt8} → 4 ≤ data.length →
      ∃ first second third fourth, data.take 4 = [first, second, third, fourth]
  | first :: second :: third :: fourth :: _, _ => ⟨first, second, third, fourth, rfl⟩

/-- A word that is read is in the datagram with its bytes. -/
theorem toUInt32_bytes {data : List UInt8} {index : Nat} {value : UInt32}
    (read : toUInt32 data index = some value) : (data.drop index).take 4 = uintBytes value := by
  rw [toUInt32] at read
  split at read
  next long =>
    have left : 4 ≤ (data.drop index).length := by
      rw [List.length_drop]
      omega
    obtain ⟨first, second, third, fourth, bytes⟩ := take_four left
    rw [bytes] at read ⊢
    have small : ofLittleEndian32 [first, second, third, fourth] < 2 ^ 32 := by
      have bounds := And.intro (And.intro first.toNat_lt second.toNat_lt)
        (And.intro third.toNat_lt fourth.toNat_lt)
      simp only [ofLittleEndian32]
      omega
    rw [← Option.some.inj read, uintBytes, UInt32.toNat_ofNat_of_lt' small,
      littleEndian32_ofLittleEndian32]
  · exact absurd read (Option.some_ne_none _).symm

/-- The datagrams that begin with the header of a type. -/
theorem header_prefix_iff (data : List UInt8) (type : PacketType) :
    header type <+: data ↔
      sameBytes handshakeMagic data = some true ∧ toUInt32 data 4 = some type.number := by
  rw [sameBytes_iff]
  constructor
  · rintro ⟨rest, rfl⟩
    rw [header, List.append_assoc]
    exact ⟨⟨_, rfl⟩, toUInt32_append handshakeMagic rest type.number⟩
  · rintro ⟨⟨rest, rfl⟩, number⟩
    have word := toUInt32_bytes number
    have dropped : (handshakeMagic ++ rest).drop 4 = rest := List.drop_left' rfl
    rw [dropped] at word
    refine ⟨rest.drop 4, ?_⟩
    rw [header, List.append_assoc, ← word, List.take_append_drop]

theorem map_other {Source : Type} {option : Option Source} {make : Source → IpcPacket}
    {packet : HandshakePacket} (other : ∀ source, make source ≠ .handshake packet) :
    option.map (fun source => some (make source)) ≠ some (some (.handshake packet)) := by
  intro decoded
  obtain ⟨source, found, same⟩ := Option.map_eq_some_iff.mp decoded
  exact other source (Option.some.inj same)

/-- A chain of conditions comes to its value past the branches with another one. -/
theorem else_of_ne {Value : Type} {condition : Prop} [Decidable condition]
    {first second value : Value} (chosen : (if condition then first else second) = value)
    (other : first ≠ value) : second = value := by
  by_cases met : condition
  · rw [if_pos met] at chosen
    exact absurd chosen other
  · rwa [if_neg met] at chosen

theorem decoded_handshake {data : List UInt8} {packet : HandshakePacket}
    (decoded : tryDecodePacket replacing data = some (some (.handshake packet))) :
    header .handshake <+: data ∧ HandshakePacket.decode replacing data = some packet := by
  rw [tryDecodePacket] at decoded
  obtain ⟨magic, same, decoded⟩ := Option.bind_eq_some_iff.mp decoded
  cases magic with
  | false => exact absurd (Option.some.inj decoded) (Option.some_ne_none _).symm
  | true =>
    rw [if_pos rfl] at decoded
    obtain ⟨packetType, word, decoded⟩ := Option.bind_eq_some_iff.mp decoded
    by_cases type : packetType = PacketType.handshake.number
    · rw [if_pos type] at decoded
      obtain ⟨found, read, made⟩ := Option.map_eq_some_iff.mp decoded
      rw [← IpcPacket.handshake.inj (Option.some.inj made)]
      exact ⟨(header_prefix_iff data .handshake).mpr ⟨same, type ▸ word⟩, read⟩
    · rw [if_neg type] at decoded
      have chunk := else_of_ne decoded (by simp)
      have getSupported := else_of_ne chunk (by simp)
      have init := else_of_ne getSupported (map_other (by simp))
      have teardown := else_of_ne init (by simp)
      have update := else_of_ne teardown (by simp)
      have log := else_of_ne update (map_other (by simp))
      have replySupported := else_of_ne log (map_other (by simp))
      have replyInit := else_of_ne replySupported (map_other (by simp))
      have replyUpdate := else_of_ne replyInit (map_other (by simp))
      have replyTeardown := else_of_ne replyUpdate (by simp)
      have status := else_of_ne replyTeardown (map_other (by simp))
      exact absurd (Option.some.inj status) (Option.some_ne_none _).symm

/-- What is taken for a handshake: the challenge plays no part, and every handshake that is
decoded counts as valid. -/
theorem handshake_accepted_iff (data : List UInt8) :
    (∃ packet : HandshakePacket, packet.isValid = true ∧
        tryDecodePacket replacing data = some (some (.handshake packet))) ↔
      header .handshake <+: data ∧ ∃ length, toInt32 data 17 = some length ∧
        0 ≤ length.toInt ∧ 21 + length.toInt.toNat ≤ data.length := by
  constructor
  · rintro ⟨packet, valid, decoded⟩
    obtain ⟨begins, read⟩ := decoded_handshake replacing decoded
    refine ⟨begins, ?_⟩
    rw [HandshakePacket.decode] at read
    obtain ⟨challenge, compared, read⟩ := Option.bind_eq_some_iff.mp read
    obtain ⟨pid, word, read⟩ := Option.bind_eq_some_iff.mp read
    obtain ⟨length, count, read⟩ := Option.bind_eq_some_iff.mp read
    obtain ⟨path, text, made⟩ := Option.bind_eq_some_iff.mp read
    obtain ⟨bytes, there, made⟩ := Option.map_eq_some_iff.mp text
    rw [bytesAt] at there
    split at there
    next fits => exact ⟨length, count, fits⟩
    · exact absurd there (Option.some_ne_none _).symm
  · rintro ⟨⟨rest, rfl⟩, length, count, fits⟩
    have long : 13 ≤ rest.length := by
      have all := fits.2
      rw [List.length_append, length_header] at all
      omega
    have room : handshakeChallenge.length ≤ rest.length := Nat.le_trans (by decide) long
    obtain ⟨challenge, compared⟩ := sameBytes_returns room
    have pid : ∃ pid, toInt32 (header .handshake ++ rest) 13 = some pid := by
      rw [toInt32, toUInt32, if_pos (by rw [List.length_append, length_header]; omega)]
      exact ⟨_, rfl⟩
    obtain ⟨pid, word⟩ := pid
    have text : ∃ path, getString replacing (header .handshake ++ rest) 21 length = some path := by
      rw [getString, bytesAt, if_pos fits]
      exact ⟨_, rfl⟩
    obtain ⟨path, text⟩ := text
    refine ⟨⟨true, pid, path⟩, rfl, ?_⟩
    rw [tryDecodePacket_header]
    have dropped : (header .handshake ++ rest).drop 8 = rest := List.drop_left' rfl
    simp only [HandshakePacket.decode, dropped, compared, word, count, text, Option.bind_eq_bind,
      Option.bind_some]
    rfl

end PairDriver.Sandbox
