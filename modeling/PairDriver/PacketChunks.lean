/-
This file models how a packet that is too large for one datagram is cut into chunks and put
together again. The sender numbers the chunks under one id and marks the last; the receiver
collects what arrives under an id, and once the marked chunk told the number of chunks and
there are as many, it copies them together in the order of their numbers. It never forgets
an id.

The chunks of several packets may reach the receiver in any order and some may get lost.
Each packet comes out with the arrival that completes it, once, and as it was sent.
-/

import PairDriver.FragmentReassembly
import PairDriver.SandboxPackets

namespace PairDriver.Sandbox

open FragmentReassembly

/-! ### Splitting -/

/-- `PACKET_PART_EOF_BIT`. -/
def packetPartEofBit : UInt32 := 0x80000000

/-- `PACKET_NON_DATA_SIZE_BYTES`. -/
def packetNonDataSizeBytes : Nat := 16

/-- `PACKET_COUNT_INVALID`. -/
def packetCountInvalid : UInt32 := 0xFFFFFFFF

/-- The size of a datagram that the splitting aims at. -/
def decreasedMtu (mtu : Nat) : Nat :=
  if mtu > 128 then mtu - 128 else mtu

/-- The quotient, rounded up. -/
def partialPacketCount (length mtu : Nat) : Nat :=
  (length + (mtu - packetNonDataSizeBytes) - 1) / (mtu - packetNonDataSizeBytes)

/-- One chunk: the header, the number of the chunk, the id and the data. -/
def chunkBytes (packetPart packetId : UInt32) (data : List UInt8) : List UInt8 :=
  header .splitPacketChunk ++ (uintBytes packetPart ++ (uintBytes packetId ++ data))

/-- The loop that creates the chunks: so many are left, the next has a number, and so many bytes
are sent. -/
def createChunks (packetData : List UInt8) (mtu : Nat) (packetId : UInt32)
    (partialPacketCount : Nat) : Nat → Nat → Nat → List (List UInt8)
  | 0, _, _ => []
  | left + 1, i, bytesSent =>
    let bytesLeftToPack := packetData.length - bytesSent
    let packetSize := min (bytesLeftToPack + packetNonDataSizeBytes) mtu
    let packetSizeNoOverhead := packetSize - packetNonDataSizeBytes
    let packetPart := if i = partialPacketCount - 1 then UInt32.ofNat i ||| packetPartEofBit
      else UInt32.ofNat i
    chunkBytes packetPart packetId ((packetData.drop bytesSent).take packetSizeNoOverhead) ::
      createChunks packetData mtu packetId partialPacketCount left (i + 1)
        (bytesSent + packetSizeNoOverhead)

/-- `SplitPacketIntoChunks`, with the id it drew. -/
def splitPacketIntoChunks (packetData : List UInt8) (mtu : Nat) (packetId : UInt32) :
    List (List UInt8) :=
  let mtu := decreasedMtu mtu
  let count := partialPacketCount packetData.length mtu
  createChunks packetData mtu packetId count count 0 0

/-- The id of the packet that is split when so many were split before. -/
def nextPacketId (encodePartialPacketBase encodePartialPacketCounter : UInt32) : UInt32 :=
  encodePartialPacketBase ^^^ encodePartialPacketCounter

/-! ### Collecting -/

/-- `PartialPacketChunk`. -/
structure PartialPacketChunk where
  packetPart : UInt32
  data : List UInt8

/-- `PartialPacketChunkTemporaryBuffer`. -/
structure PartialPacketChunkTemporaryBuffer where
  chunks : List PartialPacketChunk := []
  packetCount : UInt32 := packetCountInvalid

/-- `_packetBuffers`. -/
abbrev PacketBuffers := UInt32 → Option PartialPacketChunkTemporaryBuffer

/-- The copy of the chunks into one array of their size, by the number of the chunk. -/
def combinePackets (chunks : List PartialPacketChunk) : List UInt8 :=
  let computedPacketSize := (chunks.map fun chunk => chunk.data.length).sum
  let copied := (List.range chunks.length).flatMap fun part =>
    ((chunks.find? fun chunk => chunk.packetPart.toNat == part).map
      PartialPacketChunk.data).getD []
  copied ++ List.replicate (computedPacketSize - copied.length) 0

/-- The buffer after one more chunk. -/
def PartialPacketChunkTemporaryBuffer.add (buffer : PartialPacketChunkTemporaryBuffer)
    (packetPart : UInt32) (data : List UInt8) : PartialPacketChunkTemporaryBuffer :=
  let chunks := buffer.chunks ++ [⟨packetPart &&& ~~~packetPartEofBit, data⟩]
  if packetPart &&& packetPartEofBit = packetPartEofBit then
    { chunks, packetCount := (packetPart &&& ~~~packetPartEofBit) + 1 }
  else { chunks, packetCount := buffer.packetCount }

/-- Whether the number of chunks is known and there are as many. -/
def PartialPacketChunkTemporaryBuffer.full (buffer : PartialPacketChunkTemporaryBuffer) : Bool :=
  buffer.packetCount != packetCountInvalid &&
    buffer.packetCount.toNat == buffer.chunks.length

/-- `DecodePacket`: the buffers and the data of the packet, which is empty as long as chunks are
missing. It throws if the datagram has no room for the header. -/
def decodePacket (buffers : PacketBuffers) (data : List UInt8) :
    Option (PacketBuffers × List UInt8) := do
  let packetId ← toUInt32 data 12
  let packetPart ← toUInt32 data 8
  let buffer := ((buffers packetId).getD {}).add packetPart (data.drop packetNonDataSizeBytes)
  let buffers := Function.update buffers packetId (some buffer)
  return (buffers, if buffer.full then combinePackets buffer.chunks else [])

/-! ### A datagram as a fragment -/

/-- The chunk that a datagram holds. -/
def fragmentOf (data : List UInt8) : Fragment UInt32 UInt8 :=
  let packetPart := (toUInt32 data 8).getD 0
  { key := (toUInt32 data 12).getD 0
    part := (packetPart &&& ~~~packetPartEofBit).toNat
    last := packetPart &&& packetPartEofBit == packetPartEofBit
    payload := data.drop packetNonDataSizeBytes }

/-- The datagram of a fragment. -/
def fragmentBytes (fragment : Fragment UInt32 UInt8) : List UInt8 :=
  chunkBytes
    (if fragment.last then UInt32.ofNat fragment.part ||| packetPartEofBit
      else UInt32.ofNat fragment.part) fragment.key fragment.payload

theorem length_chunkBytes (packetPart packetId : UInt32) (data : List UInt8) :
    (chunkBytes packetPart packetId data).length = data.length + packetNonDataSizeBytes := by
  simp only [chunkBytes, List.length_append, length_header, length_uintBytes,
    packetNonDataSizeBytes]
  omega

theorem chunk_part (packetPart packetId : UInt32) (data : List UInt8) :
    toUInt32 (chunkBytes packetPart packetId data) 8 = some packetPart :=
  toUInt32_append (header .splitPacketChunk) _ packetPart

theorem chunk_id (packetPart packetId : UInt32) (data : List UInt8) :
    toUInt32 (chunkBytes packetPart packetId data) 12 = some packetId := by
  rw [chunkBytes, ← List.append_assoc]
  exact toUInt32_append (header .splitPacketChunk ++ uintBytes packetPart) data packetId

theorem chunk_data (packetPart packetId : UInt32) (data : List UInt8) :
    (chunkBytes packetPart packetId data).drop packetNonDataSizeBytes = data := by
  rw [chunkBytes, ← List.append_assoc, ← List.append_assoc]
  exact List.drop_left' rfl

theorem low_part {part : Nat} (small : part < 2 ^ 31) :
    UInt32.ofNat part &&& ~~~packetPartEofBit = UInt32.ofNat part ∧
      UInt32.ofNat part &&& packetPartEofBit = 0 := by
  have value : (UInt32.ofNat part).toNat = part := UInt32.toNat_ofNat_of_lt' (by
    rw [UInt32.size]
    omega)
  constructor
  · refine UInt32.toNat_inj.mp ?_
    have mask : (~~~packetPartEofBit).toNat = 2 ^ 31 - 1 := by decide
    rw [UInt32.toNat_and, mask, value, Nat.and_two_pow_sub_one_eq_mod, Nat.mod_eq_of_lt small]
  · refine UInt32.toNat_inj.mp ?_
    have mask : packetPartEofBit.toNat = 2 ^ 31 := by decide
    rw [UInt32.toNat_and, mask, value, Nat.and_two_pow, Nat.testBit_lt_two_pow small]
    rfl

theorem or_and (first second mask : UInt32) :
    (first ||| second) &&& mask = (first &&& mask) ||| (second &&& mask) := by
  refine UInt32.toNat_inj.mp ?_
  simp only [UInt32.toNat_and, UInt32.toNat_or, Nat.and_or_distrib_right]

theorem marked_part {part : Nat} (small : part < 2 ^ 31) :
    (UInt32.ofNat part ||| packetPartEofBit) &&& ~~~packetPartEofBit = UInt32.ofNat part ∧
      (UInt32.ofNat part ||| packetPartEofBit) &&& packetPartEofBit = packetPartEofBit := by
  have low := low_part small
  constructor
  · rw [or_and, low.1]
    have none : packetPartEofBit &&& ~~~packetPartEofBit = 0 := by decide
    rw [none, UInt32.or_zero]
  · rw [or_and, low.2, UInt32.and_self, UInt32.zero_or]

/-- A fragment whose number leaves the mark free is read back from its datagram. -/
theorem fragmentOf_fragmentBytes (fragment : Fragment UInt32 UInt8)
    (small : fragment.part < 2 ^ 31) : fragmentOf (fragmentBytes fragment) = fragment := by
  have value : (UInt32.ofNat fragment.part).toNat = fragment.part :=
    UInt32.toNat_ofNat_of_lt' (by
      rw [UInt32.size]
      omega)
  obtain ⟨key, part, last, payload⟩ := fragment
  simp only [fragmentOf, fragmentBytes, chunk_part, chunk_id, chunk_data, Option.getD_some]
  cases last with
  | false =>
    have unmarked : ((0 : UInt32) == packetPartEofBit) = false := by decide
    simp only [Bool.false_eq_true, if_false, low_part small, unmarked, value]
  | true =>
    simp only [if_true, marked_part small, beq_self_eq_true, value]

/-! ### The chunks of a packet -/

/-- The pieces of a packet that the loop sends. -/
def packetMessage (mtu : Nat) (packet : UInt32 × List UInt8) : Message UInt32 UInt8 where
  key := packet.1
  pieces := cut (decreasedMtu mtu - packetNonDataSizeBytes)
    (partialPacketCount packet.2.length (decreasedMtu mtu)) packet.2

theorem createChunks_eq (packetData : List UInt8) {mtu : Nat} (packetId : UInt32) (count : Nat)
    (room : packetNonDataSizeBytes ≤ mtu) (left i bytesSent : Nat) :
    createChunks packetData mtu packetId count left i bytesSent =
      (cut (mtu - packetNonDataSizeBytes) left (packetData.drop bytesSent)).mapIdx
        fun part piece => chunkBytes
          (if i + part = count - 1 then UInt32.ofNat (i + part) ||| packetPartEofBit
            else UInt32.ofNat (i + part)) packetId piece := by
  induction left generalizing i bytesSent with
  | zero => rfl
  | succ left inductionHypothesis =>
    have size : min (packetData.length - bytesSent + packetNonDataSizeBytes) mtu -
        packetNonDataSizeBytes =
          min (mtu - packetNonDataSizeBytes) (packetData.length - bytesSent) := by
      omega
    have piece : (packetData.drop bytesSent).take
        (min (mtu - packetNonDataSizeBytes) (packetData.length - bytesSent)) =
          (packetData.drop bytesSent).take (mtu - packetNonDataSizeBytes) := by
      rw [← List.length_drop, ← List.take_take, List.take_length]
    have rest : packetData.drop (bytesSent +
        min (mtu - packetNonDataSizeBytes) (packetData.length - bytesSent)) =
          (packetData.drop bytesSent).drop (mtu - packetNonDataSizeBytes) := by
      rw [List.drop_drop]
      rcases Nat.le_total (mtu - packetNonDataSizeBytes) (packetData.length - bytesSent) with
        fits | short
      · rw [Nat.min_eq_left fits]
      · rw [Nat.min_eq_right short, List.drop_eq_nil_of_le (by omega),
          List.drop_eq_nil_of_le (by omega)]
    rw [createChunks, cut, List.mapIdx_cons]
    simp only [size, piece, inductionHypothesis, rest, Nat.add_zero]
    refine congrArg _ (congrArg (fun make => List.mapIdx make _) ?_)
    funext part piece
    rw [Nat.add_right_comm, Nat.add_assoc]

theorem splitPacketIntoChunks_eq {mtu : Nat} (room : packetNonDataSizeBytes ≤ decreasedMtu mtu)
    (packet : UInt32 × List UInt8) :
    splitPacketIntoChunks packet.2 mtu packet.1 =
      (packetMessage mtu packet).fragments.map fragmentBytes := by
  rw [splitPacketIntoChunks, createChunks_eq _ _ _ room, List.drop_zero]
  refine List.ext_getElem ?_ fun part first second => ?_
  · rw [List.length_mapIdx, List.length_map, length_fragments]
    rfl
  · have inside : part < partialPacketCount packet.2.length (decreasedMtu mtu) := by
      rwa [List.length_mapIdx, length_cut] at first
    have last : (part + 1 == (packetMessage mtu packet).pieces.length) =
        decide (part = partialPacketCount packet.2.length (decreasedMtu mtu) - 1) := by
      rw [packetMessage, length_cut, Bool.eq_iff_iff, beq_iff_eq, decide_eq_true_iff]
      omega
    rw [List.getElem_mapIdx, List.getElem_map]
    simp only [Message.fragments, List.getElem_mapIdx, fragmentBytes, last, Nat.zero_add,
      decide_eq_true_eq]
    rfl

theorem partialPacketCount_enough {mtu : Nat} (room : packetNonDataSizeBytes < mtu)
    (length : Nat) : length ≤ partialPacketCount length mtu * (mtu - packetNonDataSizeBytes) := by
  have positive : 0 < mtu - packetNonDataSizeBytes := Nat.sub_pos_of_lt room
  have whole := Nat.div_add_mod (length + (mtu - packetNonDataSizeBytes) - 1)
    (mtu - packetNonDataSizeBytes)
  have part := Nat.mod_lt (length + (mtu - packetNonDataSizeBytes) - 1) positive
  rw [Nat.mul_comm] at whole
  rw [partialPacketCount]
  omega

theorem partialPacketCount_le {mtu : Nat} (room : packetNonDataSizeBytes < mtu) (length : Nat) :
    partialPacketCount length mtu ≤ length := by
  have positive : 0 < mtu - packetNonDataSizeBytes := Nat.sub_pos_of_lt room
  rw [partialPacketCount]
  rcases Nat.eq_zero_or_pos length with rfl | some
  · exact (Nat.div_eq_of_lt (by omega)).le
  · have least : 1 * length + (mtu - packetNonDataSizeBytes - 1) * 1 ≤
        1 * length + (mtu - packetNonDataSizeBytes - 1) * length :=
      Nat.add_le_add_left (Nat.mul_le_mul_left _ some) _
    have sum : 1 + (mtu - packetNonDataSizeBytes - 1) = mtu - packetNonDataSizeBytes := by omega
    rw [← Nat.add_mul, sum] at least
    exact Nat.div_le_of_le_mul (by omega)

theorem content_packetMessage {mtu : Nat} (room : packetNonDataSizeBytes < decreasedMtu mtu)
    (packet : UInt32 × List UInt8) : (packetMessage mtu packet).content = packet.2 :=
  flatten_cut _ _ _ (partialPacketCount_enough room packet.2.length)

theorem part_lt {mtu : Nat} (room : packetNonDataSizeBytes < decreasedMtu mtu)
    {packet : UInt32 × List UInt8} (sized : packet.2.length < 2 ^ 31)
    {fragment : Fragment UInt32 UInt8} (own : fragment ∈ (packetMessage mtu packet).fragments) :
    fragment.part < 2 ^ 31 := by
  have place := (mem_fragments.mp own).choose
  rw [packetMessage, length_cut] at place
  exact place.trans (Nat.lt_of_le_of_lt (partialPacketCount_le room _) sized)

/-- No chunk is larger than the size aimed at. -/
theorem length_chunk_le {mtu : Nat} (room : packetNonDataSizeBytes < decreasedMtu mtu)
    {packet : UInt32 × List UInt8} {chunk : List UInt8}
    (member : chunk ∈ splitPacketIntoChunks packet.2 mtu packet.1) :
    packetNonDataSizeBytes ≤ chunk.length ∧ chunk.length ≤ decreasedMtu mtu := by
  rw [splitPacketIntoChunks_eq room.le] at member
  obtain ⟨fragment, own, rfl⟩ := List.mem_map.mp member
  obtain ⟨place, -, -, payload⟩ := mem_fragments.mp own
  have piece : fragment.payload.length ≤ decreasedMtu mtu - packetNonDataSizeBytes := by
    rw [payload]
    exact length_le_of_mem_cut (List.getElem_mem place)
  rw [fragmentBytes, length_chunkBytes]
  omega

/-! ### The buffers as a history -/

/-- The buffer that the fragments under one id fill. -/
def bufferOf (mine : List (Fragment UInt32 UInt8)) : PartialPacketChunkTemporaryBuffer where
  chunks := mine.map fun fragment => ⟨UInt32.ofNat fragment.part, fragment.payload⟩
  packetCount := (known mine).elim packetCountInvalid UInt32.ofNat

/-- The buffers that the fragments that arrived fill. -/
def buffersOf (arrived : List (Fragment UInt32 UInt8)) : PacketBuffers := fun packetId =>
  if under packetId arrived = [] then none else some (bufferOf (under packetId arrived))

theorem buffersOf_getD (arrived : List (Fragment UInt32 UInt8)) (packetId : UInt32) :
    (buffersOf arrived packetId).getD {} = bufferOf (under packetId arrived) := by
  rw [buffersOf]
  split
  next none => rw [none]; rfl
  · rfl

theorem masked_lt (word : UInt32) : (word &&& ~~~packetPartEofBit).toNat < 2 ^ 31 := by
  have mask : (~~~packetPartEofBit).toNat = 2 ^ 31 - 1 := by decide
  rw [UInt32.toNat_and, mask, Nat.and_two_pow_sub_one_eq_mod]
  exact Nat.mod_lt _ (by decide)

theorem fragmentOf_part_lt (data : List UInt8) : (fragmentOf data).part < 2 ^ 31 :=
  masked_lt _

theorem add_bufferOf (mine : List (Fragment UInt32 UInt8)) {data : List UInt8}
    {packetPart : UInt32} (read : toUInt32 data 8 = some packetPart) :
    (bufferOf mine).add packetPart (data.drop packetNonDataSizeBytes) =
      bufferOf (mine ++ [fragmentOf data]) := by
  have part : UInt32.ofNat (fragmentOf data).part = packetPart &&& ~~~packetPartEofBit := by
    simp only [fragmentOf, read, Option.getD_some, UInt32.ofNat_toNat]
  have last : (fragmentOf data).last =
      decide (packetPart &&& packetPartEofBit = packetPartEofBit) := by
    simp only [fragmentOf, read, Option.getD_some]
    rfl
  have chunks : (bufferOf mine).chunks ++
      [⟨packetPart &&& ~~~packetPartEofBit, data.drop packetNonDataSizeBytes⟩] =
        (bufferOf (mine ++ [fragmentOf data])).chunks := by
    simp only [bufferOf, List.map_append, List.map_cons, List.map_nil, part]
    rfl
  rw [PartialPacketChunkTemporaryBuffer.add, chunks]
  by_cases marked : packetPart &&& packetPartEofBit = packetPartEofBit
  · rw [if_pos marked]
    have count : (bufferOf (mine ++ [fragmentOf data])).packetCount =
        (packetPart &&& ~~~packetPartEofBit) + 1 := by
      rw [bufferOf, known_append, last, decide_eq_true marked, if_pos rfl, Option.elim_some,
        UInt32.ofNat_add, part]
      rfl
    rw [← count]
  · rw [if_neg marked]
    have count : (bufferOf (mine ++ [fragmentOf data])).packetCount =
        (bufferOf mine).packetCount := by
      rw [bufferOf, known_append, last, decide_eq_false marked, if_neg Bool.false_ne_true]
      rfl
    rw [← count]

/-- The number of chunks that a fragment tells is a number a buffer can hold. -/
theorem known_le (mine : List (Fragment UInt32 UInt8))
    (small : ∀ fragment ∈ mine, fragment.part < 2 ^ 31) {count : Nat}
    (tells : known mine = some count) : count ≤ 2 ^ 31 := by
  induction mine using List.reverseRecOn with
  | nil => exact absurd tells (Option.some_ne_none _).symm
  | append_singleton mine fragment inductionHypothesis =>
    rw [known_append] at tells
    split at tells
    · have place := small fragment (List.mem_append_right _ (List.mem_singleton_self _))
      rw [← Option.some.inj tells]
      exact place
    · exact inductionHypothesis
        (fun other member => small other (List.mem_append_left _ member)) tells

theorem full_bufferOf (mine : List (Fragment UInt32 UInt8))
    (small : ∀ fragment ∈ mine, fragment.part < 2 ^ 31) :
    (bufferOf mine).full = true ↔ known mine = some mine.length := by
  rw [PartialPacketChunkTemporaryBuffer.full, bufferOf, List.length_map]
  cases tells : known mine with
  | none =>
    refine iff_of_false ?_ (Option.some_ne_none _).symm
    rw [Option.elim_none, bne_self_eq_false, Bool.false_and]
    exact Bool.false_ne_true
  | some count =>
    have least := known_le mine small tells
    have value : (UInt32.ofNat count).toNat = count := UInt32.toNat_ofNat_of_lt' (by
      rw [UInt32.size]
      omega)
    have valid : (UInt32.ofNat count != packetCountInvalid) = true := by
      refine bne_iff_ne.mpr fun same => ?_
      have invalid : packetCountInvalid.toNat = 2 ^ 32 - 1 := by decide
      rw [← same, value] at invalid
      omega
    rw [Option.elim_some, valid, Bool.true_and, value, beq_iff_eq, Option.some_inj]

theorem combinePackets_bufferOf (mine : List (Fragment UInt32 UInt8))
    (small : ∀ fragment ∈ mine, fragment.part < 2 ^ 31) :
    combinePackets (bufferOf mine).chunks = inOrder mine ++ List.replicate
      ((mine.map fun fragment => fragment.payload.length).sum - (inOrder mine).length) 0 := by
  have copied : ((List.range (bufferOf mine).chunks.length).flatMap fun part =>
      (((bufferOf mine).chunks.find? fun chunk => chunk.packetPart.toNat == part).map
        PartialPacketChunk.data).getD []) = inOrder mine := by
    rw [bufferOf, List.length_map, inOrder]
    refine List.flatMap_congr fun part _ => ?_
    rw [List.find?_map, Option.map_map]
    have same : mine.find? ((fun chunk : PartialPacketChunk => chunk.packetPart.toNat == part) ∘
        fun fragment => ⟨UInt32.ofNat fragment.part, fragment.payload⟩) =
          mine.find? fun fragment => fragment.part == part := by
      refine List.find?_congr fun fragment member => ?_
      have value : (UInt32.ofNat fragment.part).toNat = fragment.part :=
        UInt32.toNat_ofNat_of_lt' (by
          have place := small fragment member
          rw [UInt32.size]
          omega)
      simp only [Function.comp_apply, value]
    rw [same]
    rfl
  have sizes : ((bufferOf mine).chunks.map fun chunk => chunk.data.length) =
      mine.map fun fragment => fragment.payload.length := by
    rw [bufferOf, List.map_map]
    rfl
  simp only [combinePackets, copied, sizes]

theorem under_update (arrived : List (Fragment UInt32 UInt8)) (fragment : Fragment UInt32 UInt8) :
    Function.update (buffersOf arrived) fragment.key
      (some (bufferOf (under fragment.key arrived ++ [fragment]))) =
        buffersOf (arrived ++ [fragment]) := by
  funext packetId
  rcases eq_or_ne packetId fragment.key with rfl | other
  · rw [Function.update_self, buffersOf, under_append, under_self,
      if_neg (List.append_ne_nil_of_right_ne_nil _ (List.cons_ne_nil _ _))]
  · have none : under packetId [fragment] = [] :=
      List.filter_cons_of_neg fun same => other (of_decide_eq_true same).symm
    rw [Function.update_of_ne other, buffersOf, buffersOf, under_append, none, List.append_nil]

/-- One more datagram, whatever arrived before. -/
theorem decodePacket_buffersOf (before : List (List UInt8)) {data : List UInt8}
    (long : packetNonDataSizeBytes ≤ data.length) :
    decodePacket (buffersOf (before.map fragmentOf)) data =
      some (buffersOf ((before ++ [data]).map fragmentOf),
        if (bufferOf (under (fragmentOf data).key ((before ++ [data]).map fragmentOf))).full then
          combinePackets
            (bufferOf (under (fragmentOf data).key ((before ++ [data]).map fragmentOf))).chunks
        else []) := by
  rw [packetNonDataSizeBytes] at long
  have id : toUInt32 data 12 = some (fragmentOf data).key := by
    rw [fragmentOf, toUInt32, if_pos (by omega), Option.getD_some]
  have part : ∃ packetPart, toUInt32 data 8 = some packetPart := by
    rw [toUInt32, if_pos (by omega)]
    exact ⟨_, rfl⟩
  obtain ⟨packetPart, read⟩ := part
  have grown : under (fragmentOf data).key ((before ++ [data]).map fragmentOf) =
      under (fragmentOf data).key (before.map fragmentOf) ++ [fragmentOf data] := by
    rw [List.map_append, List.map_singleton, under_append, under_self]
  rw [decodePacket, id, Option.bind_eq_bind, Option.bind_some, read, Option.bind_some]
  simp only [buffersOf_getD, add_bufferOf _ read, under_update, grown]
  rw [List.map_append, List.map_singleton]
  rfl

/-! ### Reassembly -/

section Reassembly

variable {mtu : Nat} {packets : List (UInt32 × List UInt8)}

/-- The datagrams of the packets. -/
def splitAll (mtu : Nat) (packets : List (UInt32 × List UInt8)) : List (List UInt8) :=
  packets.flatMap fun packet => splitPacketIntoChunks packet.2 mtu packet.1

theorem fragments_splitAll (room : packetNonDataSizeBytes < decreasedMtu mtu)
    (sized : ∀ packet ∈ packets, packet.2.length < 2 ^ 31) :
    (splitAll mtu packets).map fragmentOf =
      (packets.map (packetMessage mtu)).flatMap Message.fragments := by
  rw [splitAll, List.map_flatMap, List.flatMap_map]
  refine List.flatMap_congr fun packet member => ?_
  rw [splitPacketIntoChunks_eq room.le, List.map_map]
  refine (List.map_congr_left fun fragment own => ?_).trans (List.map_id _)
  exact fragmentOf_fragmentBytes fragment (part_lt room (sized packet member) own)

theorem arrives_fragments (room : packetNonDataSizeBytes < decreasedMtu mtu)
    (sized : ∀ packet ∈ packets, packet.2.length < 2 ^ 31) {datagrams : List (List UInt8)}
    (arrives : datagrams.Subperm (splitAll mtu packets)) :
    Arrives (packets.map (packetMessage mtu)) (datagrams.map fragmentOf) := by
  rw [Arrives, ← fragments_splitAll room sized]
  obtain ⟨same, perm, inside⟩ := arrives
  exact ⟨same.map fragmentOf, perm.map fragmentOf, inside.map fragmentOf⟩

theorem keys_packetMessage :
    (packets.map (packetMessage mtu)).map Message.key = packets.map Prod.fst := by
  rw [List.map_map]
  rfl

theorem long_of_arrives (room : packetNonDataSizeBytes < decreasedMtu mtu)
    {datagrams : List (List UInt8)} (arrives : datagrams.Subperm (splitAll mtu packets))
    {data : List UInt8} (member : data ∈ datagrams) : packetNonDataSizeBytes ≤ data.length := by
  obtain ⟨packet, sent, own⟩ := List.mem_flatMap.mp (arrives.subset member)
  exact (length_chunk_le room own).1

/-- In the traffic of a sender there is nothing to fill up: what comes out of a datagram is what
its fragment releases. -/
theorem decodePacket_release (room : packetNonDataSizeBytes < decreasedMtu mtu)
    (sized : ∀ packet ∈ packets, packet.2.length < 2 ^ 31)
    (distinct : (packets.map Prod.fst).Nodup) {before : List (List UInt8)} {data : List UInt8}
    (arrives : (before ++ [data]).Subperm (splitAll mtu packets)) :
    decodePacket (buffersOf (before.map fragmentOf)) data =
      some (buffersOf ((before ++ [data]).map fragmentOf),
        (release (before.map fragmentOf) (fragmentOf data)).flatten) := by
  have member : data ∈ before ++ [data] := List.mem_append_right _ (List.mem_singleton_self _)
  rw [decodePacket_buffersOf before (long_of_arrives room arrives member)]
  have spread : (before ++ [data]).map fragmentOf = before.map fragmentOf ++ [fragmentOf data] := by
    rw [List.map_append, List.map_singleton]
  have small : ∀ fragment ∈ under (fragmentOf data).key ((before ++ [data]).map fragmentOf),
      fragment.part < 2 ^ 31 := by
    intro fragment inside
    obtain ⟨source, -, rfl⟩ := List.mem_map.mp (List.mem_filter.mp inside).1
    exact fragmentOf_part_lt source
  have fragments := arrives_fragments room sized arrives
  obtain ⟨message, sent, own⟩ := fragments.sender (List.mem_map_of_mem member)
  have keys : ((packets.map (packetMessage mtu)).map Message.key).Nodup :=
    keys_packetMessage ▸ distinct
  have key : (fragmentOf data).key = message.key := (mem_fragments.mp own).choose_spec.1
  have mine := fragments.own keys sent
  rw [← key] at mine
  rw [release, ← spread]
  by_cases ready : known (under (fragmentOf data).key ((before ++ [data]).map fragmentOf)) =
      some (under (fragmentOf data).key ((before ++ [data]).map fragmentOf)).length
  · have some : under (fragmentOf data).key ((before ++ [data]).map fragmentOf) ≠ [] := by
      rw [spread, under_append, under_self]
      exact List.append_ne_nil_of_right_ne_nil _ (List.cons_ne_nil _ _)
    have all := (known_length_iff mine some).mp ready
    have sizes : ((under (fragmentOf data).key ((before ++ [data]).map fragmentOf)).map
        fun fragment => fragment.payload.length).sum = message.content.length := by
      have payloads : message.fragments.map (fun fragment => fragment.payload.length) =
          message.pieces.map List.length := by
        refine List.ext_getElem ?_ fun index first second => ?_
        · rw [List.length_map, List.length_map, length_fragments]
        · rw [List.getElem_map, List.getElem_map]
          simp only [Message.fragments, List.getElem_mapIdx]
      rw [((perm_of_complete mine all).map _).sum_eq, payloads, Message.content,
        List.length_flatten]
    rw [if_pos ((full_bufferOf _ small).mpr ready), if_pos ready,
      combinePackets_bufferOf _ small, inOrder_of_complete mine all, sizes, Nat.sub_self,
      List.replicate_zero, List.append_nil, List.flatten_cons, List.flatten_nil, List.append_nil]
  · rw [if_neg fun full => ready ((full_bufferOf _ small).mp full), if_neg ready,
      List.flatten_nil]

end Reassembly

/-! ### Ids -/

theorem toNat_nextPacketId (base counter : UInt32) :
    (nextPacketId base counter).toNat = base.toNat ^^^ counter.toNat := by
  rw [nextPacketId, UInt32.toNat_xor]

end PairDriver.Sandbox
