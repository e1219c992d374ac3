/-
This file follows the selection of a module from the driver to the host.

The driver writes the message by hand: a length word, the head of a map of two pairs and
four texts, with a one-byte or a two-byte head by their length. The host collects the
message from a pipe that may deliver it in any pieces, and reads it with a library. If
the library conforms, every message of at most 255 bytes of identifier selects exactly
that identifier, and a sequence of messages selects their identifiers in order.
-/

import PairDriver.Bytes
import PairDriver.Cbor

namespace PairDriver.ControlPipe

open Cbor

/-! ### The driver -/

/-- `CborAppendTextString`. -/
def cborAppendTextString (out s : List UInt8) : List UInt8 :=
  (if s.length < 24 then out ++ [0x60 ||| UInt8.ofNat s.length]
    else out ++ [0x78] ++ [UInt8.ofNat (s.length &&& 0xFF)]) ++ s

/-- The map that `EncodeSelectModule` puts behind the length. -/
def selectModuleBody (uuid : List UInt8) : List UInt8 :=
  let body := cborAppendTextString [0xA2] (ascii "type")
  let body := cborAppendTextString body (ascii "SelectModule")
  let body := cborAppendTextString body (ascii "uuid")
  cborAppendTextString body uuid

def encodeSelectModule (uuid : List UInt8) : List UInt8 :=
  littleEndian32 (selectModuleBody uuid).length ++ selectModuleBody uuid

/-! ### The pipe -/

/-- `ReadExactAsync` on the pieces that the pipe delivers: the bytes, and what is left. -/
def readExact : Nat → List (List UInt8) → List UInt8 × List (List UInt8)
  | _, [] => ([], [])
  | count, chunk :: later =>
    if count = 0 then ([], chunk :: later)
    else if chunk = [] then ([], later)
    else if chunk.length ≤ count then
      let more := readExact (count - chunk.length) later
      (chunk ++ more.1, more.2)
    else (chunk.take count, chunk.drop count :: later)

def kMaxMessage : Nat := 65536

/-- A message of `HandleConnectionAsync`: its bytes, and what is left of the pieces. -/
def readMessage (chunks : List (List UInt8)) : Option (List UInt8 × List (List UInt8)) :=
  let lenBuf := readExact 4 chunks
  if lenBuf.1.length < 4 then none
  else
    let msgLen := ofLittleEndian32 lenBuf.1
    if msgLen = 0 ∨ kMaxMessage < msgLen then none
    else
      let msgBuf := readExact msgLen lenBuf.2
      if msgBuf.1.length < msgLen then none else some msgBuf

/-! ### The host -/

/-- What a message makes the host do. -/
inductive Action where
  | selectActive (uuid : String)
  | shutdown
  | unknown (msgType : Option String)
deriving DecidableEq

structure Fields where
  msgType : Option String := none
  uuid : Option String := none

/-- The `switch` on the type of a message. -/
def Fields.action (fields : Fields) : Action :=
  if fields.msgType = some "SelectModule" then
    match fields.uuid with
    | some uuid => .selectActive uuid
    | none => .unknown fields.msgType
  else if fields.msgType = some "Shutdown" then .shutdown
  else .unknown fields.msgType

/-- The loop over the pairs of the map. -/
def readFields (reader : Reader) : Nat → reader.State → Fields → Option (Fields × reader.State)
  | 0, _, _ => none
  | fuel + 1, state, fields =>
    (reader.peekState state).bind fun peeked =>
      if peeked = .endMap then some (fields, state)
      else
        (reader.readTextString state).bind fun key =>
          if key.1 = "type" then
            (reader.readTextString key.2).bind fun value =>
              readFields reader fuel value.2 { fields with msgType := some value.1 }
          else if key.1 = "uuid" then
            (reader.readTextString key.2).bind fun value =>
              readFields reader fuel value.2 { fields with uuid := some value.1 }
          else
            (reader.skipValue key.2).bind fun next => readFields reader fuel next fields

/-- `DispatchMessage`, which gives nothing if the reader throws. A pair takes at least one byte,
so the loop takes no more turns than there are bytes. -/
def dispatchMessage (reader : Reader) (data : List UInt8) : Option Action :=
  (reader.readStartMap (reader.create data)).bind fun state =>
    (readFields reader (data.length + 1) state {}).bind fun read =>
      (reader.readEndMap read.2).map fun _ => read.1.action

/-! ### Pieces -/

/-- The pieces lose what is read. -/
theorem readExact_flatten (count : Nat) (chunks : List (List UInt8)) :
    (readExact count chunks).1 ++ (readExact count chunks).2.flatten = chunks.flatten := by
  induction chunks generalizing count with
  | nil => rfl
  | cons chunk later inductionHypothesis =>
    rw [readExact, List.flatten_cons]
    split
    · rfl
    · split
      · next empty => rw [empty]
      · split
        · rw [List.append_assoc, inductionHypothesis]
        · rw [List.flatten_cons, ← List.append_assoc, List.take_append_drop]

theorem readExact_spec {count : Nat} {chunks : List (List UInt8)}
    (delivers : ∀ chunk ∈ chunks, chunk ≠ []) (enough : count ≤ chunks.flatten.length) :
    (readExact count chunks).1.length = count ∧
      ∀ chunk ∈ (readExact count chunks).2, chunk ≠ [] := by
  induction chunks generalizing count with
  | nil => exact ⟨(Nat.le_zero.mp enough).symm, nofun⟩
  | cons chunk later inductionHypothesis =>
    obtain ⟨nonempty, others⟩ := List.forall_mem_cons.mp delivers
    rw [List.flatten_cons, List.length_append] at enough
    rw [readExact]
    split
    · next zero => exact ⟨zero.symm, delivers⟩
    · split
      · next fits =>
        have remaining : count - chunk.length ≤ later.flatten.length := by omega
        obtain ⟨size, rest⟩ := inductionHypothesis others remaining
        refine ⟨?_, rest⟩
        rw [List.length_append, size]
        omega
      · next longer =>
        refine ⟨by rw [List.length_take]; omega, List.forall_mem_cons.mpr ⟨fun same => ?_, others⟩⟩
        have left := congrArg List.length same
        rw [List.length_drop, List.length_nil] at left
        omega

/-- What stands first in the pieces is read, and what follows is left. -/
theorem readExact_append {first rest : List UInt8} {chunks : List (List UInt8)}
    (delivers : ∀ chunk ∈ chunks, chunk ≠ []) (arrives : chunks.flatten = first ++ rest) :
    ∃ later, readExact first.length chunks = (first, later) ∧ later.flatten = rest ∧
      ∀ chunk ∈ later, chunk ≠ [] := by
  have enough : first.length ≤ chunks.flatten.length := by
    rw [arrives, List.length_append]
    exact Nat.le_add_right _ _
  obtain ⟨size, left⟩ := readExact_spec delivers enough
  have parts := (readExact_flatten first.length chunks).trans arrives
  obtain ⟨same, remainder⟩ := List.append_inj parts size
  exact ⟨_, Prod.ext same rfl, remainder, left⟩

/-! ### The loop over messages -/

theorem readMessage_shorter {chunks later : List (List UInt8)} {body : List UInt8}
    (read : readMessage chunks = some (body, later)) :
    later.flatten.length < chunks.flatten.length := by
  have lenBuf := congrArg List.length (readExact_flatten 4 chunks)
  rw [readMessage] at read
  dsimp only at read
  split at read
  · cases read
  · split at read
    · cases read
    · split at read
      · cases read
      · have msgBuf := congrArg List.length (readExact_flatten
          (ofLittleEndian32 (readExact 4 chunks).1) (readExact 4 chunks).2)
        have left : (readExact (ofLittleEndian32 (readExact 4 chunks).1)
            (readExact 4 chunks).2).2 = later := congrArg Prod.snd (Option.some.inj read)
        rw [List.length_append] at lenBuf msgBuf
        rw [← left]
        omega

/-- `HandleConnectionAsync`: what each message makes the host do. A message that cannot be read
makes it do nothing, and a shutdown ends the loop. -/
def handleConnection (reader : Reader) (chunks : List (List UInt8)) : List (Option Action) :=
  match _read : readMessage chunks with
  | none => []
  | some (body, later) =>
    if dispatchMessage reader body = some .shutdown then [some .shutdown]
    else dispatchMessage reader body :: handleConnection reader later
termination_by chunks.flatten.length
decreasing_by exact readMessage_shorter (by assumption)

/-! ### The message is a document -/

theorem textHead_short : ∀ size < 24, 0x60 ||| UInt8.ofNat size =
    UInt8.ofNat (32 * textMajor + size) := by
  decide

/-- A text of at most 255 bytes follows a head of its length. -/
theorem cborAppendTextString_eq {s : List UInt8} (short : s.length ≤ 255) (out : List UInt8) :
    ∃ head, Head textMajor s.length head ∧ cborAppendTextString out s = out ++ (head ++ s) ∧
      head.length ≤ 2 := by
  rw [cborAppendTextString]
  by_cases direct : s.length < 24
  · refine ⟨_, .short direct, ?_, Nat.le_succ 1⟩
    rw [if_pos direct, textHead_short _ direct, List.append_assoc]
  · have fits : s.length < 256 := Nat.lt_succ_of_le short
    have masked : s.length &&& 0xFF = s.length :=
      (Nat.and_two_pow_sub_one_eq_mod s.length 8).trans (Nat.mod_eq_of_lt fits)
    have byte : bigEndian (2 ^ 0) s.length = [UInt8.ofNat s.length] := by
      conv_rhs => rw [← Nat.mod_eq_of_lt fits]
      rfl
    refine ⟨_, .long (by decide : 0 < 4) fits, ?_, ?_⟩
    · rw [if_neg direct, masked, byte, List.append_assoc, List.append_assoc]
      rfl
    · rw [byte]
      exact le_rfl

/-- The message is a map of two pairs of texts, and short enough for the host. -/
theorem selectModuleBody_shape {uuid : String} (short : (utf8 uuid).length ≤ 255) :
    ∃ typeHead selectHead uuidHead valueHead : List UInt8,
      (Head textMajor (utf8 "type").length typeHead ∧
        Head textMajor (utf8 "SelectModule").length selectHead ∧
          Head textMajor (utf8 "uuid").length uuidHead ∧
            Head textMajor (utf8 uuid).length valueHead) ∧
        selectModuleBody (utf8 uuid) =
            [0xA2] ++ (typeHead ++ (utf8 "type" ++ (selectHead ++ (utf8 "SelectModule" ++
              (uuidHead ++ (utf8 "uuid" ++ (valueHead ++ (utf8 uuid ++ [])))))))) ∧
          (selectModuleBody (utf8 uuid)).length ≤ kMaxMessage := by
  have typeText : utf8 "type" = ascii "type" := by decide
  have selectText : utf8 "SelectModule" = ascii "SelectModule" := by decide
  have uuidText : utf8 "uuid" = ascii "uuid" := by decide
  have typeSize : (ascii "type").length = 4 := rfl
  have selectSize : (ascii "SelectModule").length = 12 := rfl
  have uuidSize : (ascii "uuid").length = 4 := rfl
  obtain ⟨typeHead, typeOpens, typeWritten, typeShort⟩ :=
    cborAppendTextString_eq (by omega : (ascii "type").length ≤ 255) [0xA2]
  obtain ⟨selectHead, selectOpens, selectWritten, selectShort⟩ :=
    cborAppendTextString_eq (by omega : (ascii "SelectModule").length ≤ 255)
      ([0xA2] ++ (typeHead ++ ascii "type"))
  obtain ⟨uuidHead, uuidOpens, uuidWritten, uuidShort⟩ :=
    cborAppendTextString_eq (by omega : (ascii "uuid").length ≤ 255)
      ([0xA2] ++ (typeHead ++ ascii "type") ++ (selectHead ++ ascii "SelectModule"))
  obtain ⟨valueHead, valueOpens, valueWritten, valueShort⟩ :=
    cborAppendTextString_eq short
      ([0xA2] ++ (typeHead ++ ascii "type") ++ (selectHead ++ ascii "SelectModule") ++
        (uuidHead ++ ascii "uuid"))
  have written : selectModuleBody (utf8 uuid) =
      [0xA2] ++ (typeHead ++ ascii "type") ++ (selectHead ++ ascii "SelectModule") ++
        (uuidHead ++ ascii "uuid") ++ (valueHead ++ utf8 uuid) := by
    rw [selectModuleBody, typeWritten, selectWritten, uuidWritten, valueWritten]
  refine ⟨typeHead, selectHead, uuidHead, valueHead, ?_, ?_, ?_⟩
  · rw [typeText, selectText, uuidText]
    exact ⟨typeOpens, selectOpens, uuidOpens, valueOpens⟩
  · rw [written, typeText, selectText, uuidText, List.append_nil]
    simp only [List.append_assoc]
  · rw [written, kMaxMessage]
    simp only [List.length_append, List.length_singleton]
    omega

/-! ### The message is read -/

section Reading

variable {reader : Reader} {At : reader.State → List Nat → List UInt8 → Prop}
variable {state : reader.State} {count : Nat} {counts : List Nat}
variable {keyHead valueHead rest : List UInt8} {key value : String}

/-- A reader that conforms reads a pair of texts. -/
theorem readPair (conforms : reader.ConformsAt At)
    (keyOpens : Head textMajor (utf8 key).length keyHead)
    (valueOpens : Head textMajor (utf8 value).length valueHead)
    (later : Finishes (count :: counts) rest)
    (stands : At state ((count + 1 + 1) :: counts)
      (keyHead ++ (utf8 key ++ (valueHead ++ (utf8 value ++ rest))))) :
    ∃ between next, reader.peekState state = some .textString ∧
      reader.readTextString state = some (key, between) ∧
        reader.readTextString between = some (value, next) ∧ At next (count :: counts) rest := by
  have afterKey : Finishes ((count + 1) :: counts) (valueHead ++ (utf8 value ++ rest)) :=
    .text value valueOpens later
  obtain ⟨between, readKey, standsBetween⟩ :=
    conforms.readTextString state _ counts keyHead key _ keyOpens afterKey stands
  obtain ⟨next, readValue, standsNext⟩ :=
    conforms.readTextString between _ counts valueHead value _ valueOpens later standsBetween
  exact ⟨between, next, conforms.peekText state _ counts keyHead key _ keyOpens afterKey stands,
    readKey, readValue, standsNext⟩

end Reading

/-- The host takes the message for the selection of its identifier. -/
theorem dispatchMessage_selectModule {reader : Reader} (conforms : reader.Conforms)
    {uuid : String} (short : (utf8 uuid).length ≤ 255) :
    dispatchMessage reader (selectModuleBody (utf8 uuid)) = some (.selectActive uuid) := by
  obtain ⟨At, conformsAt⟩ := conforms
  obtain ⟨typeHead, selectHead, uuidHead, valueHead, ⟨typeOpens, selectOpens, uuidOpens,
    valueOpens⟩, shape, -⟩ := selectModuleBody_shape short
  have mapOpens : Head mapMajor 2 [0xA2] := .short (by decide)
  have closed : Finishes [0, 1] [] := .close .done
  have secondPair := (Finishes.text uuid valueOpens closed).text "uuid" uuidOpens
  have firstPair := (secondPair.text "SelectModule" selectOpens).text "type" typeOpens
  have document : Document (selectModuleBody (utf8 uuid)) := by
    rw [shape]
    exact .map mapOpens firstPair
  have stands := conformsAt.create _ document
  rw [shape] at stands
  obtain ⟨opened, start, standsOpened⟩ :=
    conformsAt.readStartMap _ 2 0 [] _ _ mapOpens firstPair stands
  obtain ⟨typeKey, afterType, peekType, readType, readSelect, standsType⟩ :=
    readPair conformsAt typeOpens selectOpens secondPair standsOpened
  obtain ⟨uuidKey, afterUuid, peekUuid, readUuid, readValue, standsUuid⟩ :=
    readPair conformsAt uuidOpens valueOpens closed standsType
  have peekEnd := conformsAt.peekEnd _ 0 [] _ .done standsUuid
  obtain ⟨ended, endMap, -⟩ := conformsAt.readEndMap _ 0 [] _ .done standsUuid
  have bytes : 2 ≤ (selectModuleBody (utf8 uuid)).length := by
    have typeSize : (utf8 "type").length = 4 := by decide
    rw [shape]
    simp only [List.length_append, List.length_singleton]
    omega
  obtain ⟨turns, enough⟩ : ∃ turns,
      (selectModuleBody (utf8 uuid)).length + 1 = turns + 1 + 1 + 1 :=
    ⟨(selectModuleBody (utf8 uuid)).length - 2, by omega⟩
  have otherKey : "uuid" ≠ "type" := by decide
  rw [← shape] at start
  rw [dispatchMessage, start, Option.bind_some, enough, readFields, peekType, Option.bind_some,
    if_neg (by decide), readType, Option.bind_some, if_pos rfl, readSelect, Option.bind_some,
    readFields, peekUuid, Option.bind_some, if_neg (by decide), readUuid, Option.bind_some,
    if_neg otherKey, if_pos rfl, readValue, Option.bind_some, readFields, peekEnd,
    Option.bind_some, if_pos rfl, Option.bind_some, endMap]
  rfl

/-- The host collects the message, and nothing else, from whatever pieces it comes in. -/
theorem readMessage_selectModule {uuid : String} (short : (utf8 uuid).length ≤ 255)
    {chunks : List (List UInt8)} {rest : List UInt8} (delivers : ∀ chunk ∈ chunks, chunk ≠ [])
    (arrives : chunks.flatten = encodeSelectModule (utf8 uuid) ++ rest) :
    ∃ later, readMessage chunks = some (selectModuleBody (utf8 uuid), later) ∧
      later.flatten = rest ∧ ∀ chunk ∈ later, chunk ≠ [] := by
  obtain ⟨typeHead, selectHead, uuidHead, valueHead, -, shape, most⟩ :=
    selectModuleBody_shape short
  have least : (selectModuleBody (utf8 uuid)).length ≠ 0 := by
    rw [shape]
    exact Nat.succ_ne_zero _
  rw [encodeSelectModule, List.append_assoc] at arrives
  obtain ⟨afterLength, readLength, restLength, deliversLength⟩ :=
    readExact_append delivers arrives
  obtain ⟨later, readBody, restBody, deliversBody⟩ := readExact_append deliversLength restLength
  have word : ofLittleEndian32 (littleEndian32 (selectModuleBody (utf8 uuid)).length) =
      (selectModuleBody (utf8 uuid)).length :=
    ofLittleEndian32_littleEndian32 _ (most.trans_lt (by decide))
  refine ⟨later, ?_, restBody, deliversBody⟩
  rw [littleEndian32_length] at readLength
  simp only [readMessage, readLength, littleEndian32_length, word, readBody, lt_irrefl, if_false,
    least, false_or, not_lt.mpr most]

theorem handleConnection_of_read {reader : Reader} {chunks later : List (List UInt8)}
    {body : List UInt8} (read : readMessage chunks = some (body, later)) :
    handleConnection reader chunks =
      if dispatchMessage reader body = some .shutdown then [some .shutdown]
      else dispatchMessage reader body :: handleConnection reader later := by
  rw [handleConnection]
  split
  · next nothing =>
    rw [read] at nothing
    cases nothing
  · next same =>
    rw [read] at same
    obtain ⟨rfl, rfl⟩ := Prod.mk.inj (Option.some.inj same)
    rfl

theorem handleConnection_selectModule {reader : Reader} (conforms : reader.Conforms)
    {uuid : String} (short : (utf8 uuid).length ≤ 255) {chunks later : List (List UInt8)}
    (read : readMessage chunks = some (selectModuleBody (utf8 uuid), later)) :
    handleConnection reader chunks =
      some (.selectActive uuid) :: handleConnection reader later := by
  rw [handleConnection_of_read read, dispatchMessage_selectModule conforms short, if_neg nofun]

/-- Messages that arrive, in whatever pieces, select their identifiers in order. -/
theorem handleConnection_selectModules {reader : Reader} (conforms : reader.Conforms)
    {uuids : List String} (short : ∀ uuid ∈ uuids, (utf8 uuid).length ≤ 255)
    {chunks : List (List UInt8)} (delivers : ∀ chunk ∈ chunks, chunk ≠ [])
    (arrives : chunks.flatten = uuids.flatMap fun uuid => encodeSelectModule (utf8 uuid)) :
    handleConnection reader chunks = uuids.map fun uuid => some (.selectActive uuid) := by
  induction uuids generalizing chunks with
  | nil =>
    have nothing : chunks = [] := List.eq_nil_iff_forall_not_mem.mpr fun chunk member =>
      delivers chunk member (List.flatten_eq_nil_iff.mp arrives chunk member)
    rw [nothing, handleConnection]
    rfl
  | cons uuid rest inductionHypothesis =>
    rw [List.forall_mem_cons] at short
    rw [List.flatMap_cons] at arrives
    obtain ⟨later, read, left, deliversLater⟩ :=
      readMessage_selectModule short.1 delivers arrives
    rw [handleConnection_selectModule conforms short.1 read,
      inductionHypothesis short.2 deliversLater left, List.map_cons]

/-- A message that arrives, in whatever pieces, selects exactly its identifier, and leaves what
follows it to the messages after it. -/
theorem select_module_dispatched {reader : Reader} (conforms : reader.Conforms) {uuid : String}
    (short : (utf8 uuid).length ≤ 255) {chunks : List (List UInt8)} {rest : List UInt8}
    (delivers : ∀ chunk ∈ chunks, chunk ≠ [])
    (arrives : chunks.flatten = encodeSelectModule (utf8 uuid) ++ rest) :
    ∃ later, readMessage chunks = some (selectModuleBody (utf8 uuid), later) ∧
      later.flatten = rest ∧
        handleConnection reader chunks =
          some (.selectActive uuid) :: handleConnection reader later := by
  obtain ⟨later, read, left, -⟩ := readMessage_selectModule short delivers arrives
  exact ⟨later, read, left, handleConnection_selectModule conforms short read⟩

/-- An identifier with a two-byte head. -/
def someUuid : String :=
  "3fa85f64-5717-4562-b3fc-2c963f66afa6"

/-- Its message in two pieces. -/
def someChunks : List (List UInt8) :=
  [(encodeSelectModule (utf8 someUuid)).take 3, (encodeSelectModule (utf8 someUuid)).drop 3]

theorem select_module_dispatched_pieces :
    ∃ later, readMessage someChunks = some (selectModuleBody (utf8 someUuid), later) ∧
      later.flatten = [] ∧
        handleConnection plainReader someChunks =
          some (.selectActive someUuid) :: handleConnection plainReader later :=
  select_module_dispatched plainReader_conforms (by decide +kernel) (by decide +kernel)
    (by decide +kernel)

theorem handleConnection_selectModules_pieces :
    handleConnection plainReader someChunks = [some (.selectActive someUuid)] :=
  @handleConnection_selectModules _ plainReader_conforms [someUuid] (by decide +kernel) someChunks
    (by decide +kernel) (by decide +kernel)

end PairDriver.ControlPipe
