/-
This file proves that an OSC message comes back as it was written. Each write call
that leaves the packet intact appends the encoding of its piece, whatever stands
before it, and each read call on an encoding takes exactly that piece off, whatever
comes after it; the message and its arguments follow piece by piece. The captions
host's own encoder produces the same pieces, so its packets are read back too.
-/

import PairDriver.OscWire

namespace PairDriver.Osc

open PubPipe (pad4 writeOscString pad4_eq_roundUp4 chatboxAddress chatboxTypetag
  encodeChatboxPacket chatboxTypetag_pad4)

/-! ### What a write call appends -/

section Write

variable {N : Nat}

/-- A write call appends a piece to an intact packet that has room for it, and breaks any
other packet. -/
def Writes (piece : List UInt8) (write : OscPacket N → OscPacket N) : Prop :=
  ∀ packet, ((write packet).ok = true ↔
      packet.ok = true ∧ packet.bytes.length + piece.length ≤ N) ∧
    ((write packet).ok = true → (write packet).bytes = packet.bytes ++ piece)

theorem writes_nothing : Writes [] fun packet : OscPacket N => packet := by
  intro packet
  refine ⟨⟨fun ok => ⟨ok, packet.fits⟩, And.left⟩, fun _ => ?_⟩
  exact (List.append_nil _).symm

/-- Two write calls append one piece after the other. -/
theorem Writes.andThen {first second : List UInt8} {write next : OscPacket N → OscPacket N}
    (writesFirst : Writes first write) (writesSecond : Writes second next) :
    Writes (first ++ second) fun packet => next (write packet) := by
  intro packet
  obtain ⟨firstOk, firstBytes⟩ := writesFirst packet
  obtain ⟨secondOk, secondBytes⟩ := writesSecond (write packet)
  refine ⟨⟨fun ok => ?_, fun ⟨ok, room⟩ => ?_⟩, fun ok => ?_⟩
  · obtain ⟨between, room⟩ := secondOk.mp ok
    rw [firstBytes between, List.length_append] at room
    rw [List.length_append, ← Nat.add_assoc]
    exact ⟨(firstOk.mp between).1, room⟩
  · rw [List.length_append] at room
    have between := firstOk.mpr ⟨ok, by omega⟩
    refine secondOk.mpr ⟨between, ?_⟩
    rw [firstBytes between, List.length_append]
    omega
  · rw [secondBytes ok, firstBytes (secondOk.mp ok).1, List.append_assoc]

theorem append_writes (piece : List UInt8) :
    Writes piece (OscPacket.append piece : OscPacket N → OscPacket N) := by
  intro packet
  unfold OscPacket.append
  by_cases ok : packet.ok = true
  · rw [if_pos ok]
    by_cases room : packet.bytes.length + piece.length ≤ N
    · rw [dif_pos room]
      exact ⟨⟨fun _ => ⟨ok, room⟩, fun _ => ok⟩, fun _ => rfl⟩
    · rw [dif_neg room]
      exact ⟨⟨fun broken => absurd broken Bool.false_ne_true, fun fits => absurd fits.2 room⟩,
        fun broken => absurd broken Bool.false_ne_true⟩
  · rw [if_neg ok]
    exact ⟨⟨fun intact => absurd intact ok, fun fits => absurd fits.1 ok⟩,
      fun intact => absurd intact ok⟩

theorem appendZeros_writes (count : Nat) :
    Writes (List.replicate count 0) (OscPacket.appendZeros count : OscPacket N → OscPacket N) := by
  induction count with
  | zero => exact writes_nothing
  | succ count inductionHypothesis => exact (append_writes [0]).andThen inductionHypothesis

theorem writeStr_writes (text : List UInt8) :
    Writes (writeOscString text) (OscPacket.writeStr text : OscPacket N → OscPacket N) :=
  (append_writes _).andThen (appendZeros_writes _)

/-- The encoding of an argument. -/
def encodeArg : Arg → List UInt8
  | .int32 value => bigEndian32 value.toUInt32
  | .float bits => bigEndian32 bits
  | .string text => writeOscString text
  | .blob data =>
      bigEndian32 (UInt32.ofNat data.length) ++ data ++
        List.replicate (oscPad4 data.length - data.length) 0

/-- The encodings of some arguments, one after the other. -/
def encodeArgs (args : List Arg) : List UInt8 := args.flatMap encodeArg

theorem writeArg_writes (arg : Arg) :
    Writes (encodeArg arg) (OscPacket.writeArg · arg : OscPacket N → OscPacket N) := by
  cases arg with
  | int32 value => exact append_writes _
  | float bits => exact append_writes _
  | string text => exact writeStr_writes text
  | blob data => exact ((append_writes _).andThen (append_writes _)).andThen (appendZeros_writes _)

theorem writeArgs_writes (args : List Arg) :
    Writes (encodeArgs args)
      (fun packet : OscPacket N => args.foldl OscPacket.writeArg packet) := by
  induction args with
  | nil => exact writes_nothing
  | cons arg args inductionHypothesis =>
    exact (writeArg_writes arg).andThen inductionHypothesis

/-- The bytes of a message: its address, its type tag and its arguments. -/
def encodeMessage (address typetag : List UInt8) (args : List Arg) : List UInt8 :=
  writeOscString address ++ (writeOscString typetag ++ encodeArgs args)

theorem build_writes (address typetag : List UInt8) (args : List Arg) :
    ((OscPacket.build N address typetag args).ok = true ↔
        (encodeMessage address typetag args).length ≤ N) ∧
      ((OscPacket.build N address typetag args).ok = true →
        (OscPacket.build N address typetag args).bytes = encodeMessage address typetag args) := by
  have written := (writeStr_writes address).andThen
    ((writeStr_writes typetag).andThen (writeArgs_writes args))
    { bytes := [], ok := true, fits := Nat.zero_le N }
  refine ⟨written.1.trans ?_, written.2⟩
  simp only [List.length_nil, Nat.zero_add, true_and, encodeMessage]

end Write

/-! ### What a read call takes off -/

/-- A valid reader between the bytes it has read and those that remain. -/
def OscReader.between (before rest : List UInt8) : OscReader :=
  { data := before ++ rest, pos := before.length, valid := true }

@[simp]
theorem between_valid (before rest : List UInt8) :
    (OscReader.between before rest).valid = true := rfl

@[simp]
theorem between_pos (before rest : List UInt8) :
    (OscReader.between before rest).pos = before.length := rfl

@[simp]
theorem between_data (before rest : List UInt8) :
    (OscReader.between before rest).data = before ++ rest := rfl

/-- Reading a piece moves the reader from its front to its end. -/
theorem between_advance (before piece after : List UInt8) :
    { OscReader.between before (piece ++ after) with pos := before.length + piece.length } =
      OscReader.between (before ++ piece) after := by
  simp only [OscReader.between, List.append_assoc, List.length_append]

/-- The encoding of a plain string is as long as the padded string with its NUL. -/
theorem writeOscString_length_plain (text : List UInt8) (plain : 0 ∉ text)
    (short : text.length + 4 < 2 ^ 32) :
    (writeOscString text).length = oscPad4 (text.length + 1) := by
  have padded : pad4 (text.length + 1) = roundUp4 (text.length + 1) :=
    pad4_eq_roundUp4 _ (by omega)
  have grows := le_roundUp4 (text.length + 1)
  have same : oscPad4 (text.length + 1) = pad4 (text.length + 1) := rfl
  simp only [writeOscString, cString_plain text plain, same, padded, List.length_append,
    List.length_cons, List.length_nil, List.length_replicate]
  omega

theorem readStr_written (before text after : List UInt8) (plain : 0 ∉ text)
    (short : text.length + 4 < 2 ^ 32) :
    (OscReader.between before (writeOscString text ++ after)).readStr =
      (some text, OscReader.between (before ++ writeOscString text) after) := by
  have length := writeOscString_length_plain text plain short
  have read : cString (writeOscString text ++ after) = text := by
    unfold writeOscString
    simp only [cString_plain text plain, List.append_assoc, List.cons_append, List.nil_append]
    exact cString_append text _ plain
  have terminated : text.length < (writeOscString text ++ after).length := by
    rw [List.length_append, length]
    have padded : oscPad4 (text.length + 1) = roundUp4 (text.length + 1) :=
      pad4_eq_roundUp4 _ (by omega)
    have grows := le_roundUp4 (text.length + 1)
    omega
  have room : ¬(before.length + oscPad4 (text.length + 1) >
      (before ++ (writeOscString text ++ after)).length) := by
    simp only [List.length_append, length]
    omega
  unfold OscReader.readStr
  simp only [between_valid, between_pos, between_data, List.drop_left, read]
  rw [if_pos trivial, if_neg (Nat.ne_of_lt terminated), if_neg room, ← length]
  exact congrArg (Prod.mk (some text)) (between_advance before _ after)

theorem readBytes_written (before piece after : List UInt8) :
    (OscReader.between before (piece ++ after)).readBytes piece.length =
      (some piece, OscReader.between (before ++ piece) after) := by
  have room : ¬(before.length + piece.length > (before ++ (piece ++ after)).length) := by
    simp only [List.length_append]
    omega
  unfold OscReader.readBytes
  simp only [between_valid, between_pos, between_data, List.drop_left, List.take_left]
  rw [if_pos trivial, if_neg room]
  exact congrArg (Prod.mk (some piece)) (between_advance before piece after)

theorem readInt32_written (before after : List UInt8) (word : UInt32) :
    (OscReader.between before (bigEndian32 word ++ after)).readInt32 =
      (word.toInt32, OscReader.between (before ++ bigEndian32 word) after) := by
  have read := readBytes_written before (bigEndian32 word) after
  rw [bigEndian32_length] at read
  unfold OscReader.readInt32
  rw [read]
  simp only [ofBigEndian32_bigEndian32]

/-- A length below 2^31 is not negative as a signed word. -/
theorem toInt_toInt32_ofNat (size : Nat) (short : size < 2 ^ 31) :
    (UInt32.ofNat size).toInt32.toInt = size := by
  have word : (UInt32.ofNat size).toBitVec.toNat = size := by
    rw [UInt32.toNat_toBitVec, UInt32.toNat_ofNat']
    exact Nat.mod_eq_of_lt (by omega)
  have signed : (UInt32.ofNat size).toBitVec.toInt = ((UInt32.ofNat size).toBitVec.toNat : Int) :=
    BitVec.toInt_eq_toNat_of_lt (by omega)
  rw [word] at signed
  exact signed

/-- Reading a blob shorter than 2^31 bytes, the longest a signed length can say. -/
theorem readBlob_written (before data after : List UInt8) (short : data.length < 2 ^ 31) :
    (OscReader.between before (encodeArg (.blob data) ++ after)).readBlob =
      (some data, OscReader.between (before ++ encodeArg (.blob data)) after) := by
  let word : UInt32 := UInt32.ofNat data.length
  let padding : List UInt8 := List.replicate (oscPad4 data.length - data.length) 0
  have encoded : encodeArg (.blob data) = bigEndian32 word ++ (data ++ padding) :=
    List.append_assoc _ _ _
  have size : word.toInt32.toUInt32.toNat = data.length := by
    show word.toNat = data.length
    rw [UInt32.toNat_ofNat']
    exact Nat.mod_eq_of_lt (by omega)
  have sign : ¬word.toInt32.toInt < 0 := by
    have signed : word.toInt32.toInt = data.length := toInt_toInt32_ofNat data.length short
    omega
  have padded : oscPad4 data.length = (data ++ padding).length := by
    have same : oscPad4 data.length = roundUp4 data.length := pad4_eq_roundUp4 _ (by omega)
    have grows := le_roundUp4 data.length
    simp only [List.length_append, padding, List.length_replicate]
    omega
  have room : ¬((before ++ bigEndian32 word).length + data.length >
      (before ++ bigEndian32 word ++ (data ++ padding ++ after)).length) := by
    simp only [List.length_append]
    omega
  have last : ¬((before ++ bigEndian32 word).length + (data ++ padding).length >
      (before ++ bigEndian32 word ++ (data ++ padding ++ after)).length) := by
    simp only [List.length_append]
    omega
  rw [encoded, List.append_assoc]
  unfold OscReader.readBlob
  rw [readInt32_written]
  simp only [between_valid, between_pos, between_data, size, padded]
  rw [if_pos ⟨trivial, sign⟩, if_neg room, if_neg last, List.drop_left]
  rw [List.append_assoc data, List.take_left, ← List.append_assoc data, ← List.append_assoc before]
  exact congrArg (Prod.mk (some data)) (between_advance _ _ after)

/-! ### Whole messages -/

/-- An argument that both ends can hold: strings without NUL whose padded length stays within
32 bits, and blobs whose length stays within a signed word. -/
def Arg.Plain : Arg → Prop
  | .int32 _ => True
  | .float _ => True
  | .string text => 0 ∉ text ∧ text.length + 4 < 2 ^ 32
  | .blob data => data.length < 2 ^ 31

instance (arg : Arg) : Decidable arg.Plain :=
  match arg with
  | .int32 _ => isTrue trivial
  | .float _ => isTrue trivial
  | .string text => inferInstanceAs (Decidable (0 ∉ text ∧ text.length + 4 < 2 ^ 32))
  | .blob data => inferInstanceAs (Decidable (data.length < 2 ^ 31))

theorem readMatching_written (before after : List UInt8) (arg : Arg) (plain : arg.Plain) :
    (OscReader.between before (encodeArg arg ++ after)).readMatching arg =
      (some arg, OscReader.between (before ++ encodeArg arg) after) := by
  cases arg with
  | int32 value =>
    simp only [OscReader.readMatching, encodeArg, readInt32_written]
    rfl
  | float bits =>
    simp only [OscReader.readMatching, OscReader.readFloat, encodeArg, readInt32_written]
    rfl
  | string text =>
    simp only [OscReader.readMatching, encodeArg, readStr_written before text after plain.1 plain.2,
      Option.map_some]
  | blob data =>
    simp only [OscReader.readMatching, readBlob_written before data after plain, Option.map_some]

/-- The matching read calls take off all the arguments that were written. -/
theorem readAll_written (before after : List UInt8) (args : List Arg)
    (plain : ∀ arg ∈ args, arg.Plain) :
    (OscReader.between before (encodeArgs args ++ after)).readAll args =
      (args.map some, OscReader.between (before ++ encodeArgs args) after) := by
  induction args generalizing before with
  | nil => 
    simp only [OscReader.readAll, encodeArgs, List.flatMap_nil, List.append_nil, List.nil_append,
      List.map_nil]
  | cons arg args inductionHypothesis =>
    have first := readMatching_written before (encodeArgs args ++ after) arg
      (plain arg List.mem_cons_self)
    have rest := inductionHypothesis (before ++ encodeArg arg) fun other member =>
      plain other (List.mem_cons_of_mem _ member)
    have encoded : encodeArgs (arg :: args) = encodeArg arg ++ encodeArgs args :=
      List.flatMap_cons
    rw [encoded, List.append_assoc]
    simp only [OscReader.readAll, first, rest, List.map_cons, List.append_assoc]

theorem ofBytes_append_cons (first : List UInt8) (byte : UInt8) (rest : List UInt8) :
    OscReader.ofBytes (first ++ byte :: rest) = OscReader.between [] (first ++ byte :: rest) := by
  cases first with
  | nil => rfl
  | cons => rfl

/-- A written address and type tag are parsed off, and leave the argument bytes. -/
theorem oscParseMessage_written (address typetag argData : List UInt8) (addressPlain : 0 ∉ address)
    (addressShort : address.length + 4 < 2 ^ 32) (typetagPlain : 0 ∉ typetag)
    (typetagShort : typetag.length + 4 < 2 ^ 32) :
    oscParseMessage (writeOscString address ++ (writeOscString typetag ++ argData)) =
      { address := some address
        typetag := some typetag
        argData := argData
        valid := true } := by
  have start : OscReader.ofBytes (writeOscString address ++ (writeOscString typetag ++ argData)) =
      OscReader.between [] (writeOscString address ++ (writeOscString typetag ++ argData)) := by
    simp only [writeOscString, List.append_assoc, List.cons_append]
    exact ofBytes_append_cons _ _ _
  unfold oscParseMessage
  rw [start, readStr_written [] address _ addressPlain addressShort]
  simp only [readStr_written _ typetag argData typetagPlain typetagShort]
  simp only [between_valid, between_pos, List.nil_append, Option.isSome_some, Bool.and_self, if_true]
  rw [← List.append_assoc, List.drop_left]

/-! ### Round trips -/

theorem writeOscString_aligned (text : List UInt8) (plain : 0 ∉ text)
    (short : text.length + 4 < 2 ^ 32) : 4 ∣ (writeOscString text).length := by
  have padded : oscPad4 (text.length + 1) = roundUp4 (text.length + 1) :=
    pad4_eq_roundUp4 _ (by omega)
  rw [writeOscString_length_plain text plain short, padded]
  exact Nat.dvd_mul_left 4 _

theorem encodeArg_aligned (arg : Arg) (plain : arg.Plain) : 4 ∣ (encodeArg arg).length := by
  cases arg with
  | int32 value => exact Nat.dvd_refl 4
  | float bits => exact Nat.dvd_refl 4
  | string text => exact writeOscString_aligned text plain.1 plain.2
  | blob data =>
    have short : data.length < 2 ^ 31 := plain
    have padded : oscPad4 data.length = roundUp4 data.length := pad4_eq_roundUp4 _ (by omega)
    have grows := le_roundUp4 data.length
    have aligned : 4 ∣ roundUp4 data.length := Nat.dvd_mul_left 4 _
    simp only [encodeArg, List.length_append, List.length_replicate, bigEndian32_length, padded]
    omega

theorem encodeArgs_aligned (args : List Arg) (plain : ∀ arg ∈ args, arg.Plain) :
    4 ∣ (encodeArgs args).length := by
  induction args with
  | nil => exact Nat.dvd_zero 4
  | cons arg args inductionHypothesis =>
    have first := encodeArg_aligned arg (plain arg List.mem_cons_self)
    have rest := inductionHypothesis fun other member => plain other (List.mem_cons_of_mem _ member)
    simp only [encodeArgs, List.flatMap_cons, List.length_append] at rest ⊢
    exact Nat.dvd_add first rest

/-- Every argument takes bytes, so only a message without arguments leaves none to read. -/
theorem encodeArgs_isEmpty (args : List Arg) : (encodeArgs args).isEmpty = args.isEmpty := by
  cases args with
  | nil => rfl
  | cons arg args =>
    cases arg with
    | string text => simp [encodeArgs, encodeArg, writeOscString]
    | int32 | float | blob => rfl

/-- The reader of a message's argument bytes, after the matching read calls. -/
def readBack (packet : List UInt8) (args : List Arg) : List (Option Arg) × OscReader :=
  (OscReader.ofBytes (oscParseMessage packet).argData).readAll args

/-- A packet has a padded size within its buffer, parses to an address and a type tag, and
its arguments are read back to the end. -/
structure ComesBack (N : Nat) (packet address typetag : List UInt8) (args : List Arg) : Prop where
  aligned : 4 ∣ packet.length
  bounded : packet.length ≤ N
  parsed : (oscParseMessage packet).valid = true
  address : (oscParseMessage packet).address = some address
  typetag : (oscParseMessage packet).typetag = some typetag
  arguments : (readBack packet args).1 = args.map some
  atEnd : (readBack packet args).2.atEnd = true

theorem ofBytes_encodeArgs (arg : Arg) (args : List Arg) :
    OscReader.ofBytes (encodeArgs (arg :: args)) =
      OscReader.between [] (encodeArgs (arg :: args) ++ []) := by
  simp only [OscReader.ofBytes, encodeArgs_isEmpty, OscReader.between, List.append_nil,
    List.nil_append, List.isEmpty_cons, Bool.not_false, List.length_nil]

/-- The last reader of some argument bytes stands at their end, and is valid if there are any. -/
theorem readAll_ofBytes (args : List Arg) (plain : ∀ arg ∈ args, arg.Plain) :
    (OscReader.ofBytes (encodeArgs args)).readAll args =
      (args.map some,
        { data := encodeArgs args
          pos := (encodeArgs args).length
          valid := !args.isEmpty }) := by
  cases args with
  | nil => rfl
  | cons arg rest =>
    rw [ofBytes_encodeArgs, readAll_written [] [] (arg :: rest) plain]
    simp only [OscReader.between, List.append_nil, List.nil_append, List.isEmpty_cons,
      Bool.not_false]

/-- What the parser and the readers make of an encoded message. -/
theorem encodeMessage_comesBack (N : Nat) (address typetag : List UInt8) (args : List Arg)
    (addressPlain : (Arg.string address).Plain) (typetagPlain : (Arg.string typetag).Plain)
    (plain : ∀ arg ∈ args, arg.Plain) (room : (encodeMessage address typetag args).length ≤ N) :
    ComesBack N (encodeMessage address typetag args) address typetag args ∧
      (readBack (encodeMessage address typetag args) args).2.valid = !args.isEmpty := by
  have parsed : oscParseMessage (encodeMessage address typetag args) = _ :=
    oscParseMessage_written address typetag (encodeArgs args) addressPlain.1 addressPlain.2
      typetagPlain.1 typetagPlain.2
  have read : readBack (encodeMessage address typetag args) args =
      (OscReader.ofBytes (encodeArgs args)).readAll args := by
    unfold readBack
    rw [parsed]
  rw [readAll_ofBytes args plain] at read
  refine ⟨⟨?_, room, ?_, ?_, ?_, ?_, ?_⟩, ?_⟩
  · simp only [encodeMessage, List.length_append]
    exact Nat.dvd_add (writeOscString_aligned address addressPlain.1 addressPlain.2)
      (Nat.dvd_add (writeOscString_aligned typetag typetagPlain.1 typetagPlain.2)
        (encodeArgs_aligned args plain))
  · rw [parsed]
  · rw [parsed]
  · rw [parsed]
  · rw [read]
  · rw [read]
    exact decide_eq_true (Nat.le_refl _)
  · rw [read]

/-- A blob of 2^31 bytes or more has a negative length and is refused by the reader. -/
theorem readBlob_long (before data after : List UInt8) (long : 2 ^ 31 ≤ data.length)
    (short : data.length < 2 ^ 32) :
    (OscReader.between before (encodeArg (.blob data) ++ after)).readBlob.1 = none := by
  let word : UInt32 := UInt32.ofNat data.length
  have sign : word.toInt32.toInt < 0 := by
    have size : word.toBitVec.toNat = data.length := by
      rw [UInt32.toNat_toBitVec, UInt32.toNat_ofNat']
      exact Nat.mod_eq_of_lt short
    have signed : word.toBitVec.toInt < 0 := BitVec.toInt_neg_iff.mpr (by omega)
    exact signed
  unfold OscReader.readBlob
  simp only [encodeArg, List.append_assoc, readInt32_written]
  rw [if_neg fun accepted => accepted.2 sign]

/-- The captions host's packet of a text that fits is the encoding of a message with that text. -/
theorem encodeChatboxPacket_fits (bufSize : Nat) (text : List UInt8) (sendImmediate notify : Bool)
    (plain : (Arg.string text).Plain) (room : 24 + roundUp4 (text.length + 1) ≤ bufSize) :
    encodeChatboxPacket bufSize text sendImmediate notify =
      some (encodeMessage chatboxAddress (chatboxTypetag sendImmediate notify) [.string text]) := by
  have padded : pad4 (text.length + 1) = roundUp4 (text.length + 1) :=
    pad4_eq_roundUp4 _ (by have := plain.2; omega)
  have address : pad4 (chatboxAddress.length + 1) = 16 := by decide
  simp only [encodeChatboxPacket, cString_plain text plain.1, padded, address, chatboxTypetag_pad4]
  rw [if_neg (by omega)]
  simp only [encodeMessage, encodeArgs, encodeArg, List.flatMap_cons, List.flatMap_nil,
    List.append_nil, List.append_assoc]

theorem chatboxTypetag_plain (sendImmediate notify : Bool) :
    (Arg.string (chatboxTypetag sendImmediate notify)).Plain := by
  cases sendImmediate <;> cases notify <;> decide

/-- An OSC message comes back as it was written: the packet is padded and within its buffer, it
parses to the same address and type tag, and the matching reads yield the arguments up to the
end, by a reader that is valid unless there was nothing to read. A chatbox packet comes back
too. -/
theorem osc_round_trip :
    (∀ (N : Nat) (address typetag : List UInt8) (args : List Arg),
      (Arg.string address).Plain → (Arg.string typetag).Plain → (∀ arg ∈ args, arg.Plain) →
      (OscPacket.build N address typetag args).ok = true →
        ComesBack N (OscPacket.build N address typetag args).bytes address typetag args ∧
          (readBack (OscPacket.build N address typetag args).bytes args).2.valid =
            !args.isEmpty) ∧
    (∀ (bufSize : Nat) (text : List UInt8) (sendImmediate notify : Bool),
      (Arg.string text).Plain → 24 + roundUp4 (text.length + 1) ≤ bufSize →
        ∃ packet, encodeChatboxPacket bufSize text sendImmediate notify = some packet ∧
          ComesBack bufSize packet chatboxAddress (chatboxTypetag sendImmediate notify)
            [.string text] ∧
          (readBack packet [.string text]).2.valid = true) := by
  refine ⟨fun N address typetag args addressPlain typetagPlain plain intact => ?_,
    fun bufSize text sendImmediate notify plain room => ?_⟩
  · obtain ⟨fits, bytes⟩ := build_writes (N := N) address typetag args
    rw [bytes intact]
    exact encodeMessage_comesBack N address typetag args addressPlain typetagPlain plain
      (fits.mp intact)
  · refine ⟨_, encodeChatboxPacket_fits bufSize text sendImmediate notify plain room, ?_⟩
    have length : (encodeMessage chatboxAddress (chatboxTypetag sendImmediate notify)
        [.string text]).length ≤ bufSize := by
      have address : (writeOscString chatboxAddress).length = 16 := by decide
      have typetag : (writeOscString (chatboxTypetag sendImmediate notify)).length = 8 := by
        cases sendImmediate <;> cases notify <;> decide
      have padded : oscPad4 (text.length + 1) = roundUp4 (text.length + 1) :=
        pad4_eq_roundUp4 _ (by have := plain.2; omega)
      have argument := writeOscString_length_plain text plain.1 plain.2
      simp only [encodeMessage, encodeArgs, encodeArg, List.flatMap_cons, List.flatMap_nil,
        List.length_append, List.length_nil, address, typetag, argument, padded]
      omega
    exact encodeMessage_comesBack bufSize chatboxAddress (chatboxTypetag sendImmediate notify)
      [.string text] (by decide) (chatboxTypetag_plain sendImmediate notify)
      (List.forall_mem_singleton.mpr plain) length

/-- A message with every kind of argument, and a chatbox packet. -/
theorem osc_round_trip_mixed :
    ComesBack 512
        (OscPacket.build 512 (ascii "/test") (ascii ",ifsb")
          [.int32 (-7), .float 0x3F400000, .string (ascii "hello"), .blob [1, 0, 3]]).bytes
        (ascii "/test") (ascii ",ifsb")
        [.int32 (-7), .float 0x3F400000, .string (ascii "hello"), .blob [1, 0, 3]] ∧
      ∃ packet, encodeChatboxPacket 1024 (ascii "hi") true false = some packet ∧
        ComesBack 1024 packet chatboxAddress (chatboxTypetag true false)
          [.string (ascii "hi")] := by
  have message := osc_round_trip.1 512 (ascii "/test") (ascii ",ifsb")
    [.int32 (-7), .float 0x3F400000, .string (ascii "hello"), .blob [1, 0, 3]]
    (by decide) (by decide) (by decide) (by decide +kernel)
  obtain ⟨packet, encoded, comesBack, -⟩ :=
    osc_round_trip.2 1024 (ascii "hi") true false (by decide) (by decide)
  exact ⟨message.1, packet, encoded, comesBack⟩

/-- A message with a blob of 2^31 bytes or more does not give the blob back. -/
theorem readBack_long (address typetag data : List UInt8)
    (addressPlain : (Arg.string address).Plain) (typetagPlain : (Arg.string typetag).Plain)
    (long : 2 ^ 31 ≤ data.length) (short : data.length < 2 ^ 32) :
    (readBack (encodeMessage address typetag [.blob data]) [.blob data]).1 = [none] := by
  have parsed := oscParseMessage_written address typetag (encodeArgs [.blob data])
    addressPlain.1 addressPlain.2 typetagPlain.1 typetagPlain.2
  have start : OscReader.ofBytes (encodeArgs [.blob data]) =
      OscReader.between [] (encodeArg (.blob data) ++ []) := by
    rw [ofBytes_encodeArgs, List.append_nil]
    rfl
  have refused := readBlob_long [] data [] long short
  unfold readBack encodeMessage
  rw [parsed]
  simp only [start, OscReader.readAll, OscReader.readMatching, refused, Option.map_none]

theorem encodeMessage_blob_length (data : List UInt8) (size : data.length = 2 ^ 31) :
    (encodeMessage (ascii "/blob") (ascii ",b") [.blob data]).length = 16 + 2 ^ 31 := by
  have address : (writeOscString (ascii "/blob")).length = 8 := by decide
  have typetag : (writeOscString (ascii ",b")).length = 4 := by decide
  have padded : oscPad4 (2 ^ 31) = 2 ^ 31 := by decide
  simp only [encodeMessage, encodeArgs, encodeArg, List.flatMap_cons, List.flatMap_nil,
    List.length_append, List.length_nil, List.length_replicate, address, typetag, size, padded,
    bigEndian32_length]
  omega

/-- A message without arguments is read by a reader that is never valid, and a blob of 2^31
bytes is not read back. -/
theorem osc_round_trip_fails :
    ((OscPacket.build 512 (ascii "/ping") (ascii ",") []).ok = true ∧
        (readBack (OscPacket.build 512 (ascii "/ping") (ascii ",") []).bytes []).2.valid =
          false) ∧
      ∃ data : List UInt8, data = List.replicate (2 ^ 31) 0 ∧
        (OscPacket.build (2 ^ 32) (ascii "/blob") (ascii ",b") [.blob data]).ok = true ∧
        (readBack (OscPacket.build (2 ^ 32) (ascii "/blob") (ascii ",b") [.blob data]).bytes
          [.blob data]).1 = [none] := by
  refine ⟨⟨by decide +kernel, by decide +kernel⟩, _, rfl, ?_⟩
  have size : (List.replicate (2 ^ 31) (0 : UInt8)).length = 2 ^ 31 := List.length_replicate
  generalize List.replicate (2 ^ 31) (0 : UInt8) = data at size ⊢
  obtain ⟨fits, bytes⟩ := build_writes (N := 2 ^ 32) (ascii "/blob") (ascii ",b") [.blob data]
  have length := encodeMessage_blob_length data size
  have intact := fits.mpr (by omega)
  rw [bytes intact]
  exact ⟨intact, readBack_long (ascii "/blob") (ascii ",b") data (by decide) (by decide)
    (Nat.le_of_eq size.symm) (by omega)⟩

end PairDriver.Osc
