/-
This file models the two ends of the OSC router's publish pipe.

The client is the captions host's `RouterPublisher`: it truncates the text,
encodes a `/chatbox/input` packet and writes it behind a four-byte length, after
a source identifier that it writes once for each connection. The server is the
frame loop of `OscRouter::PubPipeWorkerMain`, which reads a source identifier, a
length and a packet for each frame. The two were written apart; what they agree
on is the subject of `PairDriver.PubPipeFraming`.
-/

import PairDriver.Bytes

namespace PairDriver.PubPipe

/-! ### Encoding a chatbox packet -/

/-- One call of `PublishChatbox`: the text as the bytes of its `std::string`, and the flags. -/
structure ChatboxMessage where
  text : List UInt8
  sendImmediate : Bool
  notify : Bool

/-- `Pad4`: the mask is the 32-bit `~3u`, so the result is also cut to 32 bits. -/
def pad4 (size : Nat) : Nat :=
  (size + 3) &&& 0xFFFFFFFC

/-- `WriteOscString`: the C string with its NUL, and zeros up to a multiple of four. -/
def writeOscString (text : List UInt8) : List UInt8 :=
  let size := (cString text).length + 1
  cString text ++ [0] ++ List.replicate (pad4 size - size) 0

def chatboxAddress : List UInt8 := ascii "/chatbox/input"

/-- The type tag `",s%c%c"`: each flag is a `T` or an `F` and carries no argument bytes. -/
def chatboxTypetag (sendImmediate notify : Bool) : List UInt8 :=
  ascii ",s" ++ (if sendImmediate then ascii "T" else ascii "F") ++
    (if notify then ascii "T" else ascii "F")

/-- `EncodeChatboxPacket`: `none` is the source's return value `0`, the packet that does not fit
the buffer. -/
def encodeChatboxPacket (bufSize : Nat) (text : List UInt8) (sendImmediate notify : Bool) :
    Option (List UInt8) :=
  let typetag := chatboxTypetag sendImmediate notify
  let total := pad4 (chatboxAddress.length + 1) + pad4 (typetag.length + 1) +
    pad4 ((cString text).length + 1)
  if total > bufSize then none
  else some (writeOscString chatboxAddress ++ writeOscString typetag ++ writeOscString text)

/-! ### Truncating the text -/

def kLimit : Nat := 144

def isWhitespace (byte : UInt8) : Bool :=
  byte == 0x20 || byte == 0x09 || byte == 0x0D || byte == 0x0A

/-- The scan for the last whitespace at or before a cut; `0` when it finds none. -/
def whitespaceCut (text : List UInt8) : Nat → Nat
  | 0 => 0
  | cut + 1 => if isWhitespace (text.getD (cut + 1) 0) then cut + 1 else whitespaceCut text cut

/-- `TruncateToVrchatLimit`. -/
def truncateToVrchatLimit (text : List UInt8) : List UInt8 :=
  if text.length ≤ kLimit then text
  else
    let found := whitespaceCut text kLimit
    let cut := if found = 0 then kLimit else found
    text.take cut ++ ascii "..."

/-! ### The publisher -/

def kMaxBackoffMs : Nat := 15000

/-- The 32-byte source identifier of a connection. -/
def kSourceId : List UInt8 := ascii "translator" ++ List.replicate 22 0

/-- The publisher with the pipe it holds. `wire` is the byte stream of the open connection and
`closed` the streams of the connections before it; `calls` counts the calls into the operating
system, whose answers the environment fixes. -/
structure Publisher where
  pipe : Bool := false
  identified : Bool := false
  backoffMs : Nat := 500
  wire : List UInt8 := []
  closed : List (List UInt8) := []
  calls : Nat := 0
deriving DecidableEq

/-- Whether the operating system grants each `CreateFileA` and `WriteFile` call. -/
abbrev Answers := Nat → Bool

/-- `Disconnect`. -/
def disconnect (state : Publisher) : Publisher :=
  if state.pipe then
    { state with pipe := false, identified := false, wire := [], closed := state.closed ++ [state.wire] }
  else { state with identified := false }

/-- `Write`: the loop over `WriteFile` puts all of `data` on the stream or reports failure. -/
def write (answers : Answers) (state : Publisher) (data : List UInt8) : Bool × Publisher :=
  let called := { state with calls := state.calls + 1 }
  if answers state.calls then (true, { called with wire := state.wire ++ data }) else (false, called)

/-- `Connect`: open the pipe and write the source identifier. -/
def connect (answers : Answers) (state : Publisher) : Bool × Publisher :=
  let fresh := disconnect state
  let called := { fresh with calls := fresh.calls + 1 }
  if answers fresh.calls then
    match write answers { called with pipe := true } kSourceId with
    | (true, identified) => (true, { identified with identified := true, backoffMs := 500 })
    | (false, failed) => (false, disconnect failed)
  else (false, called)

def raiseBackoff (state : Publisher) : Publisher :=
  { state with backoffMs := min (state.backoffMs * 2) kMaxBackoffMs }

/-- The two-attempt loop of `PublishChatbox`, with the attempts that remain. -/
def publishAttempts (answers : Answers) (message : ChatboxMessage) (text : List UInt8) :
    Nat → Publisher → Bool × Publisher
  | 0, state => (false, raiseBackoff state)
  | attempts + 1, state =>
    let connected := if !state.pipe || !state.identified then connect answers state else (true, state)
    if !connected.1 then (false, raiseBackoff connected.2)
    else
      match encodeChatboxPacket 1024 text message.sendImmediate message.notify with
      | none => (false, connected.2)
      | some packet =>
        let length := write answers connected.2 (littleEndian32 packet.length)
        let body := if length.1 then write answers length.2 packet else length
        if body.1 then (true, body.2)
        else publishAttempts answers message text attempts (disconnect body.2)

/-- `PublishChatbox`. -/
def publishChatbox (answers : Answers) (state : Publisher) (message : ChatboxMessage) :
    Bool × Publisher :=
  publishAttempts answers message (truncateToVrchatLimit message.text) 2 state

/-- The publisher after a sequence of messages. -/
def publishAll (answers : Answers) (state : Publisher) (messages : List ChatboxMessage) : Publisher :=
  messages.foldl (fun current message => (publishChatbox answers current message).2) state

/-! ### The router's frame loop -/

def kSendQueueEntryMaxSize : Nat := 512

/-- Where the frame loop stands once it has used up what the client wrote: waiting inside a
`ReadFile` for bytes that are not there yet, or past a `break` that drops the connection. -/
inductive ReaderStatus where
  | waiting
  | dropped
deriving DecidableEq

/-- What one iteration of the frame loop makes of the bytes ahead of it. -/
inductive FrameRead where
  | blocked
  | invalidLength
  | frame (packet rest : List UInt8)
deriving DecidableEq

/-- One iteration of the frame loop of `PubPipeWorkerMain`: 32 bytes of source identifier, four
of length, then the packet. A read that finds too few bytes blocks. -/
def readFrame (stream : List UInt8) : FrameRead :=
  if stream.length < 32 then .blocked
  else if (stream.drop 32).length < 4 then .blocked
  else
    let frameLen := ofLittleEndian32 ((stream.drop 32).take 4)
    if frameLen = 0 ∨ frameLen > kSendQueueEntryMaxSize then .invalidLength
    else
      let body := (stream.drop 32).drop 4
      if body.length < frameLen then .blocked
      else .frame (body.take frameLen) (body.drop frameLen)

/-- What a frame takes off the stream: its identifier, its length word and its packet. -/
theorem readFrame_frame_length (stream packet rest : List UInt8)
    (read : readFrame stream = .frame packet rest) :
    stream.length = 36 + packet.length + rest.length := by
  unfold readFrame at read
  simp only [List.length_drop] at read
  split at read
  · cases read
  split at read
  · cases read
  split at read
  · cases read
  split at read
  · cases read
  · injection read with packetEq restEq
    rw [← packetEq, ← restEq]
    simp only [List.length_take, List.length_drop]
    omega

/-- The frame loop over the bytes of one connection: the packets it hands to `EnqueueLocked`,
in order, and where it stands at the end. -/
def frameLoop (stream : List UInt8) : List (List UInt8) × ReaderStatus :=
  match _read : readFrame stream with
  | .blocked => ([], .waiting)
  | .invalidLength => ([], .dropped)
  | .frame packet rest =>
    let later := frameLoop rest
    (packet :: later.1, later.2)
termination_by stream.length
decreasing_by
  have taken := readFrame_frame_length stream packet rest _read
  omega

end PairDriver.PubPipe
