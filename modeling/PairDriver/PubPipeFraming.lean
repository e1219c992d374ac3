/-
This file compares the two ends of the publish pipe over one unbroken
connection. The publisher writes its source identifier once, in front of the
first frame; the router reads one in front of every frame. A first frame is
therefore read back exactly, and a second one never is: the router would have to
take 36 bytes of header for each packet out of a stream that holds 32 once and
four for each packet.
-/

import PairDriver.RouterPublisher

namespace PairDriver.PubPipe

/-! ### Packet sizes -/

theorem pad4_eq_roundUp4 (size : Nat) (fits : size + 3 < 2 ^ 32) : pad4 size = roundUp4 size :=
  and_mask4 (size + 3) fits

theorem whitespaceCut_le (text : List UInt8) (cut : Nat) : whitespaceCut text cut ≤ cut := by
  induction cut with
  | zero => exact Nat.le_refl 0
  | succ cut inductionHypothesis =>
    unfold whitespaceCut
    split
    · exact Nat.le_refl _
    · exact Nat.le_succ_of_le inductionHypothesis

/-- The truncated text has at most the limit's bytes and the three dots. -/
theorem truncateToVrchatLimit_length_le (text : List UInt8) :
    (truncateToVrchatLimit text).length ≤ 147 := by
  unfold truncateToVrchatLimit
  split
  · rename_i short
    exact Nat.le_trans short (by decide)
  · have cutLe := whitespaceCut_le text kLimit
    have dots : (ascii "...").length = 3 := by decide
    simp only [List.length_append, List.length_take, dots]
    unfold kLimit at cutLe ⊢
    split <;> omega

theorem writeOscString_length (text : List UInt8) (small : text.length < 2 ^ 31) :
    (writeOscString text).length = roundUp4 ((cString text).length + 1) := by
  have shorter := cString_length_le text
  have padded : pad4 ((cString text).length + 1) = roundUp4 ((cString text).length + 1) :=
    pad4_eq_roundUp4 _ (by omega)
  have grows := le_roundUp4 ((cString text).length + 1)
  simp only [writeOscString, padded, List.length_append, List.length_cons, List.length_nil,
    List.length_replicate]
  omega

theorem chatboxTypetag_pad4 (sendImmediate notify : Bool) :
    pad4 ((chatboxTypetag sendImmediate notify).length + 1) = 8 := by
  cases sendImmediate <;> cases notify <;> decide

/-- The packet of a message: the encoding of its truncated text. -/
def chatboxPacket (message : ChatboxMessage) : List UInt8 :=
  writeOscString chatboxAddress ++
    writeOscString (chatboxTypetag message.sendImmediate message.notify) ++
    writeOscString (truncateToVrchatLimit message.text)

/-- Every message is encodable: the truncation keeps the packet far below the buffer. -/
theorem encodeChatboxPacket_truncated (message : ChatboxMessage) :
    encodeChatboxPacket 1024 (truncateToVrchatLimit message.text) message.sendImmediate
      message.notify = some (chatboxPacket message) := by
  have short := truncateToVrchatLimit_length_le message.text
  have shorter := cString_length_le (truncateToVrchatLimit message.text)
  have padded : pad4 ((cString (truncateToVrchatLimit message.text)).length + 1) =
      roundUp4 ((cString (truncateToVrchatLimit message.text)).length + 1) :=
    pad4_eq_roundUp4 _ (by omega)
  have bound := roundUp4_le ((cString (truncateToVrchatLimit message.text)).length + 1) 37 (by omega)
  have address : pad4 (chatboxAddress.length + 1) = 16 := by decide
  simp only [encodeChatboxPacket, padded, address, chatboxTypetag_pad4]
  rw [if_neg (by omega)]
  rfl

/-- A packet is never empty and fits the router's frame buffer. -/
theorem chatboxPacket_length (message : ChatboxMessage) :
    0 < (chatboxPacket message).length ∧
      (chatboxPacket message).length ≤ kSendQueueEntryMaxSize := by
  have short := truncateToVrchatLimit_length_le message.text
  have shorter := cString_length_le (truncateToVrchatLimit message.text)
  have text := writeOscString_length (truncateToVrchatLimit message.text) (by omega)
  have bound := roundUp4_le ((cString (truncateToVrchatLimit message.text)).length + 1) 37 (by omega)
  have address : (writeOscString chatboxAddress).length = 16 := by decide
  have typetag : (writeOscString (chatboxTypetag message.sendImmediate message.notify)).length = 8 := by
    cases message.sendImmediate <;> cases message.notify <;> decide
  simp only [chatboxPacket, List.length_append, text, address, typetag, kSendQueueEntryMaxSize]
  omega

/-! ### What the publisher writes -/

/-- The bytes of one frame on the wire: the length word and the packet. -/
def clientFrame (message : ChatboxMessage) : List UInt8 :=
  littleEndian32 (chatboxPacket message).length ++ chatboxPacket message

/-- A connected publisher adds exactly one frame to the stream. -/
theorem publishChatbox_connected (answers : Answers) (unbroken : ∀ call, answers call = true)
    (state : Publisher) (message : ChatboxMessage) (connected : state.pipe = true)
    (identified : state.identified = true) :
    publishChatbox answers state message =
      (true, { state with wire := state.wire ++ clientFrame message, calls := state.calls + 2 }) := by
  unfold publishChatbox publishAttempts
  rw [encodeChatboxPacket_truncated]
  simp [connected, identified, write, unbroken, clientFrame]

/-- A fresh publisher connects first and writes its identifier in front of the frame. -/
theorem publishChatbox_fresh (answers : Answers) (unbroken : ∀ call, answers call = true)
    (message : ChatboxMessage) :
    publishChatbox answers {} message =
      (true, { pipe := true, identified := true, wire := kSourceId ++ clientFrame message,
               calls := 4 }) := by
  unfold publishChatbox publishAttempts
  rw [encodeChatboxPacket_truncated]
  simp [connect, disconnect, write, unbroken, clientFrame]

theorem publishAll_connected (answers : Answers) (unbroken : ∀ call, answers call = true)
    (state : Publisher) (connected : state.pipe = true) (identified : state.identified = true)
    (messages : List ChatboxMessage) :
    (publishAll answers state messages).wire = state.wire ++ messages.flatMap clientFrame := by
  induction messages generalizing state with
  | nil => simp [publishAll]
  | cons message rest inductionHypothesis =>
    have step := publishChatbox_connected answers unbroken state message connected identified
    show (publishAll answers (publishChatbox answers state message).2 rest).wire = _
    rw [step, List.flatMap_cons, ← List.append_assoc]
    exact inductionHypothesis _ connected identified

/-- The stream of a fresh publisher: nothing before the first message, then one identifier and
a frame for each message. -/
theorem publishAll_fresh (answers : Answers) (unbroken : ∀ call, answers call = true)
    (first : ChatboxMessage) (rest : List ChatboxMessage) :
    (publishAll answers {} (first :: rest)).wire =
      kSourceId ++ (first :: rest).flatMap clientFrame := by
  show (publishAll answers (publishChatbox answers {} first).2 rest).wire = _
  rw [publishChatbox_fresh answers unbroken first,
    publishAll_connected answers unbroken _ rfl rfl, List.flatMap_cons, List.append_assoc]

/-! ### What the router reads -/

theorem frameLoop_eq (stream : List UInt8) :
    frameLoop stream =
      match readFrame stream with
      | .blocked => ([], .waiting)
      | .invalidLength => ([], .dropped)
      | .frame packet rest => (packet :: (frameLoop rest).1, (frameLoop rest).2) := by
  rw [frameLoop]
  split <;> simp_all

/-- The frame the router asks for: an identifier, the length word and the packet. -/
theorem readFrame_identified (source packet rest : List UInt8) (identifier : source.length = 32)
    (nonempty : 0 < packet.length) (fits : packet.length ≤ kSendQueueEntryMaxSize) :
    readFrame (source ++ (littleEndian32 packet.length ++ packet ++ rest)) = .frame packet rest := by
  have afterSource : (source ++ (littleEndian32 packet.length ++ packet ++ rest)).drop 32 =
      littleEndian32 packet.length ++ (packet ++ rest) := by
    rw [List.append_assoc, ← identifier, List.drop_left]
  have lengthWord : (littleEndian32 packet.length ++ (packet ++ rest)).take 4 =
      littleEndian32 packet.length := by
    rw [← littleEndian32_length packet.length, List.take_left]
  have afterLength : (littleEndian32 packet.length ++ (packet ++ rest)).drop 4 = packet ++ rest := by
    rw [← littleEndian32_length packet.length, List.drop_left]
  have word : ofLittleEndian32 (littleEndian32 packet.length) = packet.length :=
    ofLittleEndian32_littleEndian32 packet.length
      (Nat.lt_of_le_of_lt fits (by decide))
  have long : ¬ (source ++ (littleEndian32 packet.length ++ packet ++ rest)).length < 32 := by
    simp only [List.length_append, identifier]
    omega
  have longLength : ¬ (littleEndian32 packet.length ++ (packet ++ rest)).length < 4 := by
    simp only [List.length_append, littleEndian32_length]
    omega
  have valid : ¬ (packet.length = 0 ∨ packet.length > kSendQueueEntryMaxSize) := by omega
  have whole : ¬ (packet ++ rest).length < packet.length := by
    simp only [List.length_append]
    omega
  simp only [readFrame, afterSource, lengthWord, afterLength, word, if_neg long, if_neg longLength,
    if_neg valid, if_neg whole, List.take_left, List.drop_left]

/-- Every packet the router takes costs the stream its own length and 36 bytes of header. -/
theorem frameLoop_length (stream : List UInt8) :
    ((frameLoop stream).1.map fun packet => 36 + packet.length).sum ≤ stream.length := by
  induction size : stream.length using Nat.strongRecOn generalizing stream with
  | ind size inductionHypothesis =>
    rw [frameLoop_eq]
    cases read : readFrame stream with
    | blocked => simp
    | invalidLength => simp
    | frame packet rest =>
      have taken := readFrame_frame_length stream packet rest read
      have later := inductionHypothesis rest.length (by omega) rest rfl
      simp only [List.map_cons, List.sum_cons]
      omega

/-! ### Agreement -/

/-- The two ends agree on a sequence of messages: from the stream the publisher writes over one
connection, the router takes exactly the packets `EncodeChatboxPacket` makes of the messages, in
order, and stays connected. -/
def FramingAgrees (answers : Answers) (messages : List ChatboxMessage) : Prop :=
  (frameLoop (publishAll answers {} messages).wire).1.map some =
      messages.map (fun message => encodeChatboxPacket 1024 (truncateToVrchatLimit message.text)
        message.sendImmediate message.notify) ∧
    (frameLoop (publishAll answers {} messages).wire).2 = .waiting

theorem framingAgrees_iff_frameLoop (answers : Answers) (messages : List ChatboxMessage) :
    FramingAgrees answers messages ↔
      frameLoop (publishAll answers {} messages).wire = (messages.map chatboxPacket, .waiting) := by
  have packets : (messages.map fun message => encodeChatboxPacket 1024
      (truncateToVrchatLimit message.text) message.sendImmediate message.notify) =
      (messages.map chatboxPacket).map some := by
    rw [List.map_map]
    exact List.map_congr_left fun message _ => encodeChatboxPacket_truncated message
  unfold FramingAgrees
  rw [packets, (List.map_injective_iff.mpr (Option.some_injective _)).eq_iff, Prod.ext_iff]

theorem frames_length (messages : List ChatboxMessage) :
    (messages.flatMap clientFrame).length =
      (messages.map fun message => 4 + (chatboxPacket message).length).sum := by
  induction messages with
  | nil => rfl
  | cons message rest inductionHypothesis =>
    simp only [List.flatMap_cons, List.length_append, inductionHypothesis, List.map_cons,
      List.sum_cons, clientFrame, littleEndian32_length]

/-- The headers the router expects outgrow the bytes the publisher sends by 32 for each frame
after the first. -/
theorem expected_headers (messages : List ChatboxMessage) :
    (messages.map fun message => 36 + (chatboxPacket message).length).sum =
      (messages.map fun message => 4 + (chatboxPacket message).length).sum + 32 * messages.length := by
  induction messages with
  | nil => rfl
  | cons message rest inductionHypothesis =>
    simp only [List.map_cons, List.sum_cons, List.length_cons, inductionHypothesis]
    omega

theorem framingAgrees_nil (answers : Answers) : FramingAgrees answers [] := by
  rw [framingAgrees_iff_frameLoop]
  show frameLoop [] = ([], .waiting)
  rw [frameLoop_eq]
  rfl

theorem framingAgrees_single (answers : Answers) (unbroken : ∀ call, answers call = true)
    (message : ChatboxMessage) : FramingAgrees answers [message] := by
  have bounds := chatboxPacket_length message
  rw [framingAgrees_iff_frameLoop, publishAll_fresh answers unbroken, List.flatMap_cons,
    List.flatMap_nil, frameLoop_eq]
  have read := readFrame_identified kSourceId (chatboxPacket message) [] (by decide) bounds.1 bounds.2
  unfold clientFrame
  simp only [read]
  rw [frameLoop_eq]
  rfl

/-- Two messages on one connection are already more than the router can read back. -/
theorem not_framingAgrees_of_two (answers : Answers) (unbroken : ∀ call, answers call = true)
    (first second : ChatboxMessage) (rest : List ChatboxMessage) :
    ¬ FramingAgrees answers (first :: second :: rest) := by
  rw [framingAgrees_iff_frameLoop]
  intro agrees
  have consumed := frameLoop_length (publishAll answers {} (first :: second :: rest)).wire
  rw [agrees, publishAll_fresh answers unbroken, List.length_append, frames_length] at consumed
  have headers := expected_headers (first :: second :: rest)
  have identifier : kSourceId.length = 32 := by decide
  simp only [List.map_map, Function.comp_def] at consumed
  rw [headers, identifier, List.length_cons, List.length_cons] at consumed
  omega

/-- Over one unbroken connection the router reads back what the publisher sent exactly when the
publisher sent at most one message: from the second frame on the router takes a source
identifier out of bytes that the publisher never puts there. -/
theorem framingAgrees_iff (answers : Answers) (unbroken : ∀ call, answers call = true)
    (messages : List ChatboxMessage) :
    FramingAgrees answers messages ↔ messages.length ≤ 1 := by
  match messages with
  | [] => exact iff_of_true (framingAgrees_nil answers) (by decide)
  | [message] => exact iff_of_true (framingAgrees_single answers unbroken message) (by simp)
  | first :: second :: rest =>
    refine iff_of_false (not_framingAgrees_of_two answers unbroken first second rest) ?_
    simp

/-- One message over a pipe that grants every call. -/
theorem framingAgrees_iff_hello :
    FramingAgrees (fun _ => true) [⟨ascii "Hello", true, false⟩] ↔
      [(⟨ascii "Hello", true, false⟩ : ChatboxMessage)].length ≤ 1 :=
  framingAgrees_iff (fun _ => true) (fun _ => rfl) _

/-- `"Hi"` twice over one connection: the second message is lost. -/
theorem framing_disagrees_hi_hi :
    ¬ FramingAgrees (fun _ => true) [⟨ascii "Hi", true, false⟩, ⟨ascii "Hi", true, false⟩] :=
  not_framingAgrees_of_two (fun _ => true) (fun _ => rfl) _ _ []

end PairDriver.PubPipe
