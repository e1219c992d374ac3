/-
This file follows `OscDispatch` through a packet. A bundle is walked element by
element and every element is dispatched in turn, nested bundles included; the walk
ends on any bytes, because an element is shorter than the bundle it lies in, and it
reads nothing outside the buffer.

On the encoding of a tree of bundles the callback sees the messages of the tree, each
once and in order. The one exception is a bare message whose address or type tag is so
long that its padded size leaves 32 bits: the padding mask cuts the size, and what the
callback sees is another message.
-/

import PairDriver.OscBounds

namespace PairDriver.Osc

open PubPipe (pad4 writeOscString pad4_eq_roundUp4)

/-! ### Dispatching -/

/-- `kOscBundlePrefix` with its NUL. -/
def kOscBundlePrefix : List UInt8 := ascii "#bundle" ++ [0]

/-- What a dispatch does: it reads a range of the buffer, or it calls the callback. -/
inductive Action where
  | read (start size : Nat)
  | callback (message : OscMessage)
deriving DecidableEq

/-- The bytes `ReadStr` looks at, up to the NUL or the end. -/
def OscReader.strRead (base : Nat) (reader : OscReader) : List Action :=
  if reader.valid then
    let rest := reader.data.drop reader.pos
    [.read (base + reader.pos) (min ((cString rest).length + 1) rest.length)]
  else []

/-- The branch of a plain message, whose bytes begin at `base`. -/
def dispatchMessage (base : Nat) (data : List UInt8) : List Action :=
  let reader := OscReader.ofBytes data
  let message := oscParseMessage data
  reader.strRead base ++ reader.readStr.2.strRead base ++
    if message.valid then [.callback message] else []

/-- The length word of the element at a position. -/
def elementSize (data : List UInt8) (pos : Nat) : Nat :=
  (OscReader.ofBytes ((data.drop pos).take 4)).readInt32.1.toUInt32.toNat

mutual

/-- `OscDispatch` of the bytes that begin at `base`; none if it runs out of fuel. -/
def oscDispatch (base : Nat) (data : List UInt8) : Nat → Option (List Action)
  | 0 => none
  | fuel + 1 =>
    if data.length < 8 then some []
    else if data.take 8 = kOscBundlePrefix then
      if data.length < 16 then some [.read base 8]
      else (dispatchElements base data 16 fuel).map (.read base 8 :: ·)
    else some (.read base 8 :: dispatchMessage base data)

/-- The loop over the elements of a bundle, from a position on. -/
def dispatchElements (base : Nat) (data : List UInt8) (pos : Nat) : Nat → Option (List Action)
  | 0 => none
  | fuel + 1 =>
    if pos + 4 ≤ data.length then
      let size := elementSize data pos
      if pos + 4 + size > data.length then some [.read (base + pos) 4]
      else
        (oscDispatch (base + (pos + 4)) ((data.drop (pos + 4)).take size) fuel).bind fun nested =>
          (dispatchElements base data (pos + 4 + size) fuel).map fun rest =>
            .read (base + pos) 4 :: (nested ++ rest)
    else some []

end

/-- The messages the callback is called with, in order. -/
def callbacks (actions : List Action) : List OscMessage :=
  actions.filterMap fun action =>
    match action with
    | .read _ _ => none
    | .callback message => some message

/-- What a dispatch does, with any fuel that exceeds the size. -/
def Dispatches (base : Nat) (data : List UInt8) (actions : List Action) : Prop :=
  ∀ fuel, data.length < fuel → oscDispatch base data fuel = some actions

/-- The same of the loop, where the fuel exceeds what remains. -/
def Walks (base : Nat) (data : List UInt8) (pos : Nat) (actions : List Action) : Prop :=
  ∀ fuel, data.length - pos < fuel → dispatchElements base data pos fuel = some actions

/-- A read stays between two offsets. -/
def Action.Inside (first last : Nat) : Action → Prop
  | .read start size => first ≤ start ∧ start + size ≤ last
  | .callback _ => True

/-! ### Termination and reads -/

theorem Action.Inside.widen {first last outerFirst outerLast : Nat} {action : Action}
    (inside : action.Inside first last) (before : outerFirst ≤ first) (after : last ≤ outerLast) :
    action.Inside outerFirst outerLast := by
  cases action with
  | read start size => exact ⟨Nat.le_trans before inside.1, Nat.le_trans inside.2 after⟩
  | callback message => trivial

theorem strRead_inside (base : Nat) (reader : OscReader)
    (bounded : reader.pos ≤ reader.data.length) :
    ∀ action ∈ reader.strRead base, action.Inside base (base + reader.data.length) := by
  intro action member
  unfold OscReader.strRead at member
  by_cases valid : reader.valid = true
  · rw [if_pos valid] at member
    rw [List.mem_singleton.mp member]
    refine ⟨Nat.le_add_right _ _, ?_⟩
    have short := Nat.min_le_right ((cString (reader.data.drop reader.pos)).length + 1)
      (reader.data.drop reader.pos).length
    rw [List.length_drop] at short
    rw [List.length_drop]
    omega
  · rw [if_neg valid] at member
    exact absurd member List.not_mem_nil

theorem dispatchMessage_inside (base : Nat) (data : List UInt8) :
    ∀ action ∈ dispatchMessage base data, action.Inside base (base + data.length) := by
  intro action member
  have kept := readStr_keeps (OscReader.ofBytes data) (Nat.zero_le _)
  have same : (OscReader.ofBytes data).readStr.2.data = data :=
    call_data (OscReader.ofBytes data) .str
  unfold dispatchMessage at member
  dsimp only at member
  rcases List.mem_append.mp member with strings | called
  · rcases List.mem_append.mp strings with first | second
    · exact strRead_inside base (OscReader.ofBytes data) (Nat.zero_le _) action first
    · have inside := strRead_inside base (OscReader.ofBytes data).readStr.2
        (same.symm ▸ kept.inside) action second
      rw [same] at inside
      exact inside
  · by_cases valid : (oscParseMessage data).valid = true
    · rw [if_pos valid] at called
      rw [List.mem_singleton.mp called]
      trivial
    · rw [if_neg valid] at called
      exact absurd called List.not_mem_nil

/-- The dispatch of some bytes ends, with all its reads inside them. -/
def EndsInside (base : Nat) (data : List UInt8) : Prop :=
  ∃ actions, Dispatches base data actions ∧
    ∀ action ∈ actions, action.Inside base (base + data.length)

/-- The loop ends from every position if the elements of the bundle do. -/
theorem walk_ends (base : Nat) (data : List UInt8)
    (elements : ∀ pos size, (((data.drop (pos + 4)).take size).length < data.length) →
      EndsInside (base + (pos + 4)) ((data.drop (pos + 4)).take size))
    (remaining pos : Nat) (remains : data.length - pos = remaining) :
    ∃ actions, Walks base data pos actions ∧
      ∀ action ∈ actions, action.Inside base (base + data.length) := by
  induction remaining using Nat.strong_induction_on generalizing pos with
  | _ remaining inductionHypothesis =>
    by_cases word : pos + 4 ≤ data.length
    · have wordInside : (Action.read (base + pos) 4).Inside base (base + data.length) :=
        ⟨Nat.le_add_right _ _, by omega⟩
      by_cases beyond : pos + 4 + elementSize data pos > data.length
      · refine ⟨[.read (base + pos) 4], fun fuel enough => ?_, ?_⟩
        · cases fuel with
          | zero => exact absurd enough (Nat.not_lt_zero _)
          | succ fuel =>
            unfold dispatchElements
            simp only [if_pos word, if_pos beyond]
        · exact fun action member => List.mem_singleton.mp member ▸ wordInside
      · have length : ((data.drop (pos + 4)).take (elementSize data pos)).length =
            elementSize data pos := by
          rw [List.length_take, List.length_drop]
          omega
        obtain ⟨nested, dispatches, nestedInside⟩ :=
          elements pos (elementSize data pos) (by omega)
        obtain ⟨rest, walks, restInside⟩ := inductionHypothesis
          (data.length - (pos + 4 + elementSize data pos)) (by omega)
          (pos + 4 + elementSize data pos) rfl
        refine ⟨.read (base + pos) 4 :: (nested ++ rest), fun fuel enough => ?_, ?_⟩
        · cases fuel with
          | zero => exact absurd enough (Nat.not_lt_zero _)
          | succ fuel =>
            unfold dispatchElements
            simp only [if_pos word, if_neg beyond]
            rw [dispatches fuel (by omega), walks fuel (by omega)]
            rfl
        · intro action member
          rcases List.mem_cons.mp member with first | later
          · exact first ▸ wordInside
          · rcases List.mem_append.mp later with inNested | inRest
            · exact (nestedInside action inNested).widen (Nat.le_add_right _ _) (by omega)
            · exact restInside action inRest
    · refine ⟨[], fun fuel enough => ?_, fun action member => absurd member List.not_mem_nil⟩
      cases fuel with
      | zero => exact absurd enough (Nat.not_lt_zero _)
      | succ fuel =>
        unfold dispatchElements
        rw [if_neg word]

/-- Every dispatch ends, and reads only inside the buffer. -/
theorem dispatch_ends (size base : Nat) (data : List UInt8) (length : data.length = size) :
    EndsInside base data := by
  induction size using Nat.strong_induction_on generalizing base data with
  | _ size inductionHypothesis =>
    have prefixInside : 8 ≤ data.length →
        (Action.read base 8).Inside base (base + data.length) :=
      fun long => ⟨Nat.le_refl _, by omega⟩
    have step : ∀ actions,
        (∀ fuel, data.length ≤ fuel → oscDispatch base data (fuel + 1) = some actions) →
        Dispatches base data actions := by
      intro actions runs fuel enough
      obtain ⟨less, rfl⟩ := Nat.exists_eq_succ_of_ne_zero (Nat.ne_zero_of_lt enough)
      exact runs less (Nat.le_of_lt_succ enough)
    by_cases short : data.length < 8
    · refine ⟨[], step [] fun fuel _ => ?_, fun action member => absurd member List.not_mem_nil⟩
      unfold oscDispatch
      rw [if_pos short]
    · have long := Nat.le_of_not_lt short
      by_cases bundle : data.take 8 = kOscBundlePrefix
      · by_cases untimed : data.length < 16
        · refine ⟨[.read base 8], step _ fun fuel _ => ?_, ?_⟩
          · unfold oscDispatch
            rw [if_neg short, if_pos bundle, if_pos untimed]
          · exact fun action member => List.mem_singleton.mp member ▸ prefixInside long
        · obtain ⟨actions, walks, inside⟩ := walk_ends base data
            (fun pos size smaller => inductionHypothesis _ (length ▸ smaller) _ _ rfl) _ 16 rfl
          refine ⟨.read base 8 :: actions, step _ fun fuel enough => ?_, ?_⟩
          · unfold oscDispatch
            rw [if_neg short, if_pos bundle, if_neg untimed, walks fuel (by omega)]
            rfl
          · intro action member
            rcases List.mem_cons.mp member with first | later
            · exact first ▸ prefixInside long
            · exact inside action later
      · refine ⟨.read base 8 :: dispatchMessage base data, step _ fun fuel _ => ?_, ?_⟩
        · unfold oscDispatch
          rw [if_neg short, if_neg bundle]
        · intro action member
          rcases List.mem_cons.mp member with first | later
          · exact first ▸ prefixInside long
          · exact dispatchMessage_inside base data action later

/-! ### Trees of bundles -/

/-- A packet: a message, or a bundle with its time tag and its elements. -/
inductive Packet where
  | message (address typetag argData : List UInt8)
  | bundle (seconds fraction : UInt32) (elements : List Packet)

/-- A string with its NUL, padded to a multiple of four. -/
def paddedString (text : List UInt8) : List UInt8 :=
  text ++ List.replicate (roundUp4 (text.length + 1) - text.length) 0

mutual

/-- The OSC 1.0 encoding of a packet. -/
def Packet.encode : Packet → List UInt8
  | .message address typetag argData => paddedString address ++ (paddedString typetag ++ argData)
  | .bundle seconds fraction elements =>
      kOscBundlePrefix ++ bigEndian32 seconds ++ bigEndian32 fraction ++ encodeElements elements

/-- Every element of a bundle stands behind its size. -/
def encodeElements : List Packet → List UInt8
  | [] => []
  | element :: elements =>
      bigEndian32 (UInt32.ofNat element.encode.length) ++ element.encode ++ encodeElements elements

end

mutual

/-- The messages of a packet, from left to right. -/
def Packet.leaves : Packet → List OscMessage
  | .message address typetag argData =>
      [{ address := some address, typetag := some typetag, argData := argData, valid := true }]
  | .bundle _ _ elements => leavesOf elements

def leavesOf : List Packet → List OscMessage
  | [] => []
  | element :: elements => element.leaves ++ leavesOf elements

end

mutual

/-- The messages of a packet are well formed: an address begins with a slash, a type tag with
a comma, and neither holds a NUL. The size of an element is a positive 32-bit integer. -/
def Packet.Standard : Packet → Prop
  | .message address typetag _ =>
      (address.head? = some 47 ∧ 0 ∉ address) ∧ (typetag.head? = some 44 ∧ 0 ∉ typetag)
  | .bundle _ _ elements => StandardElements elements

def StandardElements : List Packet → Prop
  | [] => True
  | element :: elements =>
      (element.Standard ∧ element.encode.length < 2 ^ 31) ∧ StandardElements elements

end

/-- The packet is no bare message with a string whose padded size leaves 32 bits. -/
def Packet.Short : Packet → Prop
  | .message address typetag _ => address.length + 4 < 2 ^ 32 ∧ typetag.length + 4 < 2 ^ 32
  | .bundle _ _ _ => True

/-! ### Messages -/

theorem oscPad4_short (size : Nat) (short : size + 3 < 2 ^ 32) : oscPad4 size = roundUp4 size :=
  pad4_eq_roundUp4 size short

/-- The mask cuts a size that would be padded beyond 32 bits. -/
theorem oscPad4_long (size : Nat) (long : 2 ^ 32 ≤ size + 3) : oscPad4 size < size := by
  have cut : oscPad4 size ≤ 0xFFFFFFFC := Nat.and_le_right
  omega

theorem oscPad4_le (size : Nat) : oscPad4 size ≤ roundUp4 size := by
  by_cases short : size + 3 < 2 ^ 32
  · exact Nat.le_of_eq (oscPad4_short size short)
  · exact Nat.le_trans (Nat.le_of_lt (oscPad4_long size (Nat.le_of_not_lt short)))
      (le_roundUp4 size)

theorem short_of_oscPad4_eq (size : Nat) (whole : oscPad4 size = roundUp4 size) :
    size + 3 < 2 ^ 32 := by
  by_contra long
  have cut := oscPad4_long size (Nat.le_of_not_lt long)
  have grows := le_roundUp4 size
  omega

@[simp]
theorem paddedString_length (text : List UInt8) :
    (paddedString text).length = roundUp4 (text.length + 1) := by
  have grows := le_roundUp4 (text.length + 1)
  rw [paddedString, List.length_append, List.length_replicate]
  omega

theorem paddedString_eq_writeOscString (text : List UInt8) (plain : 0 ∉ text)
    (short : text.length + 4 < 2 ^ 32) : paddedString text = writeOscString text := by
  have padded : pad4 (text.length + 1) = roundUp4 (text.length + 1) :=
    pad4_eq_roundUp4 _ (by omega)
  have grows := le_roundUp4 (text.length + 1)
  have count : roundUp4 (text.length + 1) - text.length =
      roundUp4 (text.length + 1) - (text.length + 1) + 1 := by
    omega
  simp only [paddedString, writeOscString, cString_plain text plain, padded, count,
    List.replicate_succ, List.append_assoc, List.cons_append, List.nil_append]

/-- A message is parsed by taking the padded sizes of its strings off its bytes. -/
theorem oscParseMessage_size (data address typetag argData : List UInt8)
    (parsed : oscParseMessage data =
      { address := some address, typetag := some typetag, argData := argData, valid := true }) :
    data.length =
      oscPad4 (address.length + 1) + oscPad4 (typetag.length + 1) + argData.length := by
  unfold oscParseMessage at parsed
  rcases readStr_cases (OscReader.ofBytes data) with unread | ⟨first, -, room, -, read⟩
  · rcases strings : (OscReader.ofBytes data).readStr with ⟨none | text, after⟩
    · simp only [strings, Option.isSome_none, Bool.and_false, Bool.false_and, Bool.false_eq_true,
        if_false, OscMessage.mk.injEq, reduceCtorEq, false_and] at parsed
    · rw [strings] at unread
      exact nomatch unread.1
  · rw [read] at parsed
    dsimp only at parsed
    generalize moved : { OscReader.ofBytes data with
      pos := (OscReader.ofBytes data).pos + oscPad4 (first.length + 1) } = reader at parsed
    have data_eq : reader.data = data := moved ▸ rfl
    have pos_eq : reader.pos = oscPad4 (first.length + 1) := by
      rw [← moved]
      exact Nat.zero_add _
    rcases readStr_cases reader with unread | ⟨second, valid, fits, -, readSecond⟩
    · rcases strings : reader.readStr with ⟨none | text, after⟩
      · simp only [strings, Option.isSome_none, Bool.and_false, Bool.false_eq_true, if_false,
          OscMessage.mk.injEq, reduceCtorEq, and_false] at parsed
      · rw [strings] at unread
        exact nomatch unread.1
    · rw [readSecond] at parsed
      simp only [valid, Option.isSome_some, Bool.and_self, if_true, OscMessage.mk.injEq,
        Option.some.injEq, and_true] at parsed
      obtain ⟨rfl, rfl, rfl⟩ := parsed
      rw [List.length_drop, pos_eq]
      rw [data_eq, pos_eq] at fits
      omega

theorem callbacks_append (first second : List Action) :
    callbacks (first ++ second) = callbacks first ++ callbacks second :=
  List.filterMap_append

/-- The callbacks of the branch of a plain message. -/
theorem callbacks_dispatchMessage (base : Nat) (data : List UInt8) :
    callbacks (dispatchMessage base data) =
      if (oscParseMessage data).valid then [oscParseMessage data] else [] := by
  have silent : ∀ reader : OscReader, callbacks (reader.strRead base) = [] := by
    intro reader
    unfold OscReader.strRead
    split_ifs <;> rfl
  unfold dispatchMessage
  dsimp only
  rw [callbacks_append, callbacks_append, silent, silent, List.nil_append, List.nil_append]
  split_ifs <;> rfl

/-- An encoded message is no bundle, and long enough to be looked at. -/
theorem dispatches_message (base : Nat) (address typetag argData : List UInt8)
    (standard : (Packet.message address typetag argData).Standard) :
    Dispatches base (Packet.message address typetag argData).encode
      (.read base 8 :: dispatchMessage base (Packet.message address typetag argData).encode) := by
  obtain ⟨⟨slash, -⟩, -, -⟩ := standard
  obtain ⟨rest, rfl⟩ : ∃ rest, address = 47 :: rest := List.head?_eq_some_iff.mp slash
  have long : ¬(Packet.message (47 :: rest) typetag argData).encode.length < 8 := by
    have first : 4 ≤ roundUp4 ((47 :: rest).length + 1) := by
      unfold roundUp4
      omega
    have second : 4 ≤ roundUp4 (typetag.length + 1) := by
      unfold roundUp4
      omega
    simp only [Packet.encode, List.length_append, paddedString_length]
    omega
  have plain : ¬(Packet.message (47 :: rest) typetag argData).encode.take 8 = kOscBundlePrefix := by
    intro same
    have head := congrArg List.head? same
    simp only [Packet.encode, paddedString, List.cons_append, List.take_succ_cons,
      List.head?_cons] at head
    exact absurd head (by decide)
  intro fuel enough
  obtain ⟨less, rfl⟩ := Nat.exists_eq_succ_of_ne_zero (Nat.ne_zero_of_lt enough)
  unfold oscDispatch
  rw [if_neg long, if_neg plain]

/-- A message is dispatched as it is exactly if both its strings stay within 32 bits. -/
theorem callbacks_message_iff (base : Nat) (address typetag argData : List UInt8)
    (standard : (Packet.message address typetag argData).Standard) :
    callbacks (dispatchMessage base (Packet.message address typetag argData).encode) =
        (Packet.message address typetag argData).leaves ↔
      (Packet.message address typetag argData).Short := by
  obtain ⟨⟨-, addressPlain⟩, -, typetagPlain⟩ := standard
  rw [callbacks_dispatchMessage]
  constructor
  · intro same
    have parsed : oscParseMessage (Packet.message address typetag argData).encode =
        { address := some address, typetag := some typetag, argData := argData, valid := true } := by
      by_cases valid : (oscParseMessage (Packet.message address typetag argData).encode).valid = true
      · rw [if_pos valid] at same
        exact List.singleton_injective same
      · rw [if_neg valid] at same
        exact absurd same.symm (List.cons_ne_nil _ _)
    have size := oscParseMessage_size _ _ _ _ parsed
    have first := oscPad4_le (address.length + 1)
    have second := oscPad4_le (typetag.length + 1)
    simp only [Packet.encode, List.length_append, paddedString_length] at size
    exact ⟨short_of_oscPad4_eq (address.length + 1) (by omega),
      short_of_oscPad4_eq (typetag.length + 1) (by omega)⟩
  · rintro ⟨addressShort, typetagShort⟩
    have parsed := oscParseMessage_written address typetag argData addressPlain addressShort
      typetagPlain typetagShort
    rw [← paddedString_eq_writeOscString address addressPlain addressShort,
      ← paddedString_eq_writeOscString typetag typetagPlain typetagShort] at parsed
    rw [Packet.encode, parsed, if_pos rfl]
    rfl

/-! ### Bundles -/

/-- The message of an element whose size is a 32-bit integer has short strings. -/
theorem short_of_encode (packet : Packet) (small : packet.encode.length < 2 ^ 31) :
    packet.Short := by
  cases packet with
  | message address typetag argData =>
    have first := le_roundUp4 (address.length + 1)
    have second := le_roundUp4 (typetag.length + 1)
    simp only [Packet.encode, List.length_append, paddedString_length] at small
    exact ⟨by omega, by omega⟩
  | bundle => trivial

theorem elementSize_encoded (before rest : List UInt8) (size : Nat) (small : size < 2 ^ 32) :
    elementSize (before ++ (bigEndian32 (UInt32.ofNat size) ++ rest)) before.length = size := by
  have word : (bigEndian32 (UInt32.ofNat size) ++ rest).take 4 =
      bigEndian32 (UInt32.ofNat size) := rfl
  have reader : OscReader.ofBytes (bigEndian32 (UInt32.ofNat size)) =
      OscReader.between [] (bigEndian32 (UInt32.ofNat size) ++ []) := by
    rw [List.append_nil]
    rfl
  unfold elementSize
  rw [List.drop_left, word, reader, readInt32_written]
  show (UInt32.ofNat size).toNat = size
  rw [UInt32.toNat_ofNat']
  exact Nat.mod_eq_of_lt small

/-- The dispatch of some bytes calls the callback with some messages, in order. -/
def Calls (base : Nat) (data : List UInt8) (messages : List OscMessage) : Prop :=
  ∃ actions, Dispatches base data actions ∧ callbacks actions = messages

/-- The same of the loop over the elements. -/
def CallsFrom (base : Nat) (data : List UInt8) (pos : Nat) (messages : List OscMessage) : Prop :=
  ∃ actions, Walks base data pos actions ∧ callbacks actions = messages

/-- The loop stops at the end of the bundle. -/
theorem callsFrom_end (base : Nat) (data : List UInt8) : CallsFrom base data data.length [] := by
  refine ⟨[], fun fuel enough => ?_, rfl⟩
  obtain ⟨less, rfl⟩ := Nat.exists_eq_succ_of_ne_zero (Nat.ne_zero_of_lt enough)
  unfold dispatchElements
  rw [if_neg (by omega)]

/-- The loop dispatches an element and goes on behind it. -/
theorem callsFrom_element (base : Nat) (before element rest : List UInt8)
    (first later : List OscMessage) (small : element.length < 2 ^ 31)
    (calls : Calls (base + (before.length + 4)) element first)
    (callsRest : CallsFrom base
      (before ++ (bigEndian32 (UInt32.ofNat element.length) ++ (element ++ rest)))
      (before.length + 4 + element.length) later) :
    CallsFrom base (before ++ (bigEndian32 (UInt32.ofNat element.length) ++ (element ++ rest)))
      before.length (first ++ later) := by
  obtain ⟨nested, dispatches, nestedCalls⟩ := calls
  obtain ⟨actions, walks, restCalls⟩ := callsRest
  have size := elementSize_encoded before (element ++ rest) element.length (by omega)
  have bytes : ((before ++ (bigEndian32 (UInt32.ofNat element.length) ++ (element ++ rest))).drop
      (before.length + 4)).take element.length = element := by
    have front : (before ++ bigEndian32 (UInt32.ofNat element.length)).length =
        before.length + 4 := List.length_append
    rw [← List.append_assoc, ← front, List.drop_left, List.take_left]
  have length : (before ++ (bigEndian32 (UInt32.ofNat element.length) ++
      (element ++ rest))).length = before.length + 4 + element.length + rest.length := by
    simp only [List.length_append, bigEndian32_length]
    omega
  generalize before ++ (bigEndian32 (UInt32.ofNat element.length) ++ (element ++ rest)) = data
    at *
  refine ⟨.read (base + before.length) 4 :: (nested ++ actions), fun fuel enough => ?_, ?_⟩
  · obtain ⟨less, rfl⟩ := Nat.exists_eq_succ_of_ne_zero (Nat.ne_zero_of_lt enough)
    unfold dispatchElements
    rw [if_pos (by omega)]
    simp only [size]
    rw [if_neg (by omega), bytes, dispatches less (by omega), walks less (by omega)]
    rfl
  · rw [← nestedCalls, ← restCalls]
    exact callbacks_append nested actions

mutual

/-- Every standard packet whose strings are short calls the callback with its messages. -/
theorem calls_leaves (base : Nat) (packet : Packet) (standard : packet.Standard)
    (short : packet.Short) : Calls base packet.encode packet.leaves :=
  match packet with
  | .message address typetag argData =>
    ⟨_, dispatches_message base address typetag argData standard,
      (callbacks_message_iff base address typetag argData standard).mpr short⟩
  | .bundle seconds fraction elements => by
    have walked := callsFrom_leavesOf base
      (kOscBundlePrefix ++ bigEndian32 seconds ++ bigEndian32 fraction) elements standard
    obtain ⟨actions, walks, calls⟩ := walked
    have length : (kOscBundlePrefix ++ bigEndian32 seconds ++ bigEndian32 fraction).length = 16 :=
      rfl
    have bundle : (Packet.bundle seconds fraction elements).encode.take 8 = kOscBundlePrefix := rfl
    refine ⟨.read base 8 :: actions, fun fuel enough => ?_, calls⟩
    obtain ⟨less, rfl⟩ := Nat.exists_eq_succ_of_ne_zero (Nat.ne_zero_of_lt enough)
    rw [length] at walks
    have long : 16 ≤ (Packet.bundle seconds fraction elements).encode.length := by
      rw [Packet.encode, List.length_append, length]
      omega
    unfold oscDispatch
    rw [if_neg (by omega), if_pos bundle, if_neg (by omega), Packet.encode,
      walks less (by rw [Packet.encode] at enough long; omega)]
    rfl

theorem callsFrom_leavesOf (base : Nat) (before : List UInt8) (elements : List Packet)
    (standard : StandardElements elements) :
    CallsFrom base (before ++ encodeElements elements) before.length (leavesOf elements) :=
  match elements with
  | [] => by
    rw [encodeElements, List.append_nil]
    exact callsFrom_end base before
  | element :: elements => by
    obtain ⟨⟨first, small⟩, others⟩ := standard
    have rest := callsFrom_leavesOf base
      (before ++ bigEndian32 (UInt32.ofNat element.encode.length) ++ element.encode) elements others
    have calls := calls_leaves (base + (before.length + 4)) element first
      (short_of_encode element small)
    have length : (before ++ bigEndian32 (UInt32.ofNat element.encode.length) ++
        element.encode).length = before.length + 4 + element.encode.length := by
      simp only [List.length_append, bigEndian32_length]
    rw [length] at rest
    simp only [List.append_assoc] at rest
    rw [encodeElements, List.append_assoc]
    exact callsFrom_element base before element.encode (encodeElements elements) element.leaves
      (leavesOf elements) small calls rest

end

/-! ### The dispatch of every packet -/

/-- A packet that is dispatched as its messages has short strings. -/
theorem short_of_calls (packet : Packet) (standard : packet.Standard)
    (calls : Calls 0 packet.encode packet.leaves) : packet.Short := by
  obtain ⟨actions, dispatches, calls⟩ := calls
  cases packet with
  | message address typetag argData =>
    have runs := (dispatches _ (Nat.lt_succ_self _)).symm.trans
      (dispatches_message 0 address typetag argData standard _ (Nat.lt_succ_self _))
    rw [Option.some.inj runs] at calls
    exact (callbacks_message_iff 0 address typetag argData standard).mp calls
  | bundle => trivial

/-- Every dispatch ends and stays inside its buffer, and a standard packet calls the callback
with its messages exactly if it is no bare message with an overlong string. -/
theorem dispatch_follows_tree_iff (data : List UInt8) (packet : Packet)
    (standard : packet.Standard) :
    EndsInside 0 data ∧ (Calls 0 packet.encode packet.leaves ↔ packet.Short) :=
  ⟨dispatch_ends _ 0 data rfl, short_of_calls packet standard, calls_leaves 0 packet standard⟩

/-- A bundle of a message and of a bundle with another message. -/
def nestedBundle : Packet :=
  .bundle 0 1 [.message (ascii "/a") (ascii ",i") [0, 0, 0, 1],
    .bundle 0 1 [.message (ascii "/b") (ascii ",") []]]

theorem nestedBundle_standard : nestedBundle.Standard := by
  refine ⟨⟨?_, by decide +kernel⟩, ⟨⟨?_, trivial⟩, by decide +kernel⟩, trivial⟩
  · exact ⟨by decide, by decide⟩
  · exact ⟨⟨by decide, by decide⟩, by decide +kernel⟩

theorem nested_bundle_dispatched :
    Calls 0 nestedBundle.encode
      [{ address := some (ascii "/a"), typetag := some (ascii ",i"), argData := [0, 0, 0, 1],
         valid := true },
       { address := some (ascii "/b"), typetag := some (ascii ","), argData := [], valid := true }] :=
  (dispatch_follows_tree_iff [] nestedBundle nestedBundle_standard).2.mpr trivial

/-- A message whose address is padded to 2^32 bytes is dispatched as another message. -/
theorem overlong_address_misread :
    ∃ packet : Packet,
      packet = .message (47 :: List.replicate (2 ^ 32 - 5) 97) (ascii ",") [] ∧
        packet.Standard ∧ ¬Calls 0 packet.encode packet.leaves := by
  have length : (47 :: List.replicate (2 ^ 32 - 5) (97 : UInt8)).length = 2 ^ 32 - 4 := by
    rw [List.length_cons, List.length_replicate]
    rfl
  have plain : (0 : UInt8) ∉ 47 :: List.replicate (2 ^ 32 - 5) 97 := by
    intro member
    rcases List.mem_cons.mp member with slash | letter
    · exact absurd slash (by decide)
    · exact absurd (List.eq_of_mem_replicate letter) (by decide)
  have standard : (Packet.message (47 :: List.replicate (2 ^ 32 - 5) 97) (ascii ",") []).Standard :=
    ⟨⟨rfl, plain⟩, by decide, by decide⟩
  refine ⟨_, rfl, standard, fun calls => ?_⟩
  have short := (short_of_calls _ standard calls).1
  rw [length] at short
  exact absurd short (by decide)

end PairDriver.Osc
