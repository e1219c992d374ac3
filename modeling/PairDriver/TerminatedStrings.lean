/-
This file is a library for C strings: pointers into buffers, reads that fault
behind the terminator of the string, and copies into a buffer of a fixed size
that fault behind its end. Loops over strings take fuel, and a loop that runs out
of it faults too, so a run without a fault ends, reads only its strings and
writes only its buffer.
-/

import Mathlib.Data.List.Basic

namespace PairDriver

/-! ### Pointers -/

/-- Why a run stops. -/
inductive Fault where
  | outOfFuel
  | pastTerminator
  | pastBuffer
deriving DecidableEq

theorem ok_bind {Value Result : Type} (value : Value) (next : Value → Except Fault Result) :
    (Except.ok value >>= next) = next value := rfl

/-- A place in a buffer. -/
structure Pointer (Symbol : Type) where
  buffer : List Symbol
  offset : Nat

/-- A buffer of a fixed size. -/
def SizedBuffer (Symbol : Type) (size : Nat) : Type :=
  { content : List Symbol // content.length = size }

namespace Pointer

variable {Symbol : Type}

/-- `++p`. -/
def next (pointer : Pointer Symbol) : Pointer Symbol :=
  { pointer with offset := pointer.offset + 1 }

variable [Zero Symbol]

/-- The string from here to the terminator, which is the first zero of the buffer. -/
def Points (pointer : Pointer Symbol) (text : List Symbol) : Prop :=
  ∃ before after, pointer.buffer = before ++ text ++ 0 :: after ∧
    pointer.offset = before.length ∧ 0 ∉ before ∧ 0 ∉ text

theorem Points.next {pointer : Pointer Symbol} {symbol : Symbol} {text : List Symbol}
    (points : pointer.Points (symbol :: text)) : pointer.next.Points text := by
  obtain ⟨before, after, content, offset, clean, plain⟩ := points
  rw [List.mem_cons, not_or] at plain
  refine ⟨before ++ [symbol], after, ?_, ?_, ?_, plain.2⟩
  · rw [Pointer.next, content, ← List.append_cons]
  · rw [Pointer.next, offset, List.length_append, List.length_singleton]
  · rw [List.mem_append, List.mem_singleton, not_or]
    exact ⟨clean, plain.1⟩

theorem Points.ne_zero {pointer : Pointer Symbol} {symbol : Symbol} {text : List Symbol}
    (points : pointer.Points (symbol :: text)) : symbol ≠ 0 := by
  obtain ⟨_, _, _, _, _, plain⟩ := points
  rintro rfl
  exact plain List.mem_cons_self

variable [DecidableEq Symbol]

/-! ### Reads -/

/-- `*p`; nothing is read behind the terminator. -/
def read (pointer : Pointer Symbol) : Except Fault Symbol :=
  if 0 ∈ pointer.buffer.take pointer.offset then .error .pastTerminator
  else
    match pointer.buffer[pointer.offset]? with
    | some symbol => .ok symbol
    | none => .error .pastTerminator

theorem Points.read {pointer : Pointer Symbol} {text : List Symbol}
    (points : pointer.Points text) : pointer.read = .ok (text.headD 0) := by
  obtain ⟨before, after, content, offset, clean, plain⟩ := points
  have taken : pointer.buffer.take pointer.offset = before := by
    rw [content, offset, List.append_assoc, List.take_left']
    rfl
  have here : pointer.buffer[pointer.offset]? = some (text.headD 0) := by
    rw [content, offset, List.append_assoc, List.getElem?_append_right (Nat.le_refl _),
      Nat.sub_self]
    cases text with
    | nil => rfl
    | cons symbol text => rfl
  rw [Pointer.read, taken, if_neg clean, here]

/-- `strlen(p)`. -/
def strlen : Nat → Pointer Symbol → Except Fault Nat
  | 0, _ => .error .outOfFuel
  | fuel + 1, pointer => do
    if (← pointer.read) = 0 then pure 0
    else
      let length ← strlen fuel pointer.next
      pure (length + 1)

theorem Points.strlen {pointer : Pointer Symbol} {text : List Symbol}
    (points : pointer.Points text) {fuel : Nat} (enough : text.length < fuel) :
    pointer.strlen fuel = .ok text.length := by
  induction text generalizing pointer fuel with
  | nil =>
    cases fuel with
    | zero => exact absurd enough (Nat.not_lt_zero _)
    | succ fuel =>
      rw [Pointer.strlen, points.read]
      exact if_pos rfl
  | cons symbol text inductionHypothesis =>
    cases fuel with
    | zero => exact absurd enough (Nat.not_lt_zero _)
    | succ fuel =>
      have rest := inductionHypothesis points.next (Nat.lt_of_succ_lt_succ enough)
      rw [Pointer.strlen, points.read, rest]
      exact if_neg points.ne_zero

/-- The bytes that `memcpy` reads. -/
def readMany : Nat → Pointer Symbol → Except Fault (List Symbol)
  | 0, _ => .ok []
  | count + 1, pointer => do
    let symbol ← pointer.read
    let rest ← readMany count pointer.next
    pure (symbol :: rest)

theorem Points.readMany {pointer : Pointer Symbol} {text more : List Symbol}
    (points : pointer.Points (text ++ more)) : pointer.readMany text.length = .ok text := by
  induction text generalizing pointer with
  | nil => rfl
  | cons symbol text inductionHypothesis =>
    rw [List.length_cons, Pointer.readMany, points.read, inductionHypothesis points.next]
    rfl

/-- The whole string with its terminator. -/
theorem Points.readMany_all {pointer : Pointer Symbol} {text : List Symbol}
    (points : pointer.Points text) : pointer.readMany (text.length + 1) = .ok (text ++ [0]) := by
  induction text generalizing pointer with
  | nil =>
    rw [List.length_nil, Pointer.readMany, points.read]
    rfl
  | cons symbol text inductionHypothesis =>
    rw [List.length_cons, Pointer.readMany, points.read, inductionHypothesis points.next]
    rfl

end Pointer

/-! ### Copies -/

namespace SizedBuffer

variable {Symbol : Type} {size : Nat}

/-- What is written where; behind the end of the buffer it faults. -/
def write (target : SizedBuffer Symbol size) (position : Nat) (content : List Symbol) :
    Except Fault (SizedBuffer Symbol size) :=
  if fits : position + content.length ≤ size then
    .ok ⟨target.val.take position ++ content ++ target.val.drop (position + content.length), by
      have full := target.property
      simp only [List.length_append, List.length_take, List.length_drop]
      omega⟩
  else .error .pastBuffer

theorem write_fits (target : SizedBuffer Symbol size) {position : Nat} {content : List Symbol}
    (fits : position + content.length ≤ size) :
    ∃ written, target.write position content = .ok written ∧
      written.val = target.val.take position ++ content ++
        target.val.drop (position + content.length) := by
  unfold write
  rw [dif_pos fits]
  exact ⟨_, rfl, rfl⟩

variable [Zero Symbol] [DecidableEq Symbol]

/-- `memcpy(target + position, source, count)`. -/
def memcpy (target : SizedBuffer Symbol size) (position : Nat) (source : Pointer Symbol)
    (count : Nat) : Except Fault (SizedBuffer Symbol size) := do
  target.write position (← source.readMany count)

/-- The pointer to the start of the buffer. -/
def start (target : SizedBuffer Symbol size) : Pointer Symbol := ⟨target.val, 0⟩

theorem memcpy_text (target : SizedBuffer Symbol size) {source : Pointer Symbol}
    {position : Nat} {text more : List Symbol} (points : source.Points (text ++ more))
    (fits : position + text.length ≤ size) :
    ∃ written, target.memcpy position source text.length = .ok written ∧
      written.val = target.val.take position ++ text ++
        target.val.drop (position + text.length) := by
  rw [memcpy, points.readMany]
  exact target.write_fits fits

/-- A text and a string that are copied behind each other make one string. -/
theorem memcpy_string (target : SizedBuffer Symbol size) {first second : Pointer Symbol}
    {head more tail : List Symbol} (firstPoints : first.Points (head ++ more))
    (secondPoints : second.Points tail) (fits : head.length + tail.length < size) :
    ∃ begun filled, target.memcpy 0 first head.length = .ok begun ∧
      begun.memcpy head.length second (tail.length + 1) = .ok filled ∧
      filled.start.Points (head ++ tail) := by
  obtain ⟨begun, firstWritten, begunContent⟩ := target.memcpy_text firstPoints
    (show 0 + head.length ≤ size by omega)
  have tailFits : head.length + (tail ++ [0]).length ≤ size := by
    rw [List.length_append, List.length_singleton]
    omega
  obtain ⟨filled, secondWritten, filledContent⟩ := begun.write_fits tailFits
  refine ⟨begun, filled, firstWritten, ?_, ?_⟩
  · rw [memcpy, secondPoints.readMany_all]
    exact secondWritten
  · obtain ⟨_, _, _, _, _, headPlain⟩ := firstPoints
    obtain ⟨_, _, _, _, _, tailPlain⟩ := secondPoints
    refine ⟨[], begun.val.drop (head.length + (tail ++ [0]).length), ?_, rfl,
      List.not_mem_nil, ?_⟩
    · show filled.val = _
      rw [filledContent, begunContent]
      simp
    · rw [List.mem_append, not_or] at headPlain ⊢
      exact ⟨headPlain.1, tailPlain⟩

end SizedBuffer

end PairDriver
