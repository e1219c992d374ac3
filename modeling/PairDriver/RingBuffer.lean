/-
This file is a ring buffer as its users write it: an array, the index to take from, the
index to put to and a count. What it holds, from the head on, is a list; putting appends
to the list and taking removes its first item.
-/

import Mathlib

namespace PairDriver

/-- A ring over an array of which the first `capacity` places are used. -/
structure Ring (Item : Type) (capacity : Nat) where
  slots : Nat → Item
  head : Nat
  tail : Nat
  count : Nat

section Ring

variable {Item : Type} {capacity : Nat}

def Ring.push (item : Item) (ring : Ring Item capacity) : Ring Item capacity where
  slots := Function.update ring.slots ring.tail item
  head := ring.head
  tail := (ring.tail + 1) % capacity
  count := ring.count + 1

def Ring.pop (ring : Ring Item capacity) : Ring Item capacity :=
  { ring with head := (ring.head + 1) % capacity, count := ring.count - 1 }

/-- The first item, if there is one. -/
def Ring.front (ring : Ring Item capacity) : Item := ring.slots ring.head

/-- What the ring holds, from the head on. -/
def Ring.contents (ring : Ring Item capacity) : List Item :=
  (List.range ring.count).map fun offset => ring.slots ((ring.head + offset) % capacity)

/-- The indices agree with the count. -/
structure Ring.Sound (ring : Ring Item capacity) : Prop where
  bounded : ring.count ≤ capacity
  inside : ring.head < capacity
  tail : ring.tail = (ring.head + ring.count) % capacity

@[simp]
theorem contents_length (ring : Ring Item capacity) : ring.contents.length = ring.count := by
  rw [Ring.contents, List.length_map, List.length_range]

/-- Offsets from the head below the capacity lie at different places. -/
theorem offset_injective (head first second : Nat) (below : first < second)
    (bounded : second < capacity) :
    (head + first) % capacity ≠ (head + second) % capacity := by
  intro same
  have congruent : first ≡ second [MOD capacity] := Nat.ModEq.add_left_cancel' head same
  have equal : first = second := Nat.ModEq.eq_of_lt_of_lt congruent (by omega) bounded
  omega

theorem push_sound (ring : Ring Item capacity) (sound : ring.Sound) (room : ring.count < capacity)
    (item : Item) : (ring.push item).Sound where
  bounded := room
  inside := sound.inside
  tail := by
    show (ring.tail + 1) % capacity = (ring.head + (ring.count + 1)) % capacity
    rw [sound.tail, Nat.mod_add_mod, Nat.add_assoc]

theorem contents_push (ring : Ring Item capacity) (sound : ring.Sound)
    (room : ring.count < capacity) (item : Item) :
    (ring.push item).contents = ring.contents ++ [item] := by
  have kept : ∀ offset ∈ List.range ring.count,
      (ring.push item).slots ((ring.head + offset) % capacity) =
        ring.slots ((ring.head + offset) % capacity) := by
    intro offset member
    refine Function.update_of_ne ?_ _ _
    rw [sound.tail]
    exact offset_injective ring.head offset ring.count (List.mem_range.mp member) room
  have put : (ring.push item).slots ((ring.head + ring.count) % capacity) = item := by
    rw [← sound.tail]
    exact Function.update_self _ _ _
  show (List.range (ring.count + 1)).map _ = _
  rw [List.range_succ, List.map_append, List.map_singleton]
  exact congrArg₂ (· ++ ·) (List.map_congr_left kept) (congrArg (fun last => [last]) put)

theorem pop_sound (ring : Ring Item capacity) (sound : ring.Sound) (nonempty : 0 < ring.count) :
    ring.pop.Sound where
  bounded := Nat.le_trans (Nat.sub_le _ _) sound.bounded
  inside := Nat.mod_lt _ (Nat.lt_of_le_of_lt (Nat.zero_le _) sound.inside)
  tail := by
    show ring.tail = ((ring.head + 1) % capacity + (ring.count - 1)) % capacity
    rw [sound.tail, Nat.mod_add_mod, Nat.add_assoc, Nat.add_sub_cancel' nonempty]

theorem contents_pop (ring : Ring Item capacity) (sound : ring.Sound) (nonempty : 0 < ring.count) :
    ring.contents = ring.front :: ring.pop.contents := by
  obtain ⟨count, same⟩ := Nat.exists_eq_succ_of_ne_zero (Nat.ne_of_gt nonempty)
  have first : ring.slots ((ring.head + 0) % capacity) = ring.front := by
    rw [Nat.add_zero, Nat.mod_eq_of_lt sound.inside]
    rfl
  have later : ∀ offset : Nat, ring.slots ((ring.head + (offset + 1)) % capacity) =
      ring.pop.slots ((ring.pop.head + offset) % capacity) := by
    intro offset
    show _ = ring.slots (((ring.head + 1) % capacity + offset) % capacity)
    rw [Nat.mod_add_mod, Nat.add_assoc, Nat.add_comm 1 offset]
  have left : ring.pop.count = count := by
    show ring.count - 1 = count
    rw [same]
    rfl
  rw [Ring.contents, Ring.contents, same, left, List.range_succ_eq_map, List.map_cons, first,
    List.map_map]
  exact congrArg (List.cons ring.front) (List.map_congr_left fun offset _ => later offset)

end Ring

end PairDriver
