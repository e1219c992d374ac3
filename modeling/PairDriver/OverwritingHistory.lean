/-
This file is a library about histories of fixed capacity that overwrite their oldest item, as
their users write them: an array and the number of items written so far, where an item goes
to the place its number has modulo the capacity.

Such a history holds the last items that were written. Loops over it that keep an item with an
extreme key find such an item, in whatever order the places come.
-/

import Mathlib

namespace PairDriver

/-! ### Histories -/

/-- The places of an array and the number of items written so far. -/
structure History (Item : Type) (capacity : Nat) where
  slots : Nat → Item
  count : Nat

namespace History

variable {Item : Type} {capacity : Nat}

def push (history : History Item capacity) (item : Item) : History Item capacity where
  slots := Function.update history.slots (history.count % capacity) item
  count := history.count + 1

/-- The number of places in use. -/
def live (history : History Item capacity) : Nat := min history.count capacity

/-- The items in use, in the order of their places. -/
def items (history : History Item capacity) : List Item :=
  (List.range history.live).map history.slots

/-- The history holds the last ones of a sequence of items. -/
def Records (history : History Item capacity) (sequence : Nat → Item) : Prop :=
  ∀ index < history.count, history.count ≤ index + capacity →
    history.slots (index % capacity) = sequence index

theorem push_count (history : History Item capacity) (item : Item) :
    (history.push item).count = history.count + 1 := rfl

/-- Another number among the last ones has another place. -/
theorem mod_ne_of_lt {index count : Nat} (before : index < count)
    (recent : count < index + capacity) : index % capacity ≠ count % capacity := by
  intro same
  have congruent : index ≡ count [MOD capacity] := same
  have divides := (Nat.modEq_iff_dvd' before.le).mp congruent
  have small := Nat.le_of_dvd (by omega) divides
  omega

theorem Records.push {history : History Item capacity} {sequence : Nat → Item}
    (records : history.Records sequence) {item : Item} (next : sequence history.count = item) :
    (history.push item).Records sequence := by
  intro index before recent
  rw [push_count] at before recent
  unfold History.push
  dsimp only
  rcases Nat.lt_succ_iff_lt_or_eq.mp before with earlier | latest
  · rw [Function.update_of_ne (mod_ne_of_lt earlier (by omega))]
    exact records index earlier (by omega)
  · rw [latest, Function.update_self]
    exact next.symm

theorem mem_items_iff {history : History Item capacity} {sequence : Nat → Item}
    (records : history.Records sequence) (item : Item) :
    item ∈ history.items ↔
      ∃ index < history.count, history.count ≤ index + capacity ∧ sequence index = item := by
  unfold items live
  rw [List.mem_map]
  constructor
  · rintro ⟨place, used, holds⟩
    have inside := List.mem_range.mp used
    have positive : 0 < capacity := by omega
    have below : place < history.count := by omega
    have offset : (history.count - 1 - place) % capacity < capacity := Nat.mod_lt _ positive
    have split := Nat.div_add_mod (history.count - 1 - place) capacity
    refine ⟨history.count - 1 - (history.count - 1 - place) % capacity, by omega, by omega, ?_⟩
    have number : history.count - 1 - (history.count - 1 - place) % capacity =
        place + capacity * ((history.count - 1 - place) / capacity) := by omega
    have located : (history.count - 1 - (history.count - 1 - place) % capacity) % capacity =
        place := by
      rw [number, Nat.add_mul_mod_self_left, Nat.mod_eq_of_lt (by omega)]
    rw [← records _ (by omega) (by omega), located]
    exact holds
  · rintro ⟨index, before, recent, same⟩
    refine ⟨index % capacity, List.mem_range.mpr ?_, ?_⟩
    · rcases Nat.lt_or_ge index capacity with small | large
      · rw [Nat.mod_eq_of_lt small]
        omega
      · have positive : 0 < capacity := by omega
        have place := Nat.mod_lt index positive
        omega
    · rw [records index before recent]
      exact same

end History

/-! ### Loops that keep an extreme item -/

section Extremes

variable {Item Number : Type} [LinearOrder Number] (key : Item → Number)

/-- The first item with the largest key, or the start if no key exceeds its own. -/
def largest (start : Item) (items : List Item) : Item :=
  items.foldl (fun best item => if key best < key item then item else best) start

/-- The first item with the smallest key among the admitted ones. -/
def smallest (admits : Item → Bool) (items : List Item) : Option Item :=
  items.foldl (fun best item =>
    if admits item && best.all (fun kept => key item < key kept) then some item else best) none

variable {key}

theorem largest_spec (start : Item) (items : List Item) :
    (largest key start items = start ∨ largest key start items ∈ items) ∧
      key start ≤ key (largest key start items) ∧
        ∀ item ∈ items, key item ≤ key (largest key start items) := by
  induction items using List.reverseRecOn with
  | nil => exact ⟨Or.inl rfl, le_rfl, fun item member => absurd member List.not_mem_nil⟩
  | append_singleton items last inductionHypothesis =>
    obtain ⟨source, above, bounds⟩ := inductionHypothesis
    have step : largest key start (items ++ [last]) =
        if key (largest key start items) < key last then last else largest key start items := by
      unfold largest
      rw [List.foldl_concat]
    rw [step]
    split_ifs with larger
    · refine ⟨Or.inr (List.mem_append_right _ List.mem_cons_self), above.trans larger.le, ?_⟩
      intro item member
      rcases List.mem_append.mp member with earlier | now
      · exact (bounds item earlier).trans larger.le
      · rw [List.mem_singleton.mp now]
    · refine ⟨source.imp_right (List.mem_append_left _), above, ?_⟩
      intro item member
      rcases List.mem_append.mp member with earlier | now
      · exact bounds item earlier
      · rw [List.mem_singleton.mp now]
        exact not_lt.mp larger

/-- An item whose key exceeds all others is found. -/
theorem largest_eq {start best : Item} {items : List Item} (member : best ∈ items)
    (starts : key start < key best) (others : ∀ item ∈ items, item = best ∨ key item < key best) :
    largest key start items = best := by
  obtain ⟨source, -, bounds⟩ := @largest_spec _ _ _ key start items
  have reaches := bounds best member
  rcases source with same | inside
  · rw [same] at reaches
    exact absurd starts (not_lt.mpr reaches)
  · exact (others _ inside).resolve_right fun less => absurd less (not_lt.mpr reaches)

theorem smallest_spec (admits : Item → Bool) (items : List Item) :
    match smallest key admits items with
    | none => ∀ item ∈ items, admits item = false
    | some found => found ∈ items ∧ admits found = true ∧
        ∀ item ∈ items, admits item = true → key found ≤ key item := by
  induction items using List.reverseRecOn with
  | nil => exact fun item member => absurd member List.not_mem_nil
  | append_singleton items last inductionHypothesis =>
    have step : smallest key admits (items ++ [last]) =
        if admits last && (smallest key admits items).all (fun kept => key last < key kept) then
          some last else smallest key admits items := by
      unfold smallest
      rw [List.foldl_concat]
    rw [step]
    cases kept : smallest key admits items with
    | none =>
      rw [kept] at inductionHypothesis
      cases admitted : admits last with
      | true =>
        refine ⟨List.mem_append_right _ List.mem_cons_self, admitted, fun item member yes => ?_⟩
        rcases List.mem_append.mp member with earlier | now
        · rw [inductionHypothesis item earlier] at yes
          exact absurd yes (by decide)
        · rw [List.mem_singleton.mp now]
      | false =>
        intro item member
        rcases List.mem_append.mp member with earlier | now
        · exact inductionHypothesis item earlier
        · rw [List.mem_singleton.mp now]
          exact admitted
    | some found =>
      rw [kept] at inductionHypothesis
      obtain ⟨inside, yes, least⟩ := inductionHypothesis
      by_cases replaces : admits last = true ∧ key last < key found
      · have taken : (admits last && (some found).all fun kept => decide (key last < key kept)) =
            true := by
          rw [replaces.1]
          exact decide_eq_true replaces.2
        rw [if_pos taken]
        refine ⟨List.mem_append_right _ List.mem_cons_self, replaces.1, fun item member ok => ?_⟩
        rcases List.mem_append.mp member with earlier | now
        · exact replaces.2.le.trans (least item earlier ok)
        · rw [List.mem_singleton.mp now]
      · have passed : ¬(admits last && (some found).all fun kept => decide (key last < key kept)) =
            true := by
          intro taken
          obtain ⟨ok, less⟩ := Bool.and_eq_true_iff.mp taken
          exact replaces ⟨ok, of_decide_eq_true less⟩
        rw [if_neg passed]
        refine ⟨List.mem_append_left _ inside, yes, fun item member ok => ?_⟩
        rcases List.mem_append.mp member with earlier | now
        · exact least item earlier ok
        · rw [List.mem_singleton.mp now] at ok ⊢
          exact not_lt.mp fun less => replaces ⟨ok, less⟩

/-- An admitted item whose key is below all other admitted ones is found. -/
theorem smallest_eq {admits : Item → Bool} {best : Item} {items : List Item}
    (member : best ∈ items) (admitted : admits best = true)
    (others : ∀ item ∈ items, admits item = true → item = best ∨ key best < key item) :
    smallest key admits items = some best := by
  have spec := @smallest_spec _ _ _ key admits items
  cases kept : smallest key admits items with
  | none =>
    rw [kept] at spec
    rw [spec best member] at admitted
    exact absurd admitted (by decide)
  | some found =>
    rw [kept] at spec
    obtain ⟨inside, ok, least⟩ := spec
    have reaches := least best member admitted
    have same := (others found inside ok).resolve_right fun less =>
      absurd less (not_lt.mpr reaches)
    rw [same]

end Extremes

end PairDriver
