/-
This file is about tables of slots, each free or holding a key with a value, as
fixed-size implementations of a finite map. A table represents a map if no key has two
slots and the values are those of the map; then the map is full exactly if no slot is
free, and writing a slot that belongs to one key alone changes the map at that key.
-/

import Mathlib

namespace PairDriver.SlotMap

section SlotMap

variable {Key Value : Type} {size : Nat}

/-- The keys of a map fill a table of some size. -/
def Full (size : Nat) (map : Key → Option Value) : Prop :=
  {key | map key ≠ none}.ncard = size

/-- A table represents a map. -/
structure Represents (slots : Fin size → Option (Key × Value)) (map : Key → Option Value) :
    Prop where
  unique : ∀ first second key firstValue secondValue, slots first = some (key, firstValue) →
    slots second = some (key, secondValue) → first = second
  value : ∀ key value, (∃ slot, slots slot = some (key, value)) ↔ map key = some value

variable {slots : Fin size → Option (Key × Value)} {map : Key → Option Value}

theorem Represents.none_iff (represents : Represents slots map) (key : Key) :
    map key = none ↔ ∀ slot value, slots slot ≠ some (key, value) := by
  constructor
  · intro absent slot value held
    exact nomatch absent.symm.trans ((represents.value key value).mp ⟨slot, held⟩)
  · intro missing
    by_contra present
    obtain ⟨value, same⟩ := Option.ne_none_iff_exists'.mp present
    obtain ⟨slot, held⟩ := (represents.value key value).mpr same
    exact missing slot value held

/-- There are as many keys as slots in use. -/
theorem Represents.ncard_keys (represents : Represents slots map) :
    {key | map key ≠ none}.ncard = {slot | slots slot ≠ none}.ncard := by
  have used : ∀ slot, slots slot ≠ none → ∃ entry, slots slot = some entry :=
    fun slot busy => Option.ne_none_iff_exists'.mp busy
  choose entry held using used
  refine (Set.ncard_congr (fun slot busy => (entry slot busy).1) ?_ ?_ ?_).symm
  · intro slot busy absent
    have present := (represents.value (entry slot busy).1 (entry slot busy).2).mp
      ⟨slot, held slot busy⟩
    exact nomatch absent.symm.trans present
  · intro first second firstBusy secondBusy same
    refine represents.unique first second (entry first firstBusy).1 (entry first firstBusy).2
      (entry second secondBusy).2 (held first firstBusy) ?_
    rw [same]
    exact held second secondBusy
  · intro key present
    obtain ⟨value, same⟩ := Option.ne_none_iff_exists'.mp present
    obtain ⟨slot, stored⟩ := (represents.value key value).mpr same
    have busy : slots slot ≠ none := stored ▸ Option.some_ne_none _
    refine ⟨slot, busy, ?_⟩
    exact congrArg Prod.fst (Option.some.inj ((held slot busy).symm.trans stored))

theorem Represents.bounded (represents : Represents slots map) :
    {key | map key ≠ none}.ncard ≤ size := by
  rw [represents.ncard_keys]
  refine (Set.ncard_le_ncard (Set.subset_univ _) (Set.toFinite _)).trans (Nat.le_of_eq ?_)
  rw [Set.ncard_univ, Nat.card_eq_fintype_card, Fintype.card_fin]

/-- The map is full exactly if no slot is free. -/
theorem Represents.full_iff (represents : Represents slots map) :
    Full size map ↔ ∀ slot, slots slot ≠ none := by
  have all : (Set.univ : Set (Fin size)).ncard = size := by
    rw [Set.ncard_univ, Nat.card_eq_fintype_card, Fintype.card_fin]
  rw [Full, represents.ncard_keys]
  constructor
  · intro full slot
    have whole := Set.eq_of_subset_of_ncard_le (Set.subset_univ {slot | slots slot ≠ none})
      (Nat.le_of_eq (all.trans full.symm)) (Set.toFinite _)
    exact (Set.eq_univ_iff_forall.mp whole) slot
  · intro used
    rw [Set.eq_univ_of_forall (s := {slot | slots slot ≠ none}) used, all]

/-- A write to a slot that is free or belongs to a key with no other slot sets or removes the
value of that key. -/
theorem Represents.write (represents : Represents slots map) (slot : Fin size) (key : Key)
    (value : Option Value) [DecidableEq Key]
    (owner : ∀ other held, slots slot = some (other, held) → other = key)
    (alone : ∀ other held, slots other = some (key, held) → other = slot) :
    Represents (Function.update slots slot (value.map fun written => (key, written)))
      (Function.update map key value) := by
  have here : ∀ who held,
      Function.update slots slot (value.map fun written => (key, written)) slot = some (who, held) →
        who = key := by
    intro who held same
    rw [Function.update_self] at same
    obtain ⟨written, -, pair⟩ := Option.map_eq_some_iff.mp same
    exact (congrArg Prod.fst pair).symm
  constructor
  · intro first second who firstHeld secondHeld firstSame secondSame
    by_cases firstHere : first = slot
    · by_cases secondHere : second = slot
      · exact firstHere.trans secondHere.symm
      · rw [firstHere] at firstSame
        rw [here who firstHeld firstSame, Function.update_of_ne secondHere] at secondSame
        exact absurd (alone second secondHeld secondSame) secondHere
    · by_cases secondHere : second = slot
      · rw [secondHere] at secondSame
        rw [here who secondHeld secondSame, Function.update_of_ne firstHere] at firstSame
        exact absurd (alone first firstHeld firstSame) firstHere
      · rw [Function.update_of_ne firstHere] at firstSame
        rw [Function.update_of_ne secondHere] at secondSame
        exact represents.unique first second who firstHeld secondHeld firstSame secondSame
  · intro who held
    by_cases same : who = key
    · rw [same, Function.update_self]
      constructor
      · rintro ⟨place, found⟩
        by_cases there : place = slot
        · rw [there, Function.update_self] at found
          obtain ⟨written, stored, pair⟩ := Option.map_eq_some_iff.mp found
          exact stored.trans (congrArg some (congrArg Prod.snd pair))
        · rw [Function.update_of_ne there] at found
          exact absurd (alone place held found) there
      · intro stored
        exact ⟨slot, by rw [Function.update_self, stored]; rfl⟩
    · rw [Function.update_of_ne same, ← represents.value]
      constructor
      · rintro ⟨place, found⟩
        by_cases there : place = slot
        · exact absurd (here who held (there ▸ found)) same
        · rw [Function.update_of_ne there] at found
          exact ⟨place, found⟩
      · rintro ⟨place, found⟩
        have there : place ≠ slot := fun equal => same (owner who held (equal ▸ found))
        exact ⟨place, by rw [Function.update_of_ne there]; exact found⟩

/-- A table without entries represents the empty map. -/
theorem represents_empty (free : ∀ slot, slots slot = none) : Represents slots fun _ => none where
  unique first _ _ _ _ held := nomatch (free first).symm.trans held
  value _ _ := iff_of_false (fun ⟨slot, held⟩ => nomatch (free slot).symm.trans held)
    (fun broken => nomatch broken)

end SlotMap

end PairDriver.SlotMap
