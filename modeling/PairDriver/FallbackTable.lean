/-
This file is about the driver's table of tracking-system fallbacks. A system has
one slot at most; a request that enables a fallback leaves the slots of the other
systems and one slot with the requested values, and a request that disables one
changes nothing but that flag. As long as all names come from a list no longer
than the table, a system that has no slot finds a free one.
-/

import PairDriver.PoseDriver

namespace PairDriver.Provider

section Table

variable {Vec Rot : Type}

/-! ### Slots by name -/

/-- Every system has one slot at most. -/
def Distinct (slots : List (FallbackSlot Vec Rot)) : Prop :=
  (slots.map FallbackSlot.systemName).Nodup

theorem Distinct.eq_of_name {slots : List (FallbackSlot Vec Rot)} (distinct : Distinct slots)
    {first second : FallbackSlot Vec Rot} (firstMember : first ∈ slots)
    (secondMember : second ∈ slots) (same : first.systemName = second.systemName) :
    first = second :=
  List.inj_on_of_nodup_map distinct firstMember secondMember same

theorem modifySlot_names {name : Name} {change : FallbackSlot Vec Rot → FallbackSlot Vec Rot}
    (kept : ∀ slot, slot.systemName = name → (change slot).systemName = name)
    (slots : List (FallbackSlot Vec Rot)) :
    (modifySlot name change slots).map FallbackSlot.systemName =
      slots.map FallbackSlot.systemName := by
  induction slots with
  | nil => rfl
  | cons slot rest inductionHypothesis =>
    unfold modifySlot
    split
    · rename_i same
      rw [List.map_cons, List.map_cons, kept slot same, same]
    · rw [List.map_cons, List.map_cons, inductionHypothesis]

/-- A changed table has the slots of the other systems, and the changed slot of the name. -/
theorem mem_modifySlot_iff {name : Name} {change : FallbackSlot Vec Rot → FallbackSlot Vec Rot}
    {slots : List (FallbackSlot Vec Rot)} (distinct : Distinct slots)
    {slot : FallbackSlot Vec Rot} : slot ∈ modifySlot name change slots ↔
      (slot ∈ slots ∧ slot.systemName ≠ name) ∨
        ∃ old ∈ slots, old.systemName = name ∧ slot = change old := by
  induction slots with
  | nil => simp [modifySlot]
  | cons head rest inductionHypothesis =>
    obtain ⟨fresh, distinctRest⟩ := List.nodup_cons.mp distinct
    have elsewhere (other : FallbackSlot Vec Rot) (member : other ∈ rest) :
        other.systemName ≠ head.systemName := by
      intro same
      exact fresh (same ▸ List.mem_map_of_mem member)
    unfold modifySlot
    split
    · rename_i same
      constructor
      · intro member
        rcases List.mem_cons.mp member with rfl | inRest
        · exact .inr ⟨head, List.mem_cons_self, same, rfl⟩
        · exact .inl ⟨List.mem_cons_of_mem _ inRest, same ▸ elsewhere slot inRest⟩
      · rintro (⟨member, different⟩ | ⟨old, member, named, rfl⟩)
        · rcases List.mem_cons.mp member with rfl | inRest
          · exact absurd same different
          · exact List.mem_cons_of_mem _ inRest
        · rcases List.mem_cons.mp member with rfl | inRest
          · exact List.mem_cons_self
          · exact absurd (named.trans same.symm) (elsewhere old inRest)
    · rename_i different
      rw [List.mem_cons, inductionHypothesis distinctRest]
      constructor
      · rintro (rfl | ⟨member, other⟩ | ⟨old, member, named, rfl⟩)
        · exact .inl ⟨List.mem_cons_self, different⟩
        · exact .inl ⟨List.mem_cons_of_mem _ member, other⟩
        · exact .inr ⟨old, List.mem_cons_of_mem _ member, named, rfl⟩
      · rintro (⟨member, other⟩ | ⟨old, member, named, rfl⟩)
        · rcases List.mem_cons.mp member with rfl | inRest
          · exact .inl rfl
          · exact .inr (.inl ⟨inRest, other⟩)
        · rcases List.mem_cons.mp member with rfl | inRest
          · exact absurd named different
          · exact .inr (.inr ⟨old, inRest, named, rfl⟩)

/-! ### Requests -/

/-- The table has one slot at most for each of the systems. -/
structure Tabled (systems : List Name) (slots : List (FallbackSlot Vec Rot)) : Prop where
  distinct : Distinct slots
  known : ∀ slot ∈ slots, slot.systemName ∈ systems

/-- A system that has no slot finds a free one. -/
theorem Tabled.room {systems : List Name} {slots : List (FallbackSlot Vec Rot)}
    (tabled : Tabled systems slots) (few : systems.length ≤ maxFallbackSlots) {name : Name}
    (member : name ∈ systems) (absent : ∀ slot ∈ slots, slot.systemName ≠ name) :
    slots.length < maxFallbackSlots := by
  have fresh : (name :: slots.map FallbackSlot.systemName).Nodup := by
    refine List.nodup_cons.mpr ⟨fun named => ?_, tabled.distinct⟩
    obtain ⟨slot, inTable, same⟩ := List.mem_map.mp named
    exact absent slot inTable same
  have subset : name :: slots.map FallbackSlot.systemName ⊆ systems := by
    intro other inList
    rcases List.mem_cons.mp inList with rfl | named
    · exact member
    · obtain ⟨slot, inTable, rfl⟩ := List.mem_map.mp named
      exact tabled.known slot inTable
  have bound := (List.subperm_of_subset fresh subset).length_le
  rw [List.length_cons, List.length_map] at bound
  omega

variable {systems : List Name} {slots : List (FallbackSlot Vec Rot)}

/-- What an enabling request leaves in the table: the slots of the other systems, and a slot with the
requested values. -/
theorem Tabled.mem_store_iff (tabled : Tabled systems slots)
    (few : systems.length ≤ maxFallbackSlots) {request : SetTrackingSystemFallback Vec Rot}
    (member : bufferName request.systemName ∈ systems) :
    ∃ smoothness, ∀ slot, slot ∈ storeFallback request slots ↔
      (slot ∈ slots ∧ slot.systemName ≠ bufferName request.systemName) ∨
        slot = requestedSlot request smoothness := by
  unfold storeFallback
  dsimp only
  split
  · rename_i found
    obtain ⟨old, inTable, named⟩ := List.any_eq_true.mp found
    have same := eq_of_beq named
    refine ⟨old.predictionSmoothness, fun slot => ?_⟩
    rw [mem_modifySlot_iff tabled.distinct]
    refine or_congr Iff.rfl ⟨?_, fun requested => ⟨old, inTable, same, requested⟩⟩
    rintro ⟨other, otherMember, otherNamed, rfl⟩
    rw [tabled.distinct.eq_of_name otherMember inTable (otherNamed.trans same.symm)]
  · rename_i missing
    have absent (slot : FallbackSlot Vec Rot) (inTable : slot ∈ slots) :
        slot.systemName ≠ bufferName request.systemName := by
      intro same
      exact missing (List.any_eq_true.mpr ⟨slot, inTable, beq_iff_eq.mpr same⟩)
    rw [if_pos (tabled.room few member absent)]
    refine ⟨0, fun slot => ?_⟩
    rw [List.mem_append, List.mem_singleton]
    exact or_congr ⟨fun inTable => ⟨inTable, absent slot inTable⟩, And.left⟩ Iff.rfl

theorem Tabled.store (tabled : Tabled systems slots) (few : systems.length ≤ maxFallbackSlots)
    {request : SetTrackingSystemFallback Vec Rot}
    (member : bufferName request.systemName ∈ systems) :
    Tabled systems (storeFallback request slots) := by
  refine ⟨?_, ?_⟩
  · unfold storeFallback
    dsimp only
    split
    · rw [Distinct, modifySlot_names]
      · exact tabled.distinct
      · exact fun _ _ => rfl
    · split
      · rename_i missing _
        rw [Distinct, List.map_append, List.nodup_append]
        refine ⟨tabled.distinct, List.nodup_singleton _, ?_⟩
        rintro first inTable second inNew rfl
        obtain ⟨slot, slotMember, same⟩ := List.mem_map.mp inTable
        have named : slot.systemName = bufferName request.systemName :=
          same.trans (List.mem_singleton.mp inNew)
        exact missing (List.any_eq_true.mpr ⟨slot, slotMember, beq_iff_eq.mpr named⟩)
      · exact tabled.distinct
  · obtain ⟨smoothness, contents⟩ := tabled.mem_store_iff few member
    intro slot inTable
    rcases (contents slot).mp inTable with ⟨old, _⟩ | rfl
    · exact tabled.known slot old
    · exact member

theorem Tabled.disable (tabled : Tabled systems slots) (name : Name) :
    Tabled systems (modifySlot name (fun slot => { slot with enabled := false }) slots) := by
  refine ⟨?_, ?_⟩
  · rw [Distinct, modifySlot_names]
    · exact tabled.distinct
    · exact fun _ same => same
  · intro slot member
    rcases (mem_modifySlot_iff tabled.distinct).mp member with ⟨old, _⟩ | ⟨old, inTable, _, rfl⟩
    · exact tabled.known slot old
    · exact tabled.known old inTable

end Table

end PairDriver.Provider
