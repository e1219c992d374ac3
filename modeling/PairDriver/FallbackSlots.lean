/-
This file connects the two models of the fallback table. The pose driver keeps the slots in
use as a list of names and values; the table keeps them in buffers at fixed places. The list
is the table read in order: slots are claimed from the front and never freed, so no free slot
comes before one in use, and a new slot is the end of the list.
-/

import PairDriver.FallbackBuffers

namespace PairDriver.Provider

section Slots

variable {Vec Rot : Type}

/-! ### The table as a list -/

/-- The slot of a name with some values, as the pose driver has it. -/
def slotOf (name : Name) (tf : FallbackTransform Vec Rot) : FallbackSlot Vec Rot where
  systemName := name
  enabled := tf.enabled
  transform := tf.transform
  scale := tf.scale
  predictionSmoothness := tf.predictionSmoothness
  recalibrateOnMovement := tf.recalibrateOnMovement

def BufferSlot.listed (slot : BufferSlot Vec Rot) : Option (FallbackSlot Vec Rot) :=
  if slot.occupied then some (slotOf slot.name slot.tf) else none

/-- The slots in use among some places. -/
def FallbackTable.listedAt (table : FallbackTable Vec Rot)
    (places : List (Fin maxFallbackSlots)) : List (FallbackSlot Vec Rot) :=
  places.filterMap fun place => (table place).listed

/-- The slots in use, in order. -/
def FallbackTable.listed (table : FallbackTable Vec Rot) : List (FallbackSlot Vec Rot) :=
  table.listedAt (List.finRange maxFallbackSlots)

/-- No free slot comes before one in use. -/
def FallbackTable.Packed (table : FallbackTable Vec Rot) : Prop :=
  ∀ first second, first < second → (table second).occupied = true → (table first).occupied = true

theorem listed_occupied {slot : BufferSlot Vec Rot} (occupied : slot.occupied = true) :
    slot.listed = some (slotOf slot.name slot.tf) :=
  if_pos occupied

theorem listed_free {slot : BufferSlot Vec Rot} (free : slot.occupied = false) :
    slot.listed = none :=
  if_neg (ne_true_of_eq_false free)

theorem listed_any (slot : BufferSlot Vec Rot) (name : Name) :
    (slot.listed.any fun listed => listed.systemName == name) =
      (slot.occupied && slot.name == name) := by
  cases occupied : slot.occupied with
  | true =>
    rw [listed_occupied occupied]
    rfl
  | false =>
    rw [listed_free occupied]
    rfl

/-! ### Searches -/

/-- The slot of a name is the first in use that spells it. -/
theorem findFallbackSlot_eq (table : FallbackTable Vec Rot) {name : Name} (plain : 0 ∉ name)
    (fits : ¬(name.length = 0 ∨ name.length > maxTrackingSystemNameLen)) :
    table.findFallbackSlot name =
      (List.finRange maxFallbackSlots).find? fun slot =>
        (table slot).occupied && (table slot).name == name := by
  rw [FallbackTable.findFallbackSlot, if_neg fits]
  congr 1
  funext slot
  congr 1
  exact Bool.eq_iff_iff.mpr ((holds_iff_name _ name plain).trans beq_iff_eq.symm)

/-! ### Changes of a slot -/

section Change

variable {name : Name} {change : FallbackTransform Vec Rot → FallbackTransform Vec Rot}
  {listedChange : FallbackSlot Vec Rot → FallbackSlot Vec Rot}

/-- A name without a slot changes nothing. -/
theorem modifySlot_missing (slots : List (FallbackSlot Vec Rot))
    (missing : ∀ slot ∈ slots, slot.systemName ≠ name) :
    modifySlot name listedChange slots = slots := by
  induction slots with
  | nil => rfl
  | cons slot rest inductionHypothesis =>
    rw [modifySlot, if_neg (missing slot List.mem_cons_self),
      inductionHypothesis fun other member => missing other (List.mem_cons_of_mem _ member)]

theorem modifySlot_append (before after : List (FallbackSlot Vec Rot))
    (missing : ∀ slot ∈ before, slot.systemName ≠ name) :
    modifySlot name listedChange (before ++ after) =
      before ++ modifySlot name listedChange after := by
  induction before with
  | nil => rfl
  | cons slot rest inductionHypothesis =>
    rw [List.cons_append, modifySlot, if_neg (missing slot List.mem_cons_self),
      inductionHypothesis fun other member => missing other (List.mem_cons_of_mem _ member),
      List.cons_append]

/-- Places whose slots have other names list none with the name. -/
theorem listedAt_names {table : FallbackTable Vec Rot} {places : List (Fin maxFallbackSlots)}
    (others : ∀ place ∈ places, ¬((table place).occupied && (table place).name == name) = true) :
    ∀ slot ∈ table.listedAt places, slot.systemName ≠ name := by
  intro slot member
  obtain ⟨place, placed, entry⟩ := List.mem_filterMap.mp member
  cases occupied : (table place).occupied with
  | false => exact nomatch (listed_free occupied).symm.trans entry
  | true =>
    obtain rfl := Option.some.inj ((listed_occupied occupied).symm.trans entry)
    have other := others place placed
    rw [occupied, Bool.true_and, beq_iff_eq] at other
    exact other

/-- Other places are listed as before a write. -/
theorem listedAt_update {table : FallbackTable Vec Rot} {places : List (Fin maxFallbackSlots)}
    {place : Fin maxFallbackSlots} (outside : place ∉ places) (written : BufferSlot Vec Rot) :
    FallbackTable.listedAt (Function.update table place written) places =
      table.listedAt places := by
  refine List.filterMap_congr fun other member => ?_
  have different : other ≠ place := fun same => outside (same ▸ member)
  rw [Function.update_of_ne different]

/-- The slots are those before a place, the one at the place, and those after it. -/
theorem listed_split (table : FallbackTable Vec Rot)
    {before after : List (Fin maxFallbackSlots)} {place : Fin maxFallbackSlots}
    (split : List.finRange maxFallbackSlots = before ++ place :: after) :
    table.listed =
      table.listedAt before ++ ((table place).listed.toList ++ table.listedAt after) := by
  rw [FallbackTable.listed, split, FallbackTable.listedAt, List.filterMap_append,
    List.filterMap_cons]
  cases (table place).listed <;> rfl

/-- A write changes the slot at its place. -/
theorem listed_update {table : FallbackTable Vec Rot}
    {before after : List (Fin maxFallbackSlots)} {place : Fin maxFallbackSlots}
    (split : List.finRange maxFallbackSlots = before ++ place :: after)
    (written : BufferSlot Vec Rot) :
    FallbackTable.listed (Function.update table place written) =
      table.listedAt before ++ (written.listed.toList ++ table.listedAt after) := by
  have distinct := split ▸ List.nodup_finRange maxFallbackSlots
  obtain ⟨-, nodup, disjoint⟩ := List.nodup_append.mp distinct
  have notBefore : place ∉ before :=
    fun member => disjoint place member place List.mem_cons_self rfl
  rw [listed_split _ split, Function.update_self, listedAt_update notBefore,
    listedAt_update (List.nodup_cons.mp nodup).1]

/-- A change to the slot of a name is a change to the listed slot. -/
theorem modify_listed {table : FallbackTable Vec Rot} {place : Fin maxFallbackSlots}
    (found : ((List.finRange maxFallbackSlots).find? fun slot =>
      (table slot).occupied && (table slot).name == name) = some place)
    (agree : ∀ tf, slotOf name (change tf) = listedChange (slotOf name tf)) :
    (table.modify place change).listed = modifySlot name listedChange table.listed := by
  obtain ⟨held, before, after, split, others⟩ := List.find?_eq_some_iff_append.mp found
  obtain ⟨occupied, spelling⟩ := Bool.and_eq_true_iff.mp held
  have spelled : (table place).name = name := beq_iff_eq.mp spelling
  have changed : BufferSlot.listed { table place with tf := change (table place).tf } =
      some (listedChange (slotOf name (table place).tf)) := by
    rw [← agree, ← spelled]
    exact if_pos occupied
  have missing : ∀ slot ∈ table.listedAt before, slot.systemName ≠ name :=
    listedAt_names fun other member =>
      ne_true_of_eq_false ((Bool.not_eq_true' _).mp (others other member))
  rw [FallbackTable.modify, listed_update split, changed, listed_split table split,
    listed_occupied occupied, spelled, modifySlot_append _ _ missing]
  exact congrArg _ (if_pos rfl).symm

end Change

/-! ### New slots -/

/-- A free slot that is claimed is the end of the list, which had room. -/
theorem claim_listed {table : FallbackTable Vec Rot} (packed : table.Packed)
    {free : Fin maxFallbackSlots} (found : table.findFreeSlot = some free)
    (written : BufferSlot Vec Rot) (occupied : written.occupied = true) :
    FallbackTable.listed (Function.update table free written) =
        table.listed ++ [slotOf written.name written.tf] ∧
      table.listed.length < maxFallbackSlots ∧
        FallbackTable.Packed (Function.update table free written) := by
  obtain ⟨empty, before, after, split, others⟩ := List.find?_eq_some_iff_append.mp found
  have ordered := split ▸ (List.sortedLT_finRange maxFallbackSlots).pairwise
  obtain ⟨-, later, earlier⟩ := List.pairwise_append.mp ordered
  have unused : (table free).occupied = false := by simpa using empty
  have used : ∀ place ∈ before, (table place).occupied = true := by simpa using others
  have nothing : table.listedAt after = [] := by
    refine List.filterMap_eq_nil_iff.mpr fun place member => ?_
    cases taken : (table place).occupied with
    | false => exact listed_free taken
    | true =>
      have before := packed free place ((List.pairwise_cons.mp later).1 place member) taken
      exact absurd (before.symm.trans unused) (by decide)
  have front : table.listed = table.listedAt before := by
    rw [listed_split table split, listed_free unused, nothing, Option.toList_none,
      List.append_nil, List.append_nil]
  refine ⟨?_, ?_, ?_⟩
  · rw [listed_update split, listed_occupied occupied, nothing, front]
    rfl
  · have whole := congrArg List.length split
    rw [List.length_finRange, List.length_append, List.length_cons] at whole
    rw [front]
    have shorter : (table.listedAt before).length ≤ before.length := List.length_filterMap_le _ _
    omega
  · intro first second below taken
    by_cases firstHere : first = free
    · rw [firstHere, Function.update_self]
      exact occupied
    · rw [Function.update_of_ne firstHere]
      by_cases secondHere : second = free
      · have member : first ∈ before ++ free :: after := split ▸ List.mem_finRange first
        rcases List.mem_append.mp member with inFront | behind
        · exact used first inFront
        · rcases List.mem_cons.mp behind with same | last
          · exact absurd same firstHere
          · have above := (List.pairwise_cons.mp later).1 first last
            exact absurd (secondHere ▸ below) (lt_asymm above)
      · rw [Function.update_of_ne secondHere] at taken
        exact packed first second below taken

/-- Without a free slot the list is full. -/
theorem full_listed {table : FallbackTable Vec Rot} (full : table.findFreeSlot = none) :
    table.listed.length = maxFallbackSlots := by
  have used : ∀ place, (table place).occupied = true := by
    intro place
    simpa using List.find?_eq_none.mp full place (List.mem_finRange place)
  have all : ∀ place ∈ List.finRange maxFallbackSlots, ((table place).listed).isSome = true :=
    fun place _ => by rw [listed_occupied (used place)]; rfl
  exact (List.filterMap_length_eq_length.mpr all).trans (List.length_finRange)

/-! ### Requests -/

/-- A name has a listed slot exactly if the table finds one. -/
theorem any_listed (table : FallbackTable Vec Rot) {name : Name} (plain : 0 ∉ name)
    (fits : ¬(name.length = 0 ∨ name.length > maxTrackingSystemNameLen)) :
    (table.listed.any fun slot => slot.systemName == name) =
      (table.findFallbackSlot name).isSome := by
  rw [findFallbackSlot_eq table plain fits, FallbackTable.listed, FallbackTable.listedAt,
    List.any_filterMap]
  refine Bool.eq_iff_iff.mpr ?_
  rw [List.any_eq_true, List.find?_isSome]
  refine exists_congr fun place => and_congr_right fun _ => ?_
  rw [← listed_any]
  cases (table place).listed <;> exact Iff.rfl

/-- A change of a flag or of values keeps the slots in front. -/
theorem modify_packed {table : FallbackTable Vec Rot} (packed : table.Packed)
    (place : Fin maxFallbackSlots)
    (change : FallbackTransform Vec Rot → FallbackTransform Vec Rot) :
    (table.modify place change).Packed := by
  have kept : ∀ other, (table.modify place change other).occupied = (table other).occupied := by
    intro other
    unfold FallbackTable.modify
    by_cases here : other = place
    · rw [here, Function.update_self]
    · rw [Function.update_of_ne here]
  intro first second below taken
  rw [kept] at taken ⊢
  exact packed first second below taken

/-- A request does to the list of the pose driver what it does to the table. -/
theorem setTrackingSystemFallback_listed (iso : IsoTransform Vec Rot)
    {table : FallbackTable Vec Rot} (packed : table.Packed) {driver : Driver Vec Rot}
    (same : driver.systemFallbacks = table.listed) (now : Nat)
    (request : SetTrackingSystemFallback Vec Rot) :
    (driver.setTrackingSystemFallback now request).systemFallbacks =
        (table.setTrackingSystemFallback iso request).2.listed ∧
      (table.setTrackingSystemFallback iso request).2.Packed := by
  have plain := not_mem_bufferName request.systemName
  have short := bufferName_length_le request.systemName
  by_cases named : bufferName request.systemName = []
  · unfold Driver.setTrackingSystemFallback FallbackTable.setTrackingSystemFallback
    simp only [if_pos named]
    exact ⟨same, packed⟩
  have fits : ¬((bufferName request.systemName).length = 0 ∨
      (bufferName request.systemName).length > maxTrackingSystemNameLen) := by
    rintro (empty | long)
    · exact named (List.eq_nil_of_length_eq_zero empty)
    · exact Nat.not_lt.mpr short long
  have search := findFallbackSlot_eq table plain fits
  unfold Driver.setTrackingSystemFallback FallbackTable.setTrackingSystemFallback
  simp only [if_neg named, same]
  by_cases enabled : request.enabled = true
  · have listed := any_listed table plain fits
    unfold FallbackTable.acquireFallbackSlot
    simp only [if_pos enabled, if_neg fits, storeFallback, listed]
    cases found : table.findFallbackSlot (bufferName request.systemName) with
    | some place =>
      refine ⟨?_, modify_packed packed place _⟩
      exact (modify_listed (search ▸ found) fun tf => rfl).symm
    | none =>
      cases free : table.findFreeSlot with
      | some place =>
        obtain ⟨grown, room, keeps⟩ := claim_listed packed free (requestedFallback iso request) rfl
        have spelled : (requestedFallback iso request).name = bufferName request.systemName :=
          cString_padName _ plain short
        simp only [Option.isSome_none, Bool.false_eq_true, if_false, if_pos room, claim_modify]
        rw [spelled] at grown
        exact ⟨grown.symm, keeps⟩
      | none =>
        have full := full_listed free
        rw [if_neg (by simp), if_neg (Nat.not_lt.mpr full.ge)]
        exact ⟨rfl, packed⟩
  · simp only [if_neg enabled]
    cases found : table.findFallbackSlot (bufferName request.systemName) with
    | some place =>
      refine ⟨?_, modify_packed packed place _⟩
      exact (modify_listed (search ▸ found) fun tf => rfl).symm
    | none =>
      have missing := List.find?_eq_none.mp (search ▸ found)
      exact ⟨modifySlot_missing _ (listedAt_names missing), packed⟩

/-- The same holds of a run of requests. -/
theorem run_listed (iso : IsoTransform Vec Rot) {table : FallbackTable Vec Rot}
    (packed : table.Packed) {driver : Driver Vec Rot} (same : driver.systemFallbacks = table.listed)
    (requests : List (Nat × SetTrackingSystemFallback Vec Rot)) :
    (requests.foldl (fun driver request => driver.setTrackingSystemFallback request.1 request.2)
        driver).systemFallbacks =
      (table.run iso (requests.map Prod.snd)).listed := by
  induction requests generalizing driver table with
  | nil => exact same
  | cons request rest inductionHypothesis =>
    obtain ⟨next, keeps⟩ := setTrackingSystemFallback_listed iso packed same request.1 request.2
    exact inductionHypothesis keeps next

/-- After every run of requests the pose driver has the slots of the table, in order. -/
theorem driver_fallbacks_listed (geo : Geometry Vec Rot)
    (requests : List (Nat × SetTrackingSystemFallback Vec Rot)) :
    (requests.foldl (fun driver request => driver.setTrackingSystemFallback request.1 request.2)
        (initialDriver geo)).systemFallbacks =
      (fallbacksAfter geo.iso (requests.map Prod.snd)).listed := by
  have empty : (emptyFallbacks geo.iso).listed = [] :=
    List.filterMap_eq_nil_iff.mpr fun _ _ => listed_free rfl
  have packed : (emptyFallbacks geo.iso).Packed :=
    fun _ _ _ taken => absurd taken Bool.false_ne_true
  exact run_listed geo.iso packed empty.symm requests

end Slots

end PairDriver.Provider
