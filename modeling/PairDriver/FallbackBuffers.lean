/-
This file models the table of tracking-system fallbacks down to its bytes, and says what it
is for: a finite map from the name of a tracking system to the fallback last asked for it.

The names are kept in buffers of fixed size, padded with NULs and compared as memory, so a
name is found by its bytes and by what follows them. A slot is claimed by the first enabling
request of a name and keeps that name for good, because a disabling request clears a flag
and frees nothing. An enabling request is therefore refused once enough other names were
ever enabled, and not only while they still are.
-/

import PairDriver.PoseDriver
import PairDriver.SlotMap

namespace PairDriver.Provider

/-! ### The table -/

/-- The buffer of a name. -/
abbrev NameBuffer := { bytes : List UInt8 // bytes.length = maxTrackingSystemNameLen }

structure FallbackTransform (Vec Rot : Type) where
  enabled : Bool := false
  transform : IsoTransform Vec Rot
  scale : Rat := 1
  predictionSmoothness : Nat := 0
  recalibrateOnMovement : Bool := false
deriving DecidableEq

/-- A `FallbackSlot` with its buffer. -/
structure BufferSlot (Vec Rot : Type) where
  systemName : NameBuffer
  tf : FallbackTransform Vec Rot
  occupied : Bool := false
deriving DecidableEq

abbrev FallbackTable (Vec Rot : Type) := Fin maxFallbackSlots → BufferSlot Vec Rot

section Table

variable {Vec Rot : Type} (iso : IsoTransform Vec Rot)

/-- The buffer that is cleared and takes the bytes of a name. -/
def padName (name : Name) : NameBuffer :=
  ⟨(name ++ List.replicate maxTrackingSystemNameLen 0).take maxTrackingSystemNameLen, by
    rw [List.length_take, List.length_append, List.length_replicate]
    exact Nat.min_eq_left (Nat.le_add_left _ _)⟩

/-- The bytes of a name stand in the buffer, and a NUL follows them if there is room. -/
def NameBuffer.holds (buffer : NameBuffer) (name : Name) : Bool :=
  buffer.val.take name.length == name &&
    (name.length == maxTrackingSystemNameLen || buffer.val.getD name.length 0 == 0)

def emptyFallbacks : FallbackTable Vec Rot :=
  fun _ => { systemName := padName [], tf := { transform := iso } }

/-- `FindFallbackSlot`. -/
def FallbackTable.findFallbackSlot (table : FallbackTable Vec Rot) (name : Name) :
    Option (Fin maxFallbackSlots) :=
  if name.length = 0 ∨ name.length > maxTrackingSystemNameLen then none
  else
    (List.finRange maxFallbackSlots).find? fun slot =>
      (table slot).occupied && (table slot).systemName.holds name

def FallbackTable.findFreeSlot (table : FallbackTable Vec Rot) : Option (Fin maxFallbackSlots) :=
  (List.finRange maxFallbackSlots).find? fun slot => !(table slot).occupied

/-- A slot that was just claimed for a name. -/
def claimedSlot (name : Name) : BufferSlot Vec Rot :=
  { systemName := padName name, tf := { transform := iso }, occupied := true }

/-- `AcquireFallbackSlot`: the slot of the name, or a free one that is claimed for it. -/
def FallbackTable.acquireFallbackSlot (table : FallbackTable Vec Rot) (name : Name) :
    Option (Fin maxFallbackSlots) × FallbackTable Vec Rot :=
  if name.length = 0 ∨ name.length > maxTrackingSystemNameLen then (none, table)
  else
    match table.findFallbackSlot name with
    | some existing => (some existing, table)
    | none =>
      match table.findFreeSlot with
      | some free => (some free, Function.update table free (claimedSlot iso name))
      | none => (none, table)

/-- What an enabling request writes to the fallback of its slot. The smoothness stays. -/
def FallbackTransform.requested (request : SetTrackingSystemFallback Vec Rot)
    (tf : FallbackTransform Vec Rot) : FallbackTransform Vec Rot :=
  { tf with
    enabled := true
    transform := ⟨request.rotation, request.translation⟩
    scale := request.scale
    recalibrateOnMovement := request.recalibrateOnMovement }

/-- Changes the fallback of a slot. -/
def FallbackTable.modify (table : FallbackTable Vec Rot) (slot : Fin maxFallbackSlots)
    (change : FallbackTransform Vec Rot → FallbackTransform Vec Rot) : FallbackTable Vec Rot :=
  Function.update table slot { table slot with tf := change (table slot).tf }

/-- The part of `SetTrackingSystemFallback` that is about the table: whether the request is refused
because no slot was left for it, and the table after it. -/
def FallbackTable.setTrackingSystemFallback (table : FallbackTable Vec Rot)
    (request : SetTrackingSystemFallback Vec Rot) : Bool × FallbackTable Vec Rot :=
  let name := bufferName request.systemName
  if name = [] then (false, table)
  else if request.enabled then
    match table.acquireFallbackSlot iso name with
    | (some slot, acquired) => (false, acquired.modify slot (.requested request))
    | (none, kept) => (true, kept)
  else
    match table.findFallbackSlot name with
    | some slot => (false, table.modify slot fun tf => { tf with enabled := false })
    | none => (false, table)

/-- The table after some requests. -/
def FallbackTable.run (table : FallbackTable Vec Rot)
    (requests : List (SetTrackingSystemFallback Vec Rot)) : FallbackTable Vec Rot :=
  requests.foldl (fun table request => (table.setTrackingSystemFallback iso request).2) table

/-- The table some requests lead to from the start. -/
def fallbacksAfter (requests : List (SetTrackingSystemFallback Vec Rot)) :
    FallbackTable Vec Rot :=
  (emptyFallbacks iso).run iso requests

/-! ### What the table is for -/

/-- A request enables the fallback of a name. -/
def Enables (request : SetTrackingSystemFallback Vec Rot) (name : Name) : Prop :=
  request.enabled = true ∧ bufferName request.systemName = name ∧ name ≠ []

/-- The table refuses a request that comes after some others. -/
def Refused (requests : List (SetTrackingSystemFallback Vec Rot))
    (request : SetTrackingSystemFallback Vec Rot) : Prop :=
  ((fallbacksAfter iso requests).setTrackingSystemFallback iso request).1 = true

/-- A name was enabled at some time, by a request that was not refused. -/
def EverEnabled (requests : List (SetTrackingSystemFallback Vec Rot)) (name : Name) : Prop :=
  ∃ before request after, requests = before ++ request :: after ∧ Enables request name ∧
    ¬Refused iso before request

/-- The last request that enables a name. -/
def lastEnabling (requests : List (SetTrackingSystemFallback Vec Rot)) (name : Name) :
    Option (SetTrackingSystemFallback Vec Rot) :=
  requests.reverse.find? fun request =>
    request.enabled && (bufferName request.systemName == name)

/-- The fallback has the transform, the scale and the motion flag of a request. -/
def FallbackTransform.Carries (tf : FallbackTransform Vec Rot)
    (request : SetTrackingSystemFallback Vec Rot) : Prop :=
  tf.transform = ⟨request.rotation, request.translation⟩ ∧ tf.scale = request.scale ∧
    tf.recalibrateOnMovement = request.recalibrateOnMovement

/-- The name in the buffer of a slot. -/
def BufferSlot.name (slot : BufferSlot Vec Rot) : Name :=
  cString slot.systemName.val

/-- The names whose fallbacks are enabled at the moment. -/
def FallbackTable.enabledNames (table : FallbackTable Vec Rot) : List Name :=
  ((List.finRange maxFallbackSlots).filter fun slot =>
    (table slot).occupied && (table slot).tf.enabled).map fun slot => (table slot).name

/-- The table some requests lead to is a map from the names enabled at some time. A name is a
string, so it has no NUL. -/
structure FallbackTable.Refines (table : FallbackTable Vec Rot)
    (requests : List (SetTrackingSystemFallback Vec Rot)) : Prop where
  distinct : ∀ first second, (table first).occupied = true → (table second).occupied = true →
    (table first).name = (table second).name → first = second
  found : ∀ name, 0 ∉ name →
    ((table.findFallbackSlot name).isSome = true ↔ EverEnabled iso requests name)
  exact_name : ∀ name slot, 0 ∉ name → table.findFallbackSlot name = some slot →
    (table slot).name = name
  values : ∀ name slot, 0 ∉ name → table.findFallbackSlot name = some slot →
    ∃ request, lastEnabling requests name = some request ∧ (table slot).tf.Carries request
  refused : ∀ request, (table.setTrackingSystemFallback iso request).1 = true ↔
    ∃ name, Enables request name ∧
      {other | other ≠ name ∧ EverEnabled iso requests other}.ncard = maxFallbackSlots

/-- The names with a fallback. -/
abbrev FallbackMap (Vec Rot : Type) := Name → Option (FallbackTransform Vec Rot)

open Classical in
/-- The map after a request. -/
noncomputable def FallbackMap.after (map : FallbackMap Vec Rot)
    (request : SetTrackingSystemFallback Vec Rot) : FallbackMap Vec Rot :=
  let name := bufferName request.systemName
  if name = [] then map
  else if request.enabled then
    if SlotMap.Full maxFallbackSlots map ∧ map name = none then map
    else Function.update map name
      (some (((map name).getD { transform := iso }).requested request))
  else Function.update map name ((map name).map fun tf => { tf with enabled := false })

/-- The map after some requests. -/
noncomputable def mapAfter (requests : List (SetTrackingSystemFallback Vec Rot)) :
    FallbackMap Vec Rot :=
  requests.foldl (FallbackMap.after iso) fun _ => none

/-- The name and the fallback of a slot in use. -/
def BufferSlot.held (slot : BufferSlot Vec Rot) : Option (Name × FallbackTransform Vec Rot) :=
  if slot.occupied then some (slot.name, slot.tf) else none

def FallbackTable.held (table : FallbackTable Vec Rot) :
    Fin maxFallbackSlots → Option (Name × FallbackTransform Vec Rot) :=
  fun slot => (table slot).held

/-! ### Names in buffers -/

theorem bufferName_length_le (buffer : List UInt8) :
    (bufferName buffer).length ≤ maxTrackingSystemNameLen :=
  (cString_length_le _).trans (List.length_take_le _ _)

theorem not_mem_bufferName (buffer : List UInt8) : 0 ∉ bufferName buffer :=
  not_mem_cString _

/-- The buffer of a name spells the name. -/
theorem cString_padName (name : Name) (plain : 0 ∉ name)
    (short : name.length ≤ maxTrackingSystemNameLen) : cString (padName name).val = name := by
  obtain ⟨room, length⟩ := Nat.exists_eq_add_of_le short
  have padded : (padName name).val = name ++ List.replicate room 0 := by
    show (name ++ List.replicate maxTrackingSystemNameLen 0).take maxTrackingSystemNameLen = _
    rw [List.take_append, List.take_of_length_le short, List.take_replicate]
    congr 2
    omega
  rw [padded]
  cases room with
  | zero => rw [List.replicate_zero, List.append_nil, cString_plain name plain]
  | succ more => rw [List.replicate_succ, cString_append name _ plain]

/-- A buffer holds a name exactly if it spells the name: no prefix of the name is taken for it,
and no longer name either. -/
theorem holds_iff_name (buffer : NameBuffer) (name : Name) (plain : 0 ∉ name) :
    buffer.holds name = true ↔ cString buffer.val = name := by
  obtain ⟨bytes, length⟩ := buffer
  simp only [NameBuffer.holds, Bool.and_eq_true, Bool.or_eq_true, beq_iff_eq]
  have spells : ∀ rest, bytes = name ++ rest →
      ((name.length = maxTrackingSystemNameLen ∨ bytes.getD name.length 0 = 0) ↔
        cString rest = []) := by
    intro rest split
    cases rest with
    | nil =>
      refine iff_of_true (Or.inl ?_) rfl
      rw [← length, split, List.append_nil]
    | cons byte more =>
      have longer : name.length ≠ maxTrackingSystemNameLen := by
        rw [← length, split, List.length_append, List.length_cons]
        omega
      rw [cString_eq_nil, split, List.getD_append_right _ _ _ _ (Nat.le_refl _), Nat.sub_self]
      exact or_iff_right longer
  constructor
  · rintro ⟨front, ending⟩
    have split : bytes = name ++ bytes.drop name.length := by
      nth_rewrite 1 [← List.take_append_drop name.length bytes]
      rw [front]
    rw [split, cString_plain_append name _ plain, (spells _ split).mp ending, List.append_nil]
  · intro spelled
    have front : name <+: bytes := spelled ▸ List.takeWhile_prefix _
    obtain ⟨rest, split⟩ := front
    refine ⟨by rw [← split, List.take_left], (spells rest split.symm).mpr ?_⟩
    rw [← split, cString_plain_append name rest plain] at spelled
    exact List.append_right_eq_self.mp spelled

/-! ### Slots -/

theorem held_some {slot : BufferSlot Vec Rot} {name : Name} {tf : FallbackTransform Vec Rot} :
    slot.held = some (name, tf) ↔ slot.occupied = true ∧ slot.name = name ∧ slot.tf = tf := by
  unfold BufferSlot.held
  by_cases occupied : slot.occupied = true
  · rw [if_pos occupied, Option.some.injEq, Prod.mk.injEq]
    exact (and_iff_right occupied).symm
  · rw [if_neg occupied]
    exact iff_of_false (fun broken => nomatch broken) fun held => occupied held.1

theorem findFallbackSlot_some {table : FallbackTable Vec Rot} {name : Name} (plain : 0 ∉ name)
    {slot : Fin maxFallbackSlots} (found : table.findFallbackSlot name = some slot) :
    table.held slot = some (name, (table slot).tf) := by
  unfold FallbackTable.findFallbackSlot at found
  split at found
  · exact nomatch found
  · have holds := List.find?_some found
    rw [Bool.and_eq_true, holds_iff_name _ name plain] at holds
    exact held_some.mpr ⟨holds.1, holds.2, rfl⟩

theorem findFallbackSlot_none {table : FallbackTable Vec Rot} {name : Name} (plain : 0 ∉ name)
    (named : name ≠ []) :
    table.findFallbackSlot name = none ↔ ∀ slot tf, table.held slot ≠ some (name, tf) := by
  unfold FallbackTable.findFallbackSlot
  have nonempty : name.length ≠ 0 := fun empty => named (List.eq_nil_of_length_eq_zero empty)
  split
  · rename_i refused
    refine iff_of_true rfl fun slot tf held => ?_
    have spelled := (held_some.mp held).2.1
    have short : name.length ≤ maxTrackingSystemNameLen := by
      rw [← spelled, ← (table slot).systemName.property]
      exact cString_length_le _
    omega
  · rw [List.find?_eq_none]
    simp only [List.mem_finRange, true_implies, Bool.and_eq_true, holds_iff_name _ name plain]
    refine forall_congr' fun slot => ?_
    constructor
    · intro missing tf held
      exact missing ⟨(held_some.mp held).1, (held_some.mp held).2.1⟩
    · intro missing held
      exact missing (table slot).tf (held_some.mpr ⟨held.1, held.2, rfl⟩)

theorem findFreeSlot_some {table : FallbackTable Vec Rot} {slot : Fin maxFallbackSlots}
    (found : table.findFreeSlot = some slot) : table.held slot = none := by
  have free := List.find?_some found
  exact if_neg (by simpa using free)

theorem findFreeSlot_none {table : FallbackTable Vec Rot} :
    table.findFreeSlot = none ↔ ∀ slot, table.held slot ≠ none := by
  rw [FallbackTable.findFreeSlot, List.find?_eq_none]
  simp only [List.mem_finRange, true_implies, Bool.not_eq_true', Bool.not_eq_false]
  refine forall_congr' fun slot => ?_
  show _ ↔ (table slot).held ≠ none
  unfold BufferSlot.held
  by_cases occupied : (table slot).occupied = true
  · rw [if_pos occupied]
    exact iff_of_true occupied (Option.some_ne_none _)
  · rw [if_neg occupied]
    exact iff_of_false occupied fun broken => broken rfl

theorem held_update (table : FallbackTable Vec Rot) (slot : Fin maxFallbackSlots)
    (written : BufferSlot Vec Rot) :
    FallbackTable.held (Function.update table slot written) =
      Function.update table.held slot written.held := by
  funext other
  show (Function.update table slot written other).held = _
  by_cases here : other = slot
  · rw [here, Function.update_self, Function.update_self]
  · rw [Function.update_of_ne here, Function.update_of_ne here]
    rfl

/-! ### What a request does to the map -/

/-- The table holds the map, and no slot belongs to the empty name. -/
structure FallbackTable.Represents (table : FallbackTable Vec Rot) (map : FallbackMap Vec Rot) :
    Prop where
  slots : SlotMap.Represents table.held map
  named : map [] = none

section Step

variable {table : FallbackTable Vec Rot} {map : FallbackMap Vec Rot}

/-- A slot that is found holds what the map has for the name. -/
theorem map_of_found (represents : table.Represents map) {name : Name} (plain : 0 ∉ name)
    {slot : Fin maxFallbackSlots} (found : table.findFallbackSlot name = some slot) :
    map name = some (table slot).tf :=
  (represents.slots.value name _).mp ⟨slot, findFallbackSlot_some plain found⟩

theorem found_iff (represents : table.Represents map) {name : Name} (plain : 0 ∉ name) :
    (table.findFallbackSlot name).isSome = true ↔ map name ≠ none := by
  by_cases named : name = []
  · rw [named, represents.named]
    exact iff_of_false Bool.false_ne_true fun broken => broken rfl
  · rw [Option.isSome_iff_ne_none, ne_eq, ne_eq, findFallbackSlot_none plain named,
      represents.slots.none_iff]

theorem map_of_missing (represents : table.Represents map) {name : Name} (plain : 0 ∉ name)
    (missing : table.findFallbackSlot name = none) : map name = none := by
  by_contra present
  have found := (found_iff represents plain).mpr present
  rw [missing] at found
  exact Bool.false_ne_true found

/-- A slot is free exactly if the map is not full. -/
theorem full_iff_no_free (represents : table.Represents map) :
    SlotMap.Full maxFallbackSlots map ↔ table.findFreeSlot = none := by
  rw [represents.slots.full_iff, findFreeSlot_none]

/-- A change to the fallback of a name is a change to the map at that name. -/
theorem modify_represents (represents : table.Represents map) {name : Name} (plain : 0 ∉ name)
    {slot : Fin maxFallbackSlots} (found : table.findFallbackSlot name = some slot)
    (change : FallbackTransform Vec Rot → FallbackTransform Vec Rot) :
    (table.modify slot change).Represents (Function.update map name ((map name).map change)) := by
  have own := findFallbackSlot_some plain found
  have kept : map name = some (table slot).tf := map_of_found represents plain found
  have named : name ≠ [] := by
    rintro rfl
    exact nomatch represents.named.symm.trans kept
  obtain ⟨occupied, spelled, -⟩ := held_some.mp own
  have written : BufferSlot.held { table slot with tf := change (table slot).tf } =
      ((map name).map change).map fun value => (name, value) := by
    rw [kept]
    exact held_some.mpr ⟨occupied, spelled, rfl⟩
  refine ⟨?_, ?_⟩
  · rw [FallbackTable.modify, held_update, written]
    refine represents.slots.write slot name _ (fun other value held => ?_) fun other value held => ?_
    · exact congrArg Prod.fst (Option.some.inj (held.symm.trans own))
    · exact represents.slots.unique other slot name _ _ held own
  · rw [Function.update_of_ne (Ne.symm named)]
    exact represents.named

/-- A free slot that is claimed for a new name takes its value. -/
theorem claim_represents (represents : table.Represents map) {name : Name} (plain : 0 ∉ name)
    (named : name ≠ []) (short : name.length ≤ maxTrackingSystemNameLen)
    (missing : table.findFallbackSlot name = none) {free : Fin maxFallbackSlots}
    (found : table.findFreeSlot = some free) (tf : FallbackTransform Vec Rot) :
    FallbackTable.Represents
      (Function.update table free { systemName := padName name, tf := tf, occupied := true })
      (Function.update map name (some tf)) := by
  have empty := findFreeSlot_some found
  have written : BufferSlot.held { systemName := padName name, tf := tf, occupied := true } =
      (some tf).map fun value => (name, value) :=
    held_some.mpr ⟨rfl, cString_padName name plain short, rfl⟩
  refine ⟨?_, ?_⟩
  · rw [held_update, written]
    refine represents.slots.write free name (some tf) (fun other value held => ?_)
      fun other value held => ?_
    · exact nomatch empty.symm.trans held
    · exact absurd held ((findFallbackSlot_none plain named).mp missing other value)
  · rw [Function.update_of_ne (Ne.symm named)]
    exact represents.named

/-- The slot a new name is left with by its request. -/
def requestedFallback (request : SetTrackingSystemFallback Vec Rot) :
    BufferSlot Vec Rot :=
  { claimedSlot iso (bufferName request.systemName) with
    tf := .requested request { transform := iso } }

/-- A claim and the values after it are one write. -/
theorem claim_modify (request : SetTrackingSystemFallback Vec Rot)
    (table : FallbackTable Vec Rot) (place : Fin maxFallbackSlots) :
    FallbackTable.modify
        (Function.update table place (claimedSlot iso (bufferName request.systemName))) place
        (.requested request) =
      Function.update table place (requestedFallback iso request) := by
  rw [FallbackTable.modify, Function.update_self, Function.update_idem]
  rfl

/-- An enabling request is refused exactly if the map is full without the name, and otherwise sets
the fallback of the name. -/
theorem enable_represents (represents : table.Represents map)
    (request : SetTrackingSystemFallback Vec Rot) (enabled : request.enabled = true)
    (named : bufferName request.systemName ≠ []) :
    ((table.setTrackingSystemFallback iso request).1 = true ↔
        SlotMap.Full maxFallbackSlots map ∧ map (bufferName request.systemName) = none) ∧
      (table.setTrackingSystemFallback iso request).2.Represents
        (FallbackMap.after iso map request) := by
  have plain := not_mem_bufferName request.systemName
  have short := bufferName_length_le request.systemName
  have fits : ¬((bufferName request.systemName).length = 0 ∨
      (bufferName request.systemName).length > maxTrackingSystemNameLen) := by
    rintro (empty | long)
    · exact named (List.eq_nil_of_length_eq_zero empty)
    · exact Nat.not_lt.mpr short long
  unfold FallbackTable.setTrackingSystemFallback FallbackMap.after
    FallbackTable.acquireFallbackSlot
  simp only [if_neg named, if_pos enabled, if_neg fits]
  cases found : table.findFallbackSlot (bufferName request.systemName) with
  | some slot =>
    have kept := map_of_found represents plain found
    have present : ¬(SlotMap.Full maxFallbackSlots map ∧
        map (bufferName request.systemName) = none) :=
      fun both => nomatch both.2.symm.trans kept
    refine ⟨iff_of_false Bool.false_ne_true present, ?_⟩
    rw [if_neg present]
    have changed := modify_represents represents plain found (.requested request)
    rw [kept] at changed ⊢
    exact changed
  | none =>
    have absent := map_of_missing represents plain found
    cases free : table.findFreeSlot with
    | some slot =>
      have room : ¬(SlotMap.Full maxFallbackSlots map ∧
          map (bufferName request.systemName) = none) := by
        rw [full_iff_no_free represents, free]
        exact fun both => nomatch both.1
      refine ⟨iff_of_false Bool.false_ne_true room, ?_⟩
      rw [if_neg room, absent]
      simp only [claim_modify]
      exact claim_represents represents plain named short found free
        (.requested request { transform := iso })
    | none =>
      have full : SlotMap.Full maxFallbackSlots map ∧
          map (bufferName request.systemName) = none :=
        ⟨(full_iff_no_free represents).mpr free, absent⟩
      refine ⟨iff_of_true rfl full, ?_⟩
      rw [if_pos full]
      exact represents

/-- Every request keeps the table a map, and only an enabling request of a new name that meets a
full map is refused. -/
theorem step_represents (represents : table.Represents map)
    (request : SetTrackingSystemFallback Vec Rot) :
    ((table.setTrackingSystemFallback iso request).1 = true ↔
        Enables request (bufferName request.systemName) ∧
          SlotMap.Full maxFallbackSlots map ∧ map (bufferName request.systemName) = none) ∧
      (table.setTrackingSystemFallback iso request).2.Represents
        (FallbackMap.after iso map request) := by
  by_cases named : bufferName request.systemName = []
  · unfold FallbackTable.setTrackingSystemFallback FallbackMap.after
    simp only [if_pos named]
    exact ⟨iff_of_false Bool.false_ne_true fun both => both.1.2.2 named, represents⟩
  · by_cases enabled : request.enabled = true
    · obtain ⟨refused, next⟩ := enable_represents iso represents request enabled named
      exact ⟨refused.trans (and_iff_right ⟨enabled, rfl, named⟩).symm, next⟩
    · have plain := not_mem_bufferName request.systemName
      have allowed : ¬(Enables request (bufferName request.systemName) ∧
          SlotMap.Full maxFallbackSlots map ∧ map (bufferName request.systemName) = none) :=
        fun both => enabled both.1.1
      unfold FallbackTable.setTrackingSystemFallback FallbackMap.after
      simp only [if_neg named, if_neg enabled]
      cases found : table.findFallbackSlot (bufferName request.systemName) with
      | some slot =>
        exact ⟨iff_of_false Bool.false_ne_true allowed,
          modify_represents represents plain found fun tf => { tf with enabled := false }⟩
      | none =>
        have absent := map_of_missing represents plain found
        refine ⟨iff_of_false Bool.false_ne_true allowed, ?_⟩
        rw [absent, Option.map_none, ← absent, Function.update_eq_self]
        exact represents

end Step

/-! ### Runs -/

theorem fallbacksAfter_snoc (requests : List (SetTrackingSystemFallback Vec Rot))
    (request : SetTrackingSystemFallback Vec Rot) :
    fallbacksAfter iso (requests ++ [request]) =
      ((fallbacksAfter iso requests).setTrackingSystemFallback iso request).2 :=
  List.foldl_concat _ _ _ _

theorem mapAfter_snoc (requests : List (SetTrackingSystemFallback Vec Rot))
    (request : SetTrackingSystemFallback Vec Rot) :
    mapAfter iso (requests ++ [request]) =
      FallbackMap.after iso (mapAfter iso requests) request :=
  List.foldl_concat _ _ _ _

/-- The table is a map after every run. -/
theorem fallbacks_represent (requests : List (SetTrackingSystemFallback Vec Rot)) :
    (fallbacksAfter iso requests).Represents (mapAfter iso requests) := by
  induction requests using List.reverseRecOn with
  | nil => exact ⟨SlotMap.represents_empty fun _ => rfl, rfl⟩
  | append_singleton requests request inductionHypothesis =>
    rw [fallbacksAfter_snoc, mapAfter_snoc]
    exact (step_represents iso inductionHypothesis request).2

theorem refused_iff (requests : List (SetTrackingSystemFallback Vec Rot))
    (request : SetTrackingSystemFallback Vec Rot) :
    Refused iso requests request ↔ Enables request (bufferName request.systemName) ∧
      SlotMap.Full maxFallbackSlots (mapAfter iso requests) ∧
        mapAfter iso requests (bufferName request.systemName) = none :=
  (step_represents iso (fallbacks_represent iso requests) request).1

theorem everEnabled_snoc (requests : List (SetTrackingSystemFallback Vec Rot))
    (request : SetTrackingSystemFallback Vec Rot) (name : Name) :
    EverEnabled iso (requests ++ [request]) name ↔
      EverEnabled iso requests name ∨ Enables request name ∧ ¬Refused iso requests request := by
  constructor
  · rintro ⟨before, enabling, after, split, enables, kept⟩
    rcases List.eq_nil_or_concat after with rfl | ⟨more, last, rfl⟩
    · obtain ⟨rfl, same⟩ := List.append_inj' split rfl
      obtain rfl := (List.cons.inj same).1
      exact Or.inr ⟨enables, kept⟩
    · rw [List.concat_eq_append, ← List.cons_append, ← List.append_assoc] at split
      exact Or.inl ⟨before, enabling, more, (List.append_inj' split rfl).1, enables, kept⟩
  · rintro (⟨before, enabling, after, rfl, enables, kept⟩ | ⟨enables, kept⟩)
    · exact ⟨before, enabling, after ++ [request], by simp, enables, kept⟩
    · exact ⟨requests, request, [], rfl, enables, kept⟩

theorem lastEnabling_snoc (requests : List (SetTrackingSystemFallback Vec Rot))
    (request : SetTrackingSystemFallback Vec Rot) (name : Name) :
    lastEnabling (requests ++ [request]) name =
      if request.enabled = true ∧ bufferName request.systemName = name then some request
      else lastEnabling requests name := by
  unfold lastEnabling
  rw [List.reverse_append, List.reverse_singleton, List.singleton_append, List.find?_cons]
  by_cases enabling : request.enabled = true ∧ bufferName request.systemName = name
  · rw [if_pos enabling]
    simp only [enabling.1, enabling.2, beq_self_eq_true, Bool.and_self]
  · rw [if_neg enabling]
    split
    · rename_i matched
      simp only [Bool.and_eq_true, beq_iff_eq] at matched
      exact absurd matched enabling
    · rfl

/-- What a request leaves a name with: what it asks for, or what the name had, with the flag of the
request. -/
theorem after_cases (map : FallbackMap Vec Rot) (request : SetTrackingSystemFallback Vec Rot)
    (name : Name) :
    (Enables request name ∧ ¬(SlotMap.Full maxFallbackSlots map ∧ map name = none) ∧
        ∃ tf, FallbackMap.after iso map request name = some tf ∧ tf.Carries request) ∨
      (¬(Enables request name ∧ ¬(SlotMap.Full maxFallbackSlots map ∧ map name = none)) ∧
        ∃ enabled : FallbackTransform Vec Rot → Bool,
          FallbackMap.after iso map request name =
            (map name).map fun tf => { tf with enabled := enabled tf }) := by
  have unchanged : ∀ value : Option (FallbackTransform Vec Rot),
      ∃ enabled : FallbackTransform Vec Rot → Bool,
        value = value.map fun tf => { tf with enabled := enabled tf } :=
    fun value => ⟨FallbackTransform.enabled, Option.map_id'.symm⟩
  unfold FallbackMap.after
  by_cases named : bufferName request.systemName = []
  · simp only [if_pos named]
    refine Or.inr ⟨fun both => both.1.2.2 ?_, unchanged _⟩
    rw [← both.1.2.1, named]
  by_cases here : name = bufferName request.systemName
  · subst here
    by_cases enabled : request.enabled = true
    · by_cases full : SlotMap.Full maxFallbackSlots map ∧
          map (bufferName request.systemName) = none
      · simp only [if_neg named, if_pos enabled, if_pos full]
        exact Or.inr ⟨fun both => both.2 full, unchanged _⟩
      · simp only [if_neg named, if_pos enabled, if_neg full, Function.update_self]
        exact Or.inl ⟨⟨enabled, rfl, named⟩, full, _, rfl, rfl, rfl, rfl⟩
    · simp only [if_neg named, if_neg enabled, Function.update_self]
      exact Or.inr ⟨fun both => enabled both.1.1, fun _ => false, rfl⟩
  · refine Or.inr ⟨fun both => here both.1.2.1.symm, ?_⟩
    simp only [if_neg named]
    split_ifs
    · exact unchanged _
    · rw [Function.update_of_ne here]
      exact unchanged _
    · rw [Function.update_of_ne here]
      exact unchanged _

/-- The map has the names that were enabled at some time. -/
theorem mapAfter_iff (requests : List (SetTrackingSystemFallback Vec Rot)) (name : Name) :
    mapAfter iso requests name ≠ none ↔ EverEnabled iso requests name := by
  induction requests using List.reverseRecOn with
  | nil =>
    refine iff_of_false (fun broken => broken rfl) ?_
    rintro ⟨before, enabling, after, split, -⟩
    exact List.append_ne_nil_of_right_ne_nil before (List.cons_ne_nil _ _) split.symm
  | append_singleton requests request inductionHypothesis =>
    have refused : Enables request name → (Refused iso requests request ↔
        SlotMap.Full maxFallbackSlots (mapAfter iso requests) ∧
          mapAfter iso requests name = none) := by
      rintro ⟨enabled, rfl, named⟩
      rw [refused_iff]
      exact and_iff_right ⟨enabled, rfl, named⟩
    rw [mapAfter_snoc, everEnabled_snoc, ← inductionHypothesis]
    rcases after_cases iso (mapAfter iso requests) request name with
      ⟨enables, room, tf, written, -⟩ | ⟨other, flag, kept⟩
    · rw [written]
      exact iff_of_true (Option.some_ne_none tf)
        (Or.inr ⟨enables, (not_congr (refused enables)).mpr room⟩)
    · rw [kept, ne_eq, Option.map_eq_none_iff]
      refine (or_iff_left fun enabling => other ?_).symm
      exact ⟨enabling.1, (not_congr (refused enabling.1)).mp enabling.2⟩

/-- A name in the map has what the last request that enabled it asked for. -/
theorem mapAfter_carries (requests : List (SetTrackingSystemFallback Vec Rot)) (name : Name)
    (tf : FallbackTransform Vec Rot) (stored : mapAfter iso requests name = some tf) :
    ∃ request, lastEnabling requests name = some request ∧ tf.Carries request := by
  induction requests using List.reverseRecOn generalizing tf with
  | nil => exact nomatch stored
  | append_singleton requests request inductionHypothesis =>
    have named : name ≠ [] := by
      rintro rfl
      exact nomatch (fallbacks_represent iso (requests ++ [request])).named.symm.trans stored
    rw [mapAfter_snoc] at stored
    rw [lastEnabling_snoc]
    rcases after_cases iso (mapAfter iso requests) request name with
      ⟨enables, -, asked, written, carries⟩ | ⟨other, flag, kept⟩
    · rw [if_pos ⟨enables.1, enables.2.1⟩]
      obtain rfl := Option.some.inj (written.symm.trans stored)
      exact ⟨request, rfl, carries⟩
    · rw [kept, Option.map_eq_some_iff] at stored
      obtain ⟨old, before, same⟩ := stored
      have different : ¬(request.enabled = true ∧ bufferName request.systemName = name) := by
        intro enabling
        refine other ⟨⟨enabling.1, enabling.2, named⟩, fun both => ?_⟩
        exact nomatch both.2.symm.trans before
      rw [if_neg different]
      obtain ⟨last, found, carries⟩ := inductionHypothesis old before
      exact ⟨last, found, same ▸ carries⟩

/-- An enabling request is refused exactly if the table is full of other names, which were enabled
at some time. -/
theorem refused_iff_others (requests : List (SetTrackingSystemFallback Vec Rot))
    (request : SetTrackingSystemFallback Vec Rot) :
    Refused iso requests request ↔
      ∃ name, Enables request name ∧
        {other | other ≠ name ∧ EverEnabled iso requests other}.ncard = maxFallbackSlots := by
  have names : {other | EverEnabled iso requests other} =
      {other | mapAfter iso requests other ≠ none} :=
    Set.ext fun other => (mapAfter_iff iso requests other).symm
  have others : ∀ name, {other | other ≠ name ∧ EverEnabled iso requests other} =
      {other | mapAfter iso requests other ≠ none} \ {name} := by
    intro name
    rw [← names]
    exact Set.ext fun other => And.comm
  have outside : ∀ name, mapAfter iso requests name = none →
      name ∉ {other | mapAfter iso requests other ≠ none} :=
    fun name absent present => present absent
  rw [refused_iff]
  constructor
  · rintro ⟨enables, full, absent⟩
    refine ⟨_, enables, ?_⟩
    rw [others, Set.sdiff_singleton_eq_self (outside _ absent)]
    exact full
  · rintro ⟨name, enables, count⟩
    obtain rfl := enables.2.1
    have bounded := (fallbacks_represent iso requests).slots.bounded
    rw [others] at count
    by_cases absent : mapAfter iso requests (bufferName request.systemName) = none
    · rw [Set.sdiff_singleton_eq_self (outside _ absent)] at count
      exact ⟨enables, count, absent⟩
    · rw [Set.ncard_sdiff_singleton_of_mem absent] at count
      unfold maxFallbackSlots at count bounded
      omega

/-- After every run of requests the table is a map from the names enabled at some time to what the
last request asked for each. -/
theorem fallbacks_refine (requests : List (SetTrackingSystemFallback Vec Rot)) :
    (fallbacksAfter iso requests).Refines iso requests := by
  have represents := fallbacks_represent iso requests
  refine ⟨?_, ?_, ?_, ?_, refused_iff_others iso requests⟩
  · intro first second firstUsed secondUsed same
    exact represents.slots.unique first second _ _ _ (held_some.mpr ⟨firstUsed, same, rfl⟩)
      (held_some.mpr ⟨secondUsed, rfl, rfl⟩)
  · intro name plain
    rw [found_iff represents plain, mapAfter_iff]
  · intro name slot plain found
    exact (held_some.mp (findFallbackSlot_some plain found)).2.1
  · intro name slot plain found
    exact mapAfter_carries iso requests name _ (map_of_found represents plain found)

end Table

/-! ### Names that are no longer enabled -/

/-- A request for the name of one letter. -/
def letterRequest (letter : UInt8) (enabled : Bool) : SetTrackingSystemFallback Int Int where
  systemName := [letter]
  enabled := enabled
  translation := 0
  rotation := 0

/-- Eight names are enabled and then disabled again. -/
def disabledNames : List (SetTrackingSystemFallback Int Int) :=
  (ascii "abcdefgh").map (letterRequest · true) ++ (ascii "abcdefgh").map (letterRequest · false)

/-- A ninth name is refused while no name is enabled. -/
theorem disabled_names_fill_table :
    Refused ⟨0, 0⟩ disabledNames (letterRequest 105 true) ∧
      ¬maxFallbackSlots ≤
        ((fallbacksAfter ⟨0, 0⟩ disabledNames).enabledNames.filter (· ≠ [105])).length := by
  unfold Refused
  decide +kernel

end PairDriver.Provider
