/-
This file proves when the two axes of a stick point at each other. A registration clears
the partner of the component it enters and links it with the one the search finds, but it
does not unlink a former partner on either side, and a button that is entered under the
handle of an axis keeps its link.

The pairing holds throughout a run exactly if every registration of a paired handle finds
the same partner again, a button keeps its container and its stem, and no search finds an
axis that already has another partner.
-/

import PairDriver.InputComponents

namespace PairDriver.InputHealth

/-! ### The pairing -/

/-- Two components have the roles of the two axes of a stick. -/
def ComplementaryRoles (stats partner : ComponentStats) : Prop :=
  stats.axisRole = .stickX ∧ partner.axisRole = .stickY ∨
    stats.axisRole = .stickY ∧ partner.axisRole = .stickX

/-- The partner of every component that has one is registered, points back, and is the other axis
of the same stick. -/
def Components.Paired (components : Components) : Prop :=
  ∀ handle stats, components handle = some stats → stats.partnerHandle ≠ 0 →
    ∃ partner, components stats.partnerHandle = some partner ∧ partner.partnerHandle = handle ∧
      partner.containerHandle = stats.containerHandle ∧
      pathStem partner.path = pathStem stats.path ∧ ComplementaryRoles stats partner

/-- The components are paired at every point of a run. -/
def Components.StaysPaired : Components → List Registration → Prop
  | components, [] => components.Paired
  | components, registration :: rest =>
    components.Paired ∧ (components.register registration).StaysPaired rest

/-- The partner of a handle, or 0. -/
def Components.partnerOf (components : Components) (handle : UInt64) : UInt64 :=
  ((components handle).map ComponentStats.partnerHandle).getD 0

/-- A registration leaves no partner behind: a paired axis finds its partner again, and the partner
that is found has no other; a button on the handle of a paired axis has its container and stem. -/
def Components.KeepsPartners (components : Components) : Registration → Prop
  | .boolean creation =>
    ∀ stats, components creation.handle = some stats → stats.partnerHandle ≠ 0 →
      creation.container = stats.containerHandle ∧ pathStem creation.path = pathStem stats.path
  | .scalar creation order =>
    let found := components.partnerFor creation order
    (components.partnerOf creation.handle = 0 ∨ components.partnerOf creation.handle = found) ∧
      (found = 0 ∨ components.partnerOf found = 0 ∨ components.partnerOf found = creation.handle)

/-- Every registration of a run that is carried out leaves no partner behind. -/
def Components.AllKeepPartners : Components → List Registration → Prop
  | _, [] => True
  | components, registration :: rest =>
    (registration.creation.handle ≠ invalidHandle → components.KeepsPartners registration) ∧
      (components.register registration).AllKeepPartners rest

/-! ### What a registration writes -/

theorem partnerOf_eq {components : Components} {handle : UInt64} {stats : ComponentStats}
    (entry : components handle = some stats) :
    components.partnerOf handle = stats.partnerHandle := by
  rw [Components.partnerOf, entry]
  rfl

theorem partnerOf_ne_zero {components : Components} {handle : UInt64}
    (paired : components.partnerOf handle ≠ 0) :
    ∃ stats, components handle = some stats ∧ stats.partnerHandle = components.partnerOf handle := by
  cases entry : components handle with
  | none => exact absurd (by rw [Components.partnerOf, entry]; rfl) paired
  | some stats => exact ⟨stats, rfl, (partnerOf_eq entry).symm⟩

theorem complement_ne {role : AxisRole} (axis : role ≠ .unpaired) : role ≠ role.complement := by
  cases role with
  | unpaired => exact absurd rfl axis
  | stickX => decide
  | stickY => decide

theorem complementary_of_complement {stats partner : ComponentStats}
    (axis : stats.axisRole ≠ .unpaired) (roles : partner.axisRole = stats.axisRole.complement) :
    ComplementaryRoles stats partner := by
  cases role : stats.axisRole with
  | unpaired => exact absurd role axis
  | stickX => exact Or.inl ⟨role, by rw [roles, role]; rfl⟩
  | stickY => exact Or.inr ⟨role, by rw [roles, role]; rfl⟩

theorem ComplementaryRoles.symm {stats partner : ComponentStats}
    (roles : ComplementaryRoles stats partner) : ComplementaryRoles partner stats := by
  rcases roles with ⟨first, second⟩ | ⟨first, second⟩
  · exact Or.inr ⟨second, first⟩
  · exact Or.inl ⟨second, first⟩

/-- A component is not its own partner. -/
theorem ComplementaryRoles.ne {stats partner : ComponentStats}
    (roles : ComplementaryRoles stats partner) : stats ≠ partner := by
  rintro rfl
  rcases roles with ⟨first, second⟩ | ⟨first, second⟩
  · exact nomatch first.symm.trans second
  · exact nomatch first.symm.trans second

/-- The partner that the search finds is another component, the other axis of the stick. -/
theorem partnerFor_spec {components : Components} {creation : Creation} {order : List UInt64}
    (found : components.partnerFor creation order ≠ 0) :
    components.partnerFor creation order ≠ creation.handle ∧
      pathRole creation.path ≠ .unpaired ∧
      ∃ peer, components (components.partnerFor creation order) = some peer ∧
        peer.axisRole = (pathRole creation.path).complement ∧
        peer.containerHandle = creation.container ∧ pathStem peer.path = pathStem creation.path := by
  unfold Components.partnerFor Components.findStickPartner at found ⊢
  split at found
  · exact absurd rfl found
  rename_i axis
  rw [if_neg axis]
  cases search : order.find? fun handle =>
      ((components.enterScalar creation) handle).any
        (ComponentStats.isPeer (pathStem creation.path) (pathRole creation.path)
          creation.container) with
  | none =>
    rw [search] at found
    exact absurd rfl found
  | some handle =>
    have matched := List.find?_some search
    rw [Option.getD_some]
    cases entry : components.enterScalar creation handle with
    | none =>
      rw [entry] at matched
      exact absurd matched Bool.false_ne_true
    | some peer =>
      rw [entry, Option.any_some] at matched
      simp only [ComponentStats.isPeer, Bool.and_eq_true, beq_iff_eq] at matched
      obtain ⟨⟨⟨-, role⟩, container⟩, stem⟩ := matched
      have different : handle ≠ creation.handle := by
        rintro rfl
        rw [Components.enterScalar, write_self] at entry
        obtain rfl := Option.some.inj entry
        exact complement_ne axis role
      rw [Components.enterScalar, write_other components _ different] at entry
      exact ⟨different, axis, peer, entry, role, container, stem⟩

/-- The components after a scalar is registered: its own entry, that of the partner the search
finds, and the others as they were. -/
theorem registerScalar_self (components : Components) (creation : Creation) (order : List UInt64) :
    components.registerScalar creation order creation.handle =
      some { ((components creation.handle).getD {}).asScalar creation with
        partnerHandle := components.partnerFor creation order } := by
  unfold Components.registerScalar
  by_cases found : components.partnerFor creation order = 0
  · simp only [found]
    exact write_self _ _ _
  · simp only [if_neg found]
    rw [write_other _ _ (Ne.symm (partnerFor_spec found).1), write_self, Components.enterScalar,
      write_self]
    rfl

theorem registerScalar_partner {components : Components} {creation : Creation}
    {order : List UInt64} (found : components.partnerFor creation order ≠ 0)
    {peer : ComponentStats}
    (entry : components (components.partnerFor creation order) = some peer) :
    components.registerScalar creation order (components.partnerFor creation order) =
      some { peer with partnerHandle := creation.handle } := by
  unfold Components.registerScalar
  simp only [if_neg found]
  rw [write_self, write_other _ _ (partnerFor_spec found).1, Components.enterScalar,
    write_other _ _ (partnerFor_spec found).1, entry]
  rfl

theorem registerScalar_other {components : Components} {creation : Creation}
    (order : List UInt64) {handle : UInt64} (notOwn : handle ≠ creation.handle)
    (notPartner : components.partnerFor creation order ≠ 0 →
      handle ≠ components.partnerFor creation order) :
    components.registerScalar creation order handle = components handle := by
  unfold Components.registerScalar
  by_cases found : components.partnerFor creation order = 0
  · simp only [if_pos found]
    exact write_other _ _ notOwn
  · simp only [if_neg found]
    rw [write_other _ _ (notPartner found), write_other _ _ notOwn, Components.enterScalar,
      write_other _ _ notOwn]

/-! ### One registration -/

/-- The partner of a component is another component. -/
theorem Components.Paired.partner_ne {components : Components} (paired : components.Paired)
    {handle : UInt64} {stats : ComponentStats} (entry : components handle = some stats)
    (linked : stats.partnerHandle ≠ 0) : stats.partnerHandle ≠ handle := by
  obtain ⟨partner, partnerEntry, -, -, -, roles⟩ := paired handle stats entry linked
  intro same
  rw [same, entry] at partnerEntry
  exact roles.ne (Option.some.inj partnerEntry)

/-- The partner of a partner is the component itself. -/
theorem Components.Paired.partnerOf_partnerOf {components : Components}
    (paired : components.Paired) {handle : UInt64} (linked : components.partnerOf handle ≠ 0) :
    components.partnerOf (components.partnerOf handle) = handle := by
  obtain ⟨stats, entry, same⟩ := partnerOf_ne_zero linked
  obtain ⟨partner, partnerEntry, back, -⟩ := paired handle stats entry (same ▸ linked)
  rw [← same, partnerOf_eq partnerEntry, back]

theorem handle_ne_zero {components : Components} (valid : components invalidHandle = none)
    {handle : UInt64} {stats : ComponentStats}
    (entry : components handle = some stats) : handle ≠ 0 := by
  rintro rfl
  exact nomatch valid.symm.trans entry

/-- A button keeps the pairing exactly if it keeps the container and the stem of a paired axis. -/
theorem registerBoolean_paired_iff {components : Components}
    (valid : components invalidHandle = none) (paired : components.Paired) (creation : Creation) :
    (components.registerBoolean creation).Paired ↔
      components.KeepsPartners (.boolean creation) := by
  have own := write_self components creation.handle (.asBoolean creation)
  have other : ∀ {handle}, handle ≠ creation.handle →
      components.registerBoolean creation handle = components handle :=
    fun different => write_other components _ different
  constructor
  · intro after stats entry linked
    rw [entry] at own
    obtain ⟨partner, partnerEntry, -, container, stem, roles⟩ :=
      after creation.handle _ own linked
    obtain ⟨before, beforeEntry, -, beforeContainer, beforeStem, -⟩ :=
      paired creation.handle stats entry linked
    have kept := (other (paired.partner_ne entry linked)).symm.trans partnerEntry
    obtain rfl := Option.some.inj (beforeEntry.symm.trans kept)
    exact ⟨container.symm.trans beforeContainer, stem.symm.trans beforeStem⟩
  · intro keeps handle stats entry linked
    by_cases here : handle = creation.handle
    · subst here
      obtain rfl := Option.some.inj (own.symm.trans entry)
      cases before : components creation.handle with
      | none =>
        rw [before] at linked
        exact absurd rfl linked
      | some former =>
        rw [before] at linked
        obtain ⟨sameContainer, sameStem⟩ := keeps former before linked
        obtain ⟨partner, partnerEntry, back, container, stem, roles⟩ :=
          paired creation.handle former before linked
        exact ⟨partner, (other (paired.partner_ne before linked)).trans partnerEntry, back,
          container.trans sameContainer.symm, stem.trans sameStem.symm, roles⟩
    · rw [other here] at entry
      obtain ⟨partner, partnerEntry, back, container, stem, roles⟩ :=
        paired handle stats entry linked
      by_cases partnerHere : stats.partnerHandle = creation.handle
      · rw [partnerHere] at partnerEntry ⊢
        rw [partnerEntry] at own
        have nonzero : partner.partnerHandle ≠ 0 := by
          rw [back]
          exact handle_ne_zero valid entry
        obtain ⟨sameContainer, sameStem⟩ := keeps partner partnerEntry nonzero
        exact ⟨_, own, back, sameContainer.trans container, sameStem.trans stem, roles⟩
      · exact ⟨partner, (other partnerHere).trans partnerEntry, back, container, stem, roles⟩

/-- A paired axis that is entered again must find its partner, or the partner keeps pointing at
it. -/
theorem own_partner_kept {components : Components} (paired : components.Paired)
    {creation : Creation} {order : List UInt64}
    (after : (components.registerScalar creation order).Paired)
    (nonzero : creation.handle ≠ 0) (linked : components.partnerOf creation.handle ≠ 0) :
    components.partnerOf creation.handle = components.partnerFor creation order := by
  by_contra lost
  obtain ⟨stats, entry, same⟩ := partnerOf_ne_zero linked
  have statsLinked : stats.partnerHandle ≠ 0 := same ▸ linked
  obtain ⟨partner, partnerEntry, back, -⟩ := paired creation.handle stats entry statsLinked
  have different := paired.partner_ne entry statsLinked
  have kept := (registerScalar_other order different
    fun _ => same ▸ lost).trans partnerEntry
  obtain ⟨mirror, mirrorEntry, mirrorBack, -⟩ := after stats.partnerHandle partner kept
    (back ▸ nonzero)
  rw [back, registerScalar_self] at mirrorEntry
  obtain rfl := Option.some.inj mirrorEntry
  exact lost (same.symm.trans mirrorBack.symm)

/-- A partner that is found must have no other, or the other keeps pointing at it. -/
theorem found_partner_free {components : Components} (paired : components.Paired)
    {creation : Creation} {order : List UInt64}
    (after : (components.registerScalar creation order).Paired)
    (found : components.partnerFor creation order ≠ 0)
    (linked : components.partnerOf (components.partnerFor creation order) ≠ 0) :
    components.partnerOf (components.partnerFor creation order) = creation.handle := by
  by_contra lost
  obtain ⟨stats, entry, same⟩ := partnerOf_ne_zero linked
  have statsLinked : stats.partnerHandle ≠ 0 := same ▸ linked
  obtain ⟨partner, partnerEntry, back, -⟩ := paired _ stats entry statsLinked
  have different := paired.partner_ne entry statsLinked
  have kept := (registerScalar_other order (same ▸ lost)
    fun _ => different).trans partnerEntry
  obtain ⟨mirror, mirrorEntry, mirrorBack, -⟩ := after stats.partnerHandle partner kept
    (back ▸ found)
  rw [back, registerScalar_partner found entry] at mirrorEntry
  obtain rfl := Option.some.inj mirrorEntry
  exact lost (same.symm.trans mirrorBack.symm)

/-- A scalar keeps the pairing exactly if it leaves no partner behind. -/
theorem registerScalar_paired_iff {components : Components}
    (valid : components invalidHandle = none) (paired : components.Paired) (creation : Creation)
    (order : List UInt64) (nonzero : creation.handle ≠ 0) :
    (components.registerScalar creation order).Paired ↔
      components.KeepsPartners (.scalar creation order) := by
  constructor
  · intro after
    refine ⟨?_, ?_⟩
    · exact or_iff_not_imp_left.mpr (own_partner_kept paired after nonzero)
    · refine or_iff_not_imp_left.mpr fun found => or_iff_not_imp_left.mpr fun linked => ?_
      exact found_partner_free paired after found linked
  · rintro ⟨ownKept, partnerFree⟩ handle stats entry linked
    by_cases here : handle = creation.handle
    · subst here
      rw [registerScalar_self] at entry
      obtain rfl := Option.some.inj entry
      obtain ⟨different, axis, peer, peerEntry, role, container, stem⟩ := partnerFor_spec linked
      exact ⟨_, registerScalar_partner linked peerEntry, rfl, container, stem,
        complementary_of_complement axis role⟩
    by_cases there : components.partnerFor creation order ≠ 0 ∧
        handle = components.partnerFor creation order
    · obtain ⟨found, rfl⟩ := there
      obtain ⟨different, axis, peer, peerEntry, role, container, stem⟩ := partnerFor_spec found
      rw [registerScalar_partner found peerEntry] at entry
      obtain rfl := Option.some.inj entry
      refine ⟨_, registerScalar_self components creation order, rfl, container.symm, stem.symm, ?_⟩
      exact (complementary_of_complement axis role).symm
    · have notFound := fun found same => there ⟨found, same⟩
      rw [registerScalar_other order here notFound] at entry
      obtain ⟨partner, partnerEntry, back, rest⟩ := paired handle stats entry linked
      have registered := handle_ne_zero valid entry
      have pointsBack : components.partnerOf stats.partnerHandle = handle :=
        (partnerOf_eq partnerEntry).trans back
      have notOwn : stats.partnerHandle ≠ creation.handle := by
        intro same
        rw [← same, pointsBack] at ownKept
        rcases ownKept with zero | found
        · exact registered zero
        · exact there ⟨found ▸ registered, found⟩
      have notPartner : stats.partnerHandle ≠ components.partnerFor creation order := by
        intro same
        rw [← same, pointsBack] at partnerFree
        rcases partnerFree with zero | zero | own
        · exact linked zero
        · exact registered zero
        · exact here own
      have partnerKept := registerScalar_other order notOwn fun _ => notPartner
      exact ⟨partner, partnerKept.trans partnerEntry, back, rest⟩

/-! ### Runs -/

/-- No component is registered without a valid handle. -/
theorem register_valid {components : Components} (valid : components invalidHandle = none)
    (registration : Registration) :
    components.register registration invalidHandle = none := by
  unfold Components.register
  by_cases missing : registration.creation.handle = invalidHandle
  · rw [if_pos missing]
    exact valid
  · rw [if_neg missing]
    cases registration with
    | boolean creation => exact (write_other _ _ (Ne.symm missing)).trans valid
    | scalar creation order =>
      exact (registerScalar_other order (Ne.symm missing) Ne.symm).trans valid

/-- A registration keeps the pairing exactly if it is not carried out or leaves no partner
behind. -/
theorem register_paired_iff {components : Components} (valid : components invalidHandle = none)
    (paired : components.Paired) (registration : Registration) :
    (components.register registration).Paired ↔
      (registration.creation.handle ≠ invalidHandle → components.KeepsPartners registration) := by
  unfold Components.register
  by_cases missing : registration.creation.handle = invalidHandle
  · rw [if_pos missing]
    exact iff_of_true paired fun present => absurd missing present
  · rw [if_neg missing]
    cases registration with
    | boolean creation =>
      exact (registerBoolean_paired_iff valid paired creation).trans (imp_iff_right missing).symm
    | scalar creation order =>
      exact (registerScalar_paired_iff valid paired creation order missing).trans
        (imp_iff_right missing).symm

theorem staysPaired_iff {components : Components} (valid : components invalidHandle = none)
    (paired : components.Paired) (registrations : List Registration) :
    components.StaysPaired registrations ↔ components.AllKeepPartners registrations := by
  induction registrations generalizing components with
  | nil => exact iff_of_true paired trivial
  | cons registration rest inductionHypothesis =>
    have next := register_paired_iff valid paired registration
    have nextValid := register_valid valid registration
    constructor
    · rintro ⟨-, later⟩
      have after : (components.register registration).Paired := by
        cases rest with
        | nil => exact later
        | cons following more => exact later.1
      exact ⟨next.mp after, (inductionHypothesis nextValid after).mp later⟩
    · rintro ⟨keeps, later⟩
      exact ⟨paired, (inductionHypothesis nextValid (next.mpr keeps)).mpr later⟩

theorem noComponents_paired : noComponents.Paired :=
  fun _ _ entry => nomatch entry

/-- The axes of the sticks stay paired in exactly the runs in which every registration leaves no
partner behind. -/
theorem sticks_stay_paired_iff (registrations : List Registration) :
    noComponents.StaysPaired registrations ↔ noComponents.AllKeepPartners registrations :=
  staysPaired_iff rfl noComponents_paired registrations

/-- A device enters the two axes of a stick, and then the first one again under a new handle. -/
def reenteredAxis : List Registration :=
  [.scalar ⟨1, 7, ascii "/input/joystick/x", 0⟩ [1],
    .scalar ⟨2, 7, ascii "/input/joystick/y", 0⟩ [2, 1],
    .scalar ⟨3, 7, ascii "/input/joystick/x", 0⟩ [3, 2, 1]]

/-- The old handle of the axis keeps a partner that points at the new one. -/
theorem reentered_axis_keeps_partner : ¬noComponents.StaysPaired reenteredAxis := by
  rintro ⟨-, -, -, last⟩
  have paired : (reenteredAxis.foldl Components.register noComponents).Paired := last
  have linked : (reenteredAxis.foldl Components.register noComponents).partnerOf 1 ≠ 0 := by
    decide +kernel
  exact absurd (paired.partnerOf_partnerOf linked) (by decide +kernel)

end PairDriver.InputHealth
