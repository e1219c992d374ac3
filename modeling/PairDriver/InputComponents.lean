/-
This file models the components of the input devices as the driver keeps them: the axis
roles read off their paths, the registration that pairs the two axes of a stick, and the
wipe of the passive statistics.

A component is entered under its handle when a device creates it, and an entry is never
removed. Registering a handle again overwrites its entry. The search for the other axis
of a stick runs over a hash table, so the order in which it meets the components is part
of a registration here, and so is what the query of the serial number comes to. Of the
scalar statistics only what the registration touches is modelled.
-/

import PairDriver.InputCompensation

namespace PairDriver.InputHealth

/-! ### Axis roles -/

inductive AxisRole where
  | unpaired
  | stickX
  | stickY
deriving DecidableEq

/-- `ClassifyAxisRole`: the role of a path and its stem. -/
def classifyAxisRole (path : Text) : AxisRole × Text :=
  let slash := path.getD (path.length - 2) 0
  let axis := path.getD (path.length - 1) 0
  if path.length < 2 then (.unpaired, path)
  else if [slash, axis] = ascii "/x" ∨ [slash, axis] = ascii "/X" then
    (.stickX, path.take (path.length - 2))
  else if [slash, axis] = ascii "/y" ∨ [slash, axis] = ascii "/Y" then
    (.stickY, path.take (path.length - 2))
  else (.unpaired, path)

def pathRole (path : Text) : AxisRole :=
  (classifyAxisRole path).1

def pathStem (path : Text) : Text :=
  (classifyAxisRole path).2

/-- The role `FindStickPartner_locked` looks for. -/
def AxisRole.complement (role : AxisRole) : AxisRole :=
  if role = .stickX then .stickY else .stickX

/-! ### Components -/

structure ComponentStats where
  path : Text := []
  isScalar : Bool := false
  isBoolean : Bool := false
  containerHandle : UInt64 := 0
  deviceSerialHash : UInt64 := 0
  lastSerialResolveAttemptUs : UInt64 := 0
  serialResolutionLogged : Bool := false
  firstUpdateLogged : Bool := false
  lastUpdateUs : UInt64 := 0
  axisRole : AxisRole := .unpaired
  partnerHandle : UInt64 := 0
  pressCount : UInt64 := 0
  lastBoolean : Bool := false
  pendingState : Bool := false
  lastCommittedUs : UInt64 := 0
deriving DecidableEq

/-- `ComponentStatsResetPassive`. -/
def ComponentStats.resetPassive (stats : ComponentStats) : ComponentStats :=
  { stats with
    lastUpdateUs := 0
    pressCount := 0
    lastBoolean := false
    pendingState := false
    lastCommittedUs := 0
    firstUpdateLogged := false }

/-- The components by handle, `g_componentStats`. -/
abbrev Components := UInt64 → Option ComponentStats

/-- The handle `k_ulInvalidInputComponentHandle`, which no component is created with. -/
def invalidHandle : UInt64 := 0

/-! ### Registration -/

/-- What a device says of a component it creates, and what the query of its serial number comes to
then. -/
structure Creation where
  handle : UInt64
  container : UInt64
  path : Text
  serialHash : UInt64 := 0
deriving DecidableEq

/-- The entry of a boolean component. -/
def ComponentStats.asBoolean (creation : Creation) (stats : ComponentStats) : ComponentStats :=
  { stats with
    path := creation.path
    isBoolean := true
    isScalar := false
    firstUpdateLogged := false
    containerHandle := creation.container
    deviceSerialHash := creation.serialHash }

/-- The entry of a scalar component, before the search for its partner. -/
def ComponentStats.asScalar (creation : Creation) (stats : ComponentStats) : ComponentStats :=
  { stats with
    path := creation.path
    isBoolean := false
    isScalar := true
    firstUpdateLogged := false
    axisRole := pathRole creation.path
    partnerHandle := 0
    containerHandle := creation.container
    deviceSerialHash := creation.serialHash }

def ComponentStats.linkTo (partner : UInt64) (stats : ComponentStats) : ComponentStats :=
  { stats with partnerHandle := partner }

/-- A component is the other axis of a stick, given by stem, role and container. -/
def ComponentStats.isPeer (stem : Text) (role : AxisRole) (container : UInt64)
    (peer : ComponentStats) : Bool :=
  peer.isScalar && peer.axisRole == role.complement && peer.containerHandle == container &&
    pathStem peer.path == stem

/-- `FindStickPartner_locked`, over the components in some order. -/
def Components.findStickPartner (components : Components) (order : List UInt64) (stem : Text)
    (role : AxisRole) (container : UInt64) : UInt64 :=
  (order.find? fun handle =>
    (components handle).any (ComponentStats.isPeer stem role container)).getD 0

def Components.write (components : Components) (handle : UInt64)
    (change : ComponentStats → ComponentStats) : Components :=
  Function.update components handle (some (change ((components handle).getD {})))

theorem write_self (components : Components) (handle : UInt64)
    (change : ComponentStats → ComponentStats) :
    components.write handle change handle = some (change ((components handle).getD {})) :=
  Function.update_self _ _ _

theorem write_other (components : Components) {handle other : UInt64}
    (change : ComponentStats → ComponentStats) (different : other ≠ handle) :
    components.write handle change other = components other :=
  Function.update_of_ne different _ _

/-- `RegisterBooleanComponent`. -/
def Components.registerBoolean (components : Components) (creation : Creation) : Components :=
  components.write creation.handle (.asBoolean creation)

/-- The components after a scalar is entered, before the search for its partner. -/
def Components.enterScalar (components : Components) (creation : Creation) : Components :=
  components.write creation.handle (.asScalar creation)

/-- The partner the search finds for a scalar, or 0. Only an axis of a stick is searched for. -/
def Components.partnerFor (components : Components) (creation : Creation) (order : List UInt64) :
    UInt64 :=
  if pathRole creation.path = .unpaired then 0
  else
    (components.enterScalar creation).findStickPartner order (pathStem creation.path)
      (pathRole creation.path) creation.container

/-- `RegisterScalarComponent`, which meets the components in some order. -/
def Components.registerScalar (components : Components) (creation : Creation)
    (order : List UInt64) : Components :=
  let entered := components.enterScalar creation
  let partner := components.partnerFor creation order
  if partner = 0 then entered
  else
    (entered.write creation.handle (.linkTo partner)).write partner (.linkTo creation.handle)

inductive Registration where
  | boolean (creation : Creation)
  | scalar (creation : Creation) (order : List UInt64)

def Registration.creation : Registration → Creation
  | .boolean creation => creation
  | .scalar creation _ => creation

/-- What the hooks of component creation do: a component without a valid handle is not registered. -/
def Components.register (components : Components) (registration : Registration) : Components :=
  if registration.creation.handle = invalidHandle then components
  else
    match registration with
    | .boolean creation => components.registerBoolean creation
    | .scalar creation order => components.registerScalar creation order

/-- No component is registered yet. -/
def noComponents : Components :=
  fun _ => none

end PairDriver.InputHealth
