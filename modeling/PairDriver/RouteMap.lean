/-
This file says what the route table is for: the active routes are a finite map from
subscriber to pattern. A subscription sets the pattern of its subscriber unless the table
is full and the subscriber is new, a cancellation removes it, and an address is counted
by exactly the routes that match it.

A subscription can also be sent as disabled, which the request documents and the handler
does not read. The table follows the map exactly in the runs in which every disabled
subscription is refused anyway, because it meets a full table and a new subscriber.
-/

import PairDriver.OscRouter
import PairDriver.SlotMap

namespace PairDriver.Router

open Osc PubPipe

/-! ### Requests and the map -/

/-- What is asked of the table: the requests of the overlay, and the address of a packet that
was sent. -/
inductive RouteRequest where
  | subscribe (request : OscRouteSubscribe)
  | unsubscribe (id : UInt32)
  | dispatch (address : List UInt8) (qpcTick : UInt64)

/-- The response to a request and the table after it. -/
def RouteTable.handle (table : RouteTable) : RouteRequest → Bool × RouteTable
  | .subscribe request => table.handleSubscribe request
  | .unsubscribe id => table.handleUnsubscribe id
  | .dispatch address qpcTick => (true, table.dispatch address qpcTick)

/-- The patterns of the subscribers. -/
abbrev RouteMap := UInt32 → Option (List UInt8)

/-- The map has as many subscribers as the table has slots. -/
def RouteMap.Full (map : RouteMap) : Prop :=
  SlotMap.Full kMaxRoutes map

open Classical in
/-- The map after a request. A disabled subscription leaves its subscriber without a route. -/
noncomputable def RouteMap.after (map : RouteMap) : RouteRequest → RouteMap
  | .subscribe request =>
    if map.Full ∧ map request.subscriberId = none then map
    else if request.enabled = 0 then Function.update map request.subscriberId none
    else
      Function.update map request.subscriberId (some (copyText routeAddrLen request.pattern))
  | .unsubscribe id => Function.update map id none
  | .dispatch _ _ => map

/-- A slot holds the active route of a subscriber. -/
def RouteTable.Holds (table : RouteTable) (slot : Fin kMaxRoutes) (id : UInt32) : Prop :=
  (table.entries slot).active = true ∧ (table.entries slot).subscriberId = id

/-- The subscriber and the pattern of an active route. -/
def RouteEntry.route (entry : RouteEntry) : Option (UInt32 × List UInt8) :=
  if entry.active then some (entry.subscriberId, entry.pattern) else none

def RouteTable.routes (table : RouteTable) : Fin kMaxRoutes → Option (UInt32 × List UInt8) :=
  fun slot => (table.entries slot).route

/-- The active routes are the map, with one slot for each subscriber, and there are no more
subscribers than slots. -/
structure RouteTable.Represents (table : RouteTable) (map : RouteMap) : Prop where
  slots : SlotMap.Represents table.routes map
  bounded : {id | map id ≠ none}.ncard ≤ kMaxRoutes

/-- What a request does to a table that represents a map. -/
def RouteTable.StepFollows (table : RouteTable) (map : RouteMap) : RouteRequest → Prop
  | .subscribe request =>
    ((table.handleSubscribe request).1 = false ↔
        map.Full ∧ map request.subscriberId = none) ∧
      (request.enabled = 0 → ∀ slot, ¬(table.handleSubscribe request).2.Holds slot
        request.subscriberId)
  | .unsubscribe _ => True
  | .dispatch address qpcTick =>
    ∀ slot, ((table.dispatch address qpcTick).entries slot).matchCount =
      if (table.entries slot).active = true ∧
          oscPatternMatch (table.entries slot).pattern address = true then
        (table.entries slot).matchCount + 1
      else (table.entries slot).matchCount

/-- The table represents the map at every point of a run, and every step follows it. -/
def RouteTable.Follows : RouteTable → RouteMap → List RouteRequest → Prop
  | table, map, [] => table.Represents map
  | table, map, request :: rest =>
    table.Represents map ∧ table.StepFollows map request ∧
      (table.handle request).2.Follows (map.after request) rest

/-- A disabled subscription meets a full table in which its subscriber has no route. -/
def RouteTable.Refuses (table : RouteTable) : RouteRequest → Prop
  | .subscribe request =>
    request.enabled = 0 → table.findSlot request.subscriberId = none ∧ table.findFreeSlot = none
  | .unsubscribe _ => True
  | .dispatch _ _ => True

/-- Every disabled subscription of a run is refused. -/
def RouteTable.RefusesDisabled : RouteTable → List RouteRequest → Prop
  | _, [] => True
  | table, request :: rest => table.Refuses request ∧ (table.handle request).2.RefusesDisabled rest

/-! ### Slots -/

theorem findSlot_some {table : RouteTable} {id : UInt32} {slot : Fin kMaxRoutes}
    (found : table.findSlot id = some slot) : table.Holds slot id := by
  have holds := List.find?_some found
  simp only [Bool.and_eq_true, beq_iff_eq] at holds
  exact holds

theorem findSlot_none {table : RouteTable} {id : UInt32} :
    table.findSlot id = none ↔ ∀ slot, ¬table.Holds slot id := by
  rw [RouteTable.findSlot, List.find?_eq_none]
  simp only [List.mem_finRange, true_implies, Bool.and_eq_true, beq_iff_eq, RouteTable.Holds]

theorem findFreeSlot_some {table : RouteTable} {slot : Fin kMaxRoutes}
    (found : table.findFreeSlot = some slot) : (table.entries slot).active = false := by
  have free := List.find?_some found
  simpa using free

theorem findFreeSlot_none {table : RouteTable} :
    table.findFreeSlot = none ↔ ∀ slot, (table.entries slot).active = true := by
  rw [RouteTable.findFreeSlot, List.find?_eq_none]
  simp only [List.mem_finRange, true_implies, Bool.not_eq_true', Bool.not_eq_false]

theorem route_some {entry : RouteEntry} {id : UInt32} {pattern : List UInt8} :
    entry.route = some (id, pattern) ↔
      entry.active = true ∧ entry.subscriberId = id ∧ entry.pattern = pattern := by
  unfold RouteEntry.route
  by_cases active : entry.active = true
  · rw [if_pos active, Option.some.injEq, Prod.mk.injEq]
    exact (and_iff_right active).symm
  · rw [if_neg active]
    exact iff_of_false (fun broken => nomatch broken) fun route => active route.1

theorem holds_iff {table : RouteTable} {slot : Fin kMaxRoutes} {id : UInt32} :
    table.Holds slot id ↔ ∃ pattern, table.routes slot = some (id, pattern) := by
  constructor
  · intro holds
    exact ⟨_, route_some.mpr ⟨holds.1, holds.2, rfl⟩⟩
  · rintro ⟨pattern, route⟩
    exact ⟨(route_some.mp route).1, (route_some.mp route).2.1⟩

theorem routes_set (table : RouteTable) (slot : Fin kMaxRoutes) (entry : RouteEntry) :
    (table.set slot entry).routes = Function.update table.routes slot entry.route := by
  funext other
  by_cases here : other = slot
  · rw [here, Function.update_self, RouteTable.routes, set_entries_self]
  · rw [Function.update_of_ne here, RouteTable.routes, set_entries_other table entry here]
    rfl

/-- The map is full exactly if no slot is free. -/
theorem represents_full {table : RouteTable} {map : RouteMap}
    (represents : table.Represents map) : map.Full ↔ table.findFreeSlot = none := by
  rw [RouteMap.Full, represents.slots.full_iff, findFreeSlot_none]
  refine forall_congr' fun slot => ?_
  show (table.entries slot).route ≠ none ↔ _
  unfold RouteEntry.route
  by_cases active : (table.entries slot).active = true
  · rw [if_pos active]
    exact iff_of_true (Option.some_ne_none _) active
  · rw [if_neg active]
    exact iff_of_false (fun broken => broken rfl) active

/-! ### What a request does to the map -/

/-- A write to a slot that is free or its subscriber's own, and the only one of his. -/
theorem set_represents {table : RouteTable} {map : RouteMap} (represents : table.Represents map)
    (slot : Fin kMaxRoutes) (entry : RouteEntry) (id : UInt32) (pattern : Option (List UInt8))
    (owner : ∀ other, table.Holds slot other → other = id)
    (alone : ∀ other, table.Holds other id → other = slot)
    (written : entry.route = pattern.map fun text => (id, text)) :
    (table.set slot entry).Represents (Function.update map id pattern) := by
  have slots := represents.slots.write slot id pattern
    (fun other held route => owner other (holds_iff.mpr ⟨held, route⟩))
    (fun other held route => alone other (holds_iff.mpr ⟨held, route⟩))
  rw [← written, ← routes_set] at slots
  exact ⟨slots, slots.bounded⟩

/-- No subscriber has two slots. -/
theorem holds_unique {table : RouteTable} {map : RouteMap} (represents : table.Represents map)
    {first second : Fin kMaxRoutes} {id : UInt32} (firstHolds : table.Holds first id)
    (secondHolds : table.Holds second id) : first = second := by
  obtain ⟨firstPattern, firstRoute⟩ := holds_iff.mp firstHolds
  obtain ⟨secondPattern, secondRoute⟩ := holds_iff.mp secondHolds
  exact represents.slots.unique first second id firstPattern secondPattern firstRoute secondRoute

/-- The slot a subscription writes is free or the subscriber's own, and no other slot is his. -/
theorem subscribeSlot_some {table : RouteTable} {map : RouteMap}
    (represents : table.Represents map) {id : UInt32} {slot : Fin kMaxRoutes}
    (found : table.subscribeSlot id = some slot) :
    (∀ other, table.Holds slot other → other = id) ∧
      ∀ other, table.Holds other id → other = slot := by
  unfold RouteTable.subscribeSlot at found
  split at found
  · rename_i own ownFound
    obtain rfl := Option.some.inj found
    have holds := findSlot_some ownFound
    exact ⟨fun other otherHolds => otherHolds.2.symm.trans holds.2,
      fun other otherHolds => holds_unique represents otherHolds holds⟩
  · rename_i missing
    have free := findFreeSlot_some found
    refine ⟨fun other holds => ?_, fun other holds => absurd holds (findSlot_none.mp missing other)⟩
    exact absurd (holds.1.symm.trans free) (by decide)

theorem subscribeSlot_none {table : RouteTable} {id : UInt32} :
    table.subscribeSlot id = none ↔ table.findSlot id = none ∧ table.findFreeSlot = none := by
  unfold RouteTable.subscribeSlot
  cases table.findSlot id with
  | none => exact ⟨fun free => ⟨rfl, free⟩, And.right⟩
  | some slot =>
    exact iff_of_false (Option.some_ne_none slot) fun both => Option.some_ne_none slot both.1

/-- A subscriber without a slot has no pattern. -/
theorem map_none_iff {table : RouteTable} {map : RouteMap} (represents : table.Represents map)
    (id : UInt32) : map id = none ↔ table.findSlot id = none := by
  rw [findSlot_none, represents.slots.none_iff]
  refine forall_congr' fun slot => ?_
  rw [holds_iff, not_exists]

/-- A subscription is refused exactly if the map is full and the subscriber new. -/
theorem subscribe_refused_iff {table : RouteTable} {map : RouteMap}
    (represents : table.Represents map) (id : UInt32) (pattern label : List UInt8) :
    (table.subscribe id pattern label).1 = false ↔ map.Full ∧ map id = none := by
  rw [represents_full represents, map_none_iff represents, And.comm, ← subscribeSlot_none,
    RouteTable.subscribe]
  cases table.subscribeSlot id with
  | none => exact iff_of_true rfl rfl
  | some slot => exact iff_of_false (Ne.symm Bool.false_ne_true) (Option.some_ne_none slot)

/-- An accepted subscription leaves the subscriber with the pattern it brings. -/
theorem subscribe_represents {table : RouteTable} {map : RouteMap}
    (represents : table.Represents map) {id : UInt32} {slot : Fin kMaxRoutes}
    (found : table.subscribeSlot id = some slot) (pattern label : List UInt8) :
    (table.set slot (routeEntry id pattern label)).Represents
      (Function.update map id (some (copyText routeAddrLen pattern))) := by
  obtain ⟨owner, alone⟩ := subscribeSlot_some represents found
  exact set_represents represents slot (routeEntry id pattern label) id
    (some (copyText routeAddrLen pattern)) owner alone rfl

theorem unsubscribe_represents {table : RouteTable} {map : RouteMap}
    (represents : table.Represents map) (id : UInt32) :
    (table.unsubscribe id).Represents (Function.update map id none) := by
  unfold RouteTable.unsubscribe
  split
  · rename_i slot found
    have holds := findSlot_some found
    exact set_represents represents slot { table.entries slot with active := false } id none
      (fun other otherHolds => otherHolds.2.symm.trans holds.2)
      (fun other otherHolds => holds_unique represents otherHolds holds) rfl
  · rename_i missing
    have absent := (map_none_iff represents id).mpr missing
    rw [← absent, Function.update_eq_self]
    exact represents

theorem dispatch_represents {table : RouteTable} {map : RouteMap}
    (represents : table.Represents map) (address : List UInt8) (qpcTick : UInt64) :
    (table.dispatch address qpcTick).Represents map := by
  have kept : (table.dispatch address qpcTick).routes = table.routes := by
    funext slot
    unfold RouteTable.dispatch RouteTable.bump RouteTable.routes
    dsimp only
    split_ifs <;> rfl
  exact ⟨kept ▸ represents.slots, represents.bounded⟩

/-- An address is counted by exactly the active routes that match it. -/
theorem dispatch_counts (table : RouteTable) (address : List UInt8) (qpcTick : UInt64)
    (slot : Fin kMaxRoutes) :
    ((table.dispatch address qpcTick).entries slot).matchCount =
      if (table.entries slot).active = true ∧
          oscPatternMatch (table.entries slot).pattern address = true then
        (table.entries slot).matchCount + 1
      else (table.entries slot).matchCount := by
  unfold RouteTable.dispatch RouteTable.bump RouteEntry.routes
  dsimp only
  by_cases matched : (table.entries slot).active = true ∧
      oscPatternMatch (table.entries slot).pattern address = true
  · rw [if_pos (Bool.and_eq_true_iff.mpr matched), if_pos matched]
  · rw [if_neg (mt Bool.and_eq_true_iff.mp matched), if_neg matched]

/-! ### Runs -/

/-- A step that is not a disabled subscription that is accepted follows the map. -/
theorem step_follows {table : RouteTable} {map : RouteMap} (represents : table.Represents map)
    (request : RouteRequest) (refuses : table.Refuses request) :
    table.StepFollows map request ∧ (table.handle request).2.Represents (map.after request) := by
  cases request with
  | subscribe request =>
    have refused := subscribe_refused_iff represents request.subscriberId request.pattern
      (ascii "sub-" ++ decimalText request.subscriberId.toNat)
    unfold RouteTable.Refuses at refuses
    refine ⟨⟨refused, fun disabled => ?_⟩, ?_⟩
    · obtain ⟨missing, free⟩ := refuses disabled
      have refusedSlot := subscribeSlot_none.mpr ⟨missing, free⟩
      unfold RouteTable.handleSubscribe RouteTable.subscribe
      rw [refusedSlot]
      exact findSlot_none.mp missing
    · show (table.subscribe request.subscriberId request.pattern _).2.Represents
        (map.after (.subscribe request))
      rw [RouteMap.after]
      unfold RouteTable.subscribe at refused ⊢
      cases found : table.subscribeSlot request.subscriberId with
      | none =>
        rw [found] at refused
        rw [if_pos (refused.mp rfl)]
        exact represents
      | some slot =>
        rw [found] at refused
        rw [if_neg fun full => nomatch refused.mpr full]
        have enabled : ¬request.enabled = 0 := by
          intro disabled
          rw [subscribeSlot_none.mpr (refuses disabled)] at found
          exact nomatch found
        rw [if_neg enabled]
        exact subscribe_represents represents found request.pattern _
  | unsubscribe id => exact ⟨trivial, unsubscribe_represents represents id⟩
  | dispatch address qpcTick =>
    exact ⟨dispatch_counts table address qpcTick, dispatch_represents represents address qpcTick⟩

/-- A step that follows the map is not a disabled subscription that is accepted. -/
theorem refuses_of_follows {table : RouteTable} {map : RouteMap} (request : RouteRequest)
    (follows : table.StepFollows map request) : table.Refuses request := by
  cases request with
  | subscribe request =>
    intro disabled
    have gone := follows.2 disabled
    unfold RouteTable.handleSubscribe RouteTable.subscribe at gone
    cases found : table.subscribeSlot request.subscriberId with
    | none => exact subscribeSlot_none.mp found
    | some slot =>
      rw [found] at gone
      refine absurd ?_ (gone slot)
      show ((table.set slot _).entries slot).active = true ∧
        ((table.set slot _).entries slot).subscriberId = request.subscriberId
      rw [set_entries_self]
      exact ⟨rfl, rfl⟩
  | unsubscribe id => trivial
  | dispatch address qpcTick => trivial

theorem follows_iff {table : RouteTable} {map : RouteMap} (represents : table.Represents map)
    (requests : List RouteRequest) : table.Follows map requests ↔ table.RefusesDisabled requests := by
  induction requests generalizing table map with
  | nil => exact iff_of_true represents trivial
  | cons request rest inductionHypothesis =>
    constructor
    · rintro ⟨-, follows, later⟩
      have refuses := refuses_of_follows request follows
      exact ⟨refuses, (inductionHypothesis (step_follows represents request refuses).2).mp later⟩
    · rintro ⟨refuses, later⟩
      obtain ⟨follows, next⟩ := step_follows represents request refuses
      exact ⟨represents, follows, (inductionHypothesis next).mpr later⟩

/-- A fresh table represents the empty map. -/
theorem fresh_represents {table : RouteTable}
    (fresh : ∀ slot, (table.entries slot).active = false) : table.Represents fun _ => none := by
  have free : ∀ slot, table.routes slot = none := fun slot =>
    if_neg (ne_true_of_eq_false (fresh slot))
  exact ⟨SlotMap.represents_empty free, (SlotMap.represents_empty free).bounded⟩

/-- The table follows the map of its subscribers in every run in which disabled subscriptions are
refused, and in no other. -/
theorem routes_follow_map (table : RouteTable)
    (fresh : ∀ slot, (table.entries slot).active = false) (requests : List RouteRequest) :
    table.Follows (fun _ => none) requests ↔ table.RefusesDisabled requests :=
  follows_iff (fresh_represents fresh) requests

theorem routes_follow_subscriptions :
    emptyTable.Follows (fun _ => none)
      [.subscribe ⟨7, 1, ascii "/a/*"⟩, .subscribe ⟨7, 1, ascii "/b/*"⟩, .dispatch (ascii "/b/c") 5,
        .unsubscribe 7] :=
  (routes_follow_map emptyTable (fun _ => rfl) _).mpr
    ⟨fun disabled => absurd disabled (by decide), fun disabled => absurd disabled (by decide),
      trivial, trivial, trivial⟩

/-- A disabled subscription makes a route that is active. -/
theorem disabled_subscription_is_active :
    ¬emptyTable.Follows (fun _ => none) [.subscribe ⟨7, 0, ascii "/a/*"⟩] := by
  rintro ⟨-, ⟨-, gone⟩, -⟩
  exact gone rfl ⟨0, by decide⟩ (by unfold RouteTable.Holds; decide +kernel)

end PairDriver.Router
