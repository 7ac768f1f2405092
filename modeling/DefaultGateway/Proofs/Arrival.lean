import DefaultGateway.Proofs.Replay

/-!
# A snapshot told piece by piece

What the kernel lists at once it may also report one by one, in any order. A piece adds to what is
known and takes nothing away: an interface that goes down would lose its routes, but none is
reported twice, and one that something else has named before is not known to be up. So the facts
are those of the snapshot, whichever piece arrives first.
-/

namespace DefaultGateway

/-! ## Pieces of a snapshot -/

namespace Event

/-- The interface that an event reports. -/
def announced : Event → Option LinkIndex
  | .linkAdd link => some link.index
  | _ => none

/-- Whether an event adds one thing to what is known. -/
def isAddition : Event → Bool
  | .linkAdd _ | .addressAdd _ | .routeAdd _ => true
  | _ => false

end Event

namespace Snapshot

/-- What the kernel would report of all that it holds, piece by piece. -/
def events (s : Snapshot) : List Event :=
  s.links.map .linkAdd ++ s.addresses.map .addressAdd ++ s.routes.map .routeAdd

variable {s : Snapshot}

theorem mem_events {event : Event} :
    event ∈ s.events ↔
      (∃ link ∈ s.links, .linkAdd link = event) ∨
        (∃ a ∈ s.addresses, .addressAdd a = event) ∨
          ∃ route ∈ s.routes, .routeAdd route = event := by
  simp only [events, List.mem_append, List.mem_map, or_assoc]

theorem isAddition_of_mem_events {event : Event} (told : event ∈ s.events) :
    event.isAddition = true := by
  obtain ⟨_, -, rfl⟩ | ⟨_, -, rfl⟩ | ⟨_, -, rfl⟩ := mem_events.1 told
  · rfl
  · rfl
  · rfl

theorem announced_events (s : Snapshot) :
    s.events.filterMap Event.announced = s.links.map (·.index) := by
  have links : (s.links.map Event.linkAdd).filterMap Event.announced = s.links.map (·.index) := by
    rw [List.filterMap_map]
    exact congrFun List.filterMap_eq_map s.links
  have addresses : (s.addresses.map Event.addressAdd).filterMap Event.announced = [] := by
    simp [Event.announced]
  have routes : (s.routes.map Event.routeAdd).filterMap Event.announced = [] := by
    simp [Event.announced]
  rw [events, List.filterMap_append, List.filterMap_append, links, addresses, routes,
    List.append_nil, List.append_nil]

/-! ### No two pieces disagree -/

/-- An interface is reported, or something else names it. -/
theorem linkEdit_cases
    {edit : KeyedSet.Edit Link.index} (member : edit ∈ s.events.flatMap Event.linkEdits) :
    (∃ link ∈ s.links, edit = .put link) ∨ ∃ index, edit = .ensure (.placeholder index) := by
  obtain ⟨event, told, edited⟩ := List.mem_flatMap.1 member
  obtain ⟨link, listed, rfl⟩ | ⟨a, -, rfl⟩ | ⟨route, -, rfl⟩ := mem_events.1 told
  · exact .inl ⟨link, listed, List.mem_singleton.1 edited⟩
  · exact .inr ⟨a.index, List.mem_singleton.1 edited⟩
  · obtain ⟨oif, -, made⟩ := List.mem_map.1 edited
    exact .inr ⟨oif, made.symm⟩

/-- Two reports of interfaces are about different ones, and what names an interface gives way to
the report of it. -/
theorem linkEdits_commute
    (distinct : (s.links.map Link.index).Nodup) :
    ∀ first ∈ s.events.flatMap Event.linkEdits, ∀ second ∈ s.events.flatMap Event.linkEdits,
      first.Commutes second := by
  intro first member second otherMember
  rcases linkEdit_cases member with ⟨link, listed, rfl⟩ | ⟨index, rfl⟩
  · rcases linkEdit_cases otherMember with ⟨other, otherListed, rfl⟩ | ⟨index, rfl⟩
    · exact .put_put fun same => List.inj_on_of_nodup_map distinct listed otherListed same
    · exact .put_ensure _ _
  · rcases linkEdit_cases otherMember with ⟨other, -, rfl⟩ | ⟨otherIndex, rfl⟩
    · exact (KeyedSet.Edit.Commutes.put_ensure _ _).symm
    · exact .ensure_ensure fun same => congrArg Link.placeholder same

theorem eq_put_of_mem_addressEdits
    {edit : KeyedSet.Edit (id : InterfaceAddress → InterfaceAddress)}
    (member : edit ∈ s.events.flatMap Event.addressEdits) : ∃ a, edit = .put a := by
  obtain ⟨event, told, edited⟩ := List.mem_flatMap.1 member
  obtain ⟨_, -, rfl⟩ | ⟨a, -, rfl⟩ | ⟨_, -, rfl⟩ := mem_events.1 told
  · exact absurd edited List.not_mem_nil
  · exact ⟨a, List.mem_singleton.1 edited⟩
  · exact absurd edited List.not_mem_nil

theorem addressEdits_commute :
    ∀ first ∈ s.events.flatMap Event.addressEdits,
      ∀ second ∈ s.events.flatMap Event.addressEdits, first.Commutes second := by
  intro first member second otherMember
  obtain ⟨a, rfl⟩ := eq_put_of_mem_addressEdits member
  obtain ⟨b, rfl⟩ := eq_put_of_mem_addressEdits otherMember
  exact .put_put fun same => same

end Snapshot

/-! ## Additions take nothing away -/

namespace Model

def knowsUp (m : Model) (index : LinkIndex) : Bool := (m.link? index).any (·.up)

/-- Events that only add: none reports an interface that another reports as well, or that is known
to be up. -/
structure Additions (m : Model) (events : List Event) : Prop where
  additions : ∀ event ∈ events, event.isAddition = true
  distinct : (events.filterMap Event.announced).Nodup
  unknown : ∀ index ∈ events.filterMap Event.announced, m.knowsUp index = false

theorem additions_empty
    {s : Snapshot} (table : UInt32) (distinct : (s.links.map Link.index).Nodup)
    {events : List Event} (arrived : events.Perm s.events) :
    (empty table).Additions events where
  additions event told := Snapshot.isAddition_of_mem_events (arrived.mem_iff.1 told)
  distinct := by
    rw [(arrived.filterMap Event.announced).nodup_iff, Snapshot.announced_events]
    exact distinct
  unknown _ _ := rfl

variable {m : Model} {event : Event}

/-- A report of an interface that is not known to be up leaves the routes alone. -/
theorem noteLink_eq_putLink {link : Link} (unknown : m.knowsUp link.index = false) :
    (m.noteLink link).1 = (m.putLink link).1 := by
  rw [knowsUp] at unknown
  simp only [noteLink, unknown, Bool.false_and, Bool.false_eq_true, if_false]

/-- What an addition reports may be up after it; whether any other interface is does not change. -/
theorem knowsUp_apply
    (addition : event.isAddition = true) {index : LinkIndex}
    (other : event.announced ≠ some index) :
    (m.apply event).1.knowsUp index = m.knowsUp index := by
  have ensured (named : LinkIndex) :
      (((m.links.edit (.ensure (.placeholder named))).find? index).any (·.up)) =
        m.knowsUp index := by
    rw [KeyedSet.find?_edit, KeyedSet.Edit.under, knowsUp, link?]
    split
    · cases m.links.find? index with
      | none => rfl
      | some link => rfl
    · rfl
  cases event with
  | linkAdd link =>
      have apart : link.index ≠ index := fun same => other (congrArg some same)
      rw [knowsUp, link?, links_apply, knowsUp, link?]
      simp only [Event.linkEdits, KeyedSet.editAll, List.foldl_cons, List.foldl_nil,
        KeyedSet.find?_edit, KeyedSet.Edit.under, if_neg apart]
  | addressAdd a =>
      rw [knowsUp, link?, links_apply]
      exact ensured a.index
  | routeAdd route =>
      rw [knowsUp, link?, links_apply, Event.linkEdits]
      cases route.oif with
      | none => rfl
      | some oif => exact ensured oif
  | linkUp _ | linkDown _ | linkDelete _ | addressDelete _ | routeChange _ | routeDelete _ =>
      cases addition

theorem Additions.unknown_head {rest : List Event} {link : Link}
    (adding : m.Additions (.linkAdd link :: rest)) : m.knowsUp link.index = false :=
  adding.unknown link.index (by simp [Event.announced])

theorem Additions.tail {rest : List Event} (adding : m.Additions (event :: rest)) :
    (m.apply event).1.Additions rest where
  additions later told := adding.additions later (List.mem_cons_of_mem event told)
  distinct := by
    have distinct := adding.distinct
    rw [List.filterMap_cons] at distinct
    split at distinct
    · exact distinct
    · exact (List.nodup_cons.1 distinct).2
  unknown index told := by
    have addition := adding.additions event List.mem_cons_self
    -- What is reported later is not reported now.
    have other : event.announced ≠ some index := by
      intro now
      have distinct := adding.distinct
      rw [List.filterMap_cons_some now] at distinct
      exact (List.nodup_cons.1 distinct).1 told
    rw [knowsUp_apply addition other]
    refine adding.unknown index ?_
    rw [List.filterMap_cons]
    split
    · exact told
    · exact List.mem_cons_of_mem _ told

/-- Each addition of a route adds it where it belongs, and no other event touches the routes. -/
theorem mem_routes_apply
    {rest : List Event} (adding : m.Additions (event :: rest)) (r : Route) :
    (r ∈ (m.apply event).1.linkRoutes ↔
        r ∈ m.linkRoutes ∨ (.routeAdd r = event ∧ Event.isLinkRoute r = true)) ∧
      ∀ family,
        r ∈ (m.apply event).1.defaults.get family ↔
          r ∈ m.defaults.get family ∨
            (.routeAdd r = event ∧ r.isManaged m.table family = true) := by
  have addition := adding.additions event List.mem_cons_self
  cases event with
  | linkAdd link =>
      have put : (m.apply (.linkAdd link)).1 = (m.putLink link).1 :=
        noteLink_eq_putLink adding.unknown_head
      rw [put]
      simp [putLink]
  | addressAdd a =>
      simp only [apply, applyAddressEvent, addAddress, ensureLink_eq]
      simp
  | routeAdd route =>
      refine ⟨?_, fun family => ?_⟩
      · rw [apply, applyRouteEvent, linkRoutes_addRoute]
        split
        · rw [if_neg Bool.false_ne_true, KeyedSet.mem_insert_sorted]
          grind
        · grind
      · rw [apply, applyRouteEvent, defaults_addRoute m route false family (fun h => by cases h)]
        split
        · rw [if_neg Bool.false_ne_true, KeyedSet.mem_insert_sorted]
          grind
        · grind
  | linkUp _ | linkDown _ | linkDelete _ | addressDelete _ | routeChange _ | routeDelete _ =>
      cases addition

end Model

namespace Engine

open Model

variable {m : Model} {events : List Event}

/-- Additions leave the routes that were there and those that they report. -/
theorem mem_routes_applyEvents (adding : m.Additions events) (r : Route) :
    (r ∈ (applyEvents m events).1.linkRoutes ↔
        r ∈ m.linkRoutes ∨ (.routeAdd r ∈ events ∧ Event.isLinkRoute r = true)) ∧
      ∀ family,
        r ∈ (applyEvents m events).1.defaults.get family ↔
          r ∈ m.defaults.get family ∨
            (.routeAdd r ∈ events ∧ r.isManaged m.table family = true) := by
  induction events generalizing m with
  | nil => simp [applyEvents]
  | cons event rest inductionHypothesis =>
      obtain ⟨linkRoute, default⟩ := mem_routes_apply adding r
      obtain ⟨laterLinkRoute, laterDefault⟩ := inductionHypothesis adding.tail
      refine ⟨laterLinkRoute.trans ?_, fun family => (laterDefault family).trans ?_⟩
      · rw [linkRoute, List.mem_cons, or_and_right, or_assoc]
      · rw [default family, (updatesFacts_apply m event).table, List.mem_cons, or_and_right,
          or_assoc]

/-! ## A snapshot is its pieces in one of their orders -/

theorem fst_applyEvents (m : Model) (events : List Event) :
    (applyEvents m events).1 = events.foldl (fun m event => (m.apply event).1) m := by
  induction events generalizing m with
  | nil => rfl
  | cons event rest inductionHypothesis => exact inductionHypothesis (m.apply event).1

/-- Where no routes are known, none are lost when an interface is down. -/
theorem foldl_putLink_eq_foldl_noteLink
    {m : Model} (noRoutes : ∀ index, m.hasRoutesOn index = false) (links : List Link) :
    links.foldl (fun m link => (m.putLink link).1) m =
      links.foldl (fun m link => (m.noteLink link).1) m := by
  induction links generalizing m with
  | nil => rfl
  | cons link rest inductionHypothesis =>
      have stillNone (index : LinkIndex) : (m.putLink link).1.hasRoutesOn index = false :=
        noRoutes index
      have noted : (m.noteLink link).1 = (m.putLink link).1 := by
        simp only [noteLink]
        split
        · exact flushRoutesOn_eq_self (stillNone link.index)
        · rfl
      rw [List.foldl_cons, List.foldl_cons, noted]
      exact inductionHypothesis stillNone

theorem ofSnapshot_eq_applyEvents (table : UInt32) (s : Snapshot) :
    ofSnapshot table s = (applyEvents (.empty table) s.events).1 := by
  have noRoutes (index : LinkIndex) : (empty table).hasRoutesOn index = false := by
    rfl
  rw [fst_applyEvents, Snapshot.events, List.foldl_append, List.foldl_append, List.foldl_map,
    List.foldl_map, List.foldl_map, ofSnapshot, foldl_putLink_eq_foldl_noteLink noRoutes]
  rfl

/-- The pieces of a snapshot that reports no interface twice make the same facts in every order. -/
theorem sameFacts_applyEvents_of_perm
    {table : UInt32} {s : Snapshot} (distinct : (s.links.map Link.index).Nodup)
    (arrived : events.Perm s.events) :
    (applyEvents (.empty table) events).1.sameFacts (ofSnapshot table s) = true := by
  rw [ofSnapshot_eq_applyEvents]
  have listed := additions_empty table distinct (.refl s.events)
  have told := additions_empty table distinct arrived
  have anchored := anchored_empty table
  refine sameFacts_iff.2 ⟨?_, ?_, ?_, PerFamily.ext_get fun family => ?_⟩
  · rw [links_applyEvents, links_applyEvents]
    exact (KeyedSet.editAll_perm (arrived.symm.flatMap_right _)
      (Snapshot.linkEdits_commute distinct) _).symm
  · rw [addresses_applyEvents anchored, addresses_applyEvents anchored]
    exact (KeyedSet.editAll_perm (arrived.symm.flatMap_right _)
      Snapshot.addressEdits_commute _).symm
  · refine KeyedSet.ext fun r => ?_
    rw [(mem_routes_applyEvents told r).1, (mem_routes_applyEvents listed r).1, arrived.mem_iff]
  · refine KeyedSet.ext fun r => ?_
    rw [(mem_routes_applyEvents told r).2 family, (mem_routes_applyEvents listed r).2 family,
      arrived.mem_iff]

/-- Reading the kernel at once gives the facts that its reports give one by one, in whatever order
they arrive and whatever was known before. What handlers and the administrator have said stays, and
to read the same once more is no change. -/
theorem applyEvents_perm_replaceFacts
    (m : Model) {s : Snapshot} (distinct : (s.links.map Link.index).Nodup)
    (arrived : events.Perm s.events) :
    (applyEvents (.empty m.table) events).1.links = (m.replaceFacts s).1.links ∧
      (applyEvents (.empty m.table) events).1.addresses = (m.replaceFacts s).1.addresses ∧
      (applyEvents (.empty m.table) events).1.linkRoutes = (m.replaceFacts s).1.linkRoutes ∧
      (∀ family,
        (applyEvents (.empty m.table) events).1.defaultRoutes family =
          (m.replaceFacts s).1.defaultRoutes family) ∧
      (m.replaceFacts s).1.candidates = m.candidates ∧
      (m.replaceFacts s).1.disabled = m.disabled ∧
      ((m.replaceFacts s).1.replaceFacts s).2 = false := by
  have told : (applyEvents (.empty m.table) events).1.sameFacts (ofSnapshot m.table s) = true :=
    sameFacts_applyEvents_of_perm distinct arrived
  obtain ⟨links, addresses, linkRoutes, defaults⟩ := sameFacts_iff.1 told
  refine ⟨links, addresses, linkRoutes, fun family => ?_, rfl, rfl, ?_⟩
  · rw [defaultRoutes, defaults]
    rfl
  · have sameTable : (m.replaceFacts s).1.table = m.table := (updatesFacts_replaceFacts m s).table
    have same : (ofSnapshot m.table s).sameFacts (m.replaceFacts s).1 = true :=
      sameFacts_iff.2 ⟨rfl, rfl, rfl, rfl⟩
    rw [replaceFacts, sameTable, same]
    rfl

/-- One interface is up and one is down with a route through it still listed. Two more are named by
an address and by a route of another table only. -/
def listing : Snapshot where
  links := [⟨2, some "eth0", true⟩, ⟨3, some "wlan0", false⟩]
  addresses := [
    ⟨2, .v4 0x0a000006#32, 16, by decide⟩,
    ⟨4, .v4 0x0a030006#32, 16, by decide⟩]
  routes := [
    .defaultVia .inet (.v4 0x0a000001#32) (some 2) 254 0,
    ⟨⟨.v4 0x0a010000#32, 16, by decide⟩, none, some 3, 254, 0⟩,
    .defaultVia .inet (.v4 0x0a040001#32) (some 5) 100 0]

/-- What was known before is out of date; there is a candidate, and one interface is disabled. -/
def outOfDate : Model :=
  let m := (applyEvents (.empty 254) [
    .linkUp ⟨3, some "wlan0", true⟩,
    .linkUp ⟨7, some "usb0", true⟩,
    .routeAdd (.defaultVia .inet (.v4 0x0a070001#32) (some 7) 254 20)]).1
  let m := (m.register ⟨.dhcp, .inet, "eth0", .v4 0x0a000001#32, none, 1⟩).1
  (m.setDisabled (.ofList [⟨none, some "wlan0", none⟩])).1

theorem applyEvents_reverse_listing :
    (applyEvents (.empty 254) listing.events.reverse).1.links.toList =
        [⟨2, some "eth0", true⟩, ⟨3, some "wlan0", false⟩, .placeholder 4, .placeholder 5] ∧
      (applyEvents (.empty 254) listing.events.reverse).1.links =
        (outOfDate.replaceFacts listing).1.links ∧
      (outOfDate.replaceFacts listing).1.defaultRoutes .inet =
        [.defaultVia .inet (.v4 0x0a000001#32) (some 2) 254 0] ∧
      (outOfDate.replaceFacts listing).1.candidates.size = 1 ∧
      ((outOfDate.replaceFacts listing).1.replaceFacts listing).2 = false := by
  have sameTable : outOfDate.table = 254 := by decide +kernel
  have distinct : (listing.links.map Link.index).Nodup := by decide
  have read := applyEvents_perm_replaceFacts outOfDate distinct (List.reverse_perm listing.events)
  rw [sameTable] at read
  obtain ⟨links, -, -, -, candidates, -, again⟩ := read
  refine ⟨by decide +kernel, links, by decide +kernel, ?_, again⟩
  rw [candidates]
  decide +kernel

end Engine

end DefaultGateway
