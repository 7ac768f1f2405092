import DefaultGateway.Proofs.Coherence
import DefaultGateway.Proofs.Edits
import DefaultGateway.Proofs.References

/-!
# Events that are told twice

What the kernel reports before it is first read may be handled after that, on top of facts that
reflect it already. As far as an event says which rows are to stand and which are to go, handling
it again does no harm. Two events go by more than what they say: an interface reported down loses
its routes only if it was known to be up, and a default route put in the place of another does so
only if it was not known itself.
-/

namespace DefaultGateway

namespace Event

/-! ## What an event says -/

/-- The edits of the known interfaces that an event stands for. -/
def linkEdits : Event → List (KeyedSet.Edit Link.index)
  | .linkAdd link | .linkUp link | .linkDown link => [.put link]
  | .linkDelete index => [.drop (· == index)]
  | .addressAdd a => [.ensure (.placeholder a.index)]
  | .routeAdd route | .routeChange route =>
      route.oif.toList.map fun oif => .ensure (.placeholder oif)
  | .addressDelete _ | .routeDelete _ => []

def addressEdits : Event → List (KeyedSet.Edit (id : InterfaceAddress → InterfaceAddress))
  | .linkDelete index => [.drop (·.index == index)]
  | .addressAdd a => [.put a]
  | .addressDelete a => [.drop (· == a)]
  | _ => []

/-- The interface that an event says is of no use to any route. -/
def unusable : Event → Option LinkIndex
  | .linkAdd link | .linkUp link | .linkDown link => if link.up then none else some link.index
  | .linkDelete index => some index
  | _ => none

def flushEdits (e : Event) : List (KeyedSet.Edit (id : Route → Route)) :=
  e.unusable.toList.map fun index => .drop (·.oif == some index)

/-- Whether a route is kept among the link routes. -/
def isLinkRoute (r : Route) : Bool :=
  !r.isDefault && !(r.oif.isNone || r.table == Model.localTable)

def linkRouteEdits : Event → List (KeyedSet.Edit (id : Route → Route))
  | .routeAdd r => if isLinkRoute r then [.put r] else []
  | .routeChange r => if isLinkRoute r then [.drop (Model.sameSlot · r), .put r] else []
  | .routeDelete r => if r.isDefault then [] else [.drop (· == r)]
  | e => e.flushEdits

/-- The edits of the default routes of a family in a table. -/
def defaultEdits (table : UInt32) (family : Family) :
    Event → List (KeyedSet.Edit (id : Route → Route))
  | .routeAdd r => if r.isManaged table family then [.put r] else []
  | .routeChange r =>
      if r.isManaged table family then [.drop (·.metric == r.metric), .put r] else []
  | .routeDelete r => if r.isManaged table family then [.drop (Model.deletes r ·)] else []
  | e => e.flushEdits

end Event

namespace Model

variable {m n : Model} {index : LinkIndex}

/-! ## Interfaces and addresses become what is said of them -/

theorem ensureLink_eq (m : Model) (index : LinkIndex) :
    m.ensureLink index =
      { m with links := m.links.edit (.ensure (.placeholder index)) } := by
  unfold ensureLink
  split
  · rename_i known
    rw [KeyedSet.edit, Link.placeholder, if_pos known]
  · rename_i missing
    rw [KeyedSet.edit, Link.placeholder, if_neg missing]

theorem ensureOif_eq (m : Model) (route : Route) :
    m.ensureOif route =
      { m with
        links :=
          m.links.editAll (route.oif.toList.map fun oif => .ensure (.placeholder oif)) } := by
  unfold ensureOif
  cases route.oif with
  | none => rfl
  | some oif => exact ensureLink_eq m oif

/-- No interface becomes known by a route through one that is known, or through none. -/
theorem ensureOif_eq_self
    {route : Route} (known : ∀ oif ∈ route.oif, m.links.containsKey oif = true) :
    m.ensureOif route = m := by
  unfold ensureOif
  split
  · rename_i through
    exact if_pos (known _ through)
  · rfl

/-- A report of an interface touches nothing but the interfaces and the routes. -/
theorem links_noteLink (m : Model) (link : Link) :
    (m.noteLink link).1.links = m.links.insert link ∧
      (m.noteLink link).1.addresses = m.addresses := by
  simp only [noteLink]
  split
  · exact ⟨rfl, rfl⟩
  · exact ⟨rfl, rfl⟩

theorem links_addRoute (m : Model) (route : Route) (replacing : Bool) :
    (m.addRoute route replacing).1.links = (m.ensureOif route).links ∧
      (m.addRoute route replacing).1.addresses = m.addresses := by
  simp only [addRoute, ensureOif_eq]
  split
  · unfold addDefaultRoute
    split
    · exact ⟨rfl, rfl⟩
    · simp only
      split
      · exact ⟨rfl, rfl⟩
      · exact ⟨rfl, rfl⟩
  · unfold addLinkRoute
    split
    · exact ⟨rfl, rfl⟩
    · exact ⟨rfl, rfl⟩

theorem links_dropRoute (m : Model) (route : Route) :
    (m.dropRoute route).1.links = m.links ∧ (m.dropRoute route).1.addresses = m.addresses := by
  unfold dropRoute
  split
  · exact ⟨rfl, rfl⟩
  · split
    · exact ⟨rfl, rfl⟩
    · exact ⟨rfl, rfl⟩

theorem links_apply (m : Model) (event : Event) :
    (m.apply event).1.links = m.links.editAll event.linkEdits := by
  have addition (route : Route) (replacing : Bool) :
      (m.addRoute route replacing).1.links =
        m.links.editAll (route.oif.toList.map fun oif => .ensure (.placeholder oif)) := by
    rw [(links_addRoute m route replacing).1, ensureOif_eq]
  cases event with
  | linkAdd link => exact (links_noteLink m link).1
  | linkUp link => exact (links_noteLink m link).1
  | linkDown link => exact (links_noteLink m link).1
  | linkDelete index =>
      have erased : m.links.erase index = m.links.editAll [.drop (· == index)] :=
        KeyedSet.erase_eq_edit m.links index
      simp only [apply, applyLinkEvent, dropLink]
      split
      · exact erased
      · rename_i missing
        rw [Event.linkEdits, ← erased, KeyedSet.erase_of_find?_eq_none]
        simpa [KeyedSet.containsKey] using missing
  | addressAdd a => exact congrArg links (ensureLink_eq m a.index)
  | addressDelete a => rfl
  | routeAdd route => exact addition route false
  | routeChange route => exact addition route true
  | routeDelete route => exact (links_dropRoute m route).1

theorem addresses_apply (anchored : m.Anchored) (event : Event) :
    (m.apply event).1.addresses = m.addresses.editAll event.addressEdits := by
  cases event with
  | linkAdd link => exact (links_noteLink m link).2
  | linkUp link => exact (links_noteLink m link).2
  | linkDown link => exact (links_noteLink m link).2
  | linkDelete index =>
      simp only [apply, applyLinkEvent, dropLink]
      split
      · rfl
      · -- On an interface that is not known there are no addresses.
        rename_i missing
        refine (KeyedSet.filter_eq_self fun a member => ?_).symm
        cases onIndex : a.index == index with
        | false => simp [onIndex]
        | true => exact absurd (anchored index (.address a member (by simpa using onIndex))) missing
  | addressAdd a =>
      simp only [apply, applyAddressEvent, addAddress, ensureLink_eq]
      rfl
  | addressDelete a => exact KeyedSet.erase_eq_edit m.addresses a
  | routeAdd route => exact (links_addRoute m route false).2
  | routeChange route => exact (links_addRoute m route true).2
  | routeDelete route => exact (links_dropRoute m route).2

/-! ## Routes do so where the event is taken at its word -/

def hasRoutesOn (m : Model) (index : LinkIndex) : Bool :=
  m.linkRoutes.any (·.oif == some index) ||
    Family.all.any fun family => (m.defaults.get family).any (·.oif == some index)

/-- Whether an event does to the routes all that it says. -/
def heeds (m : Model) : Event → Bool
  | .linkAdd link | .linkUp link | .linkDown link =>
      link.up || (m.link? link.index).any (·.up) || !m.hasRoutesOn link.index
  | .routeChange route =>
      route ∉ m.defaults.get route.family ||
        !(m.defaults.get route.family).any fun other =>
          other.metric == route.metric && other != route
  | _ => true

/-- Whether each of a sequence of events does so in its turn. -/
def heedsAll (m : Model) : List Event → Bool
  | [] => true
  | event :: rest => m.heeds event && (m.apply event).1.heedsAll rest

theorem flushRoutesOn_eq_self (nothing : m.hasRoutesOn index = false) :
    m.flushRoutesOn index = m := by
  simp only [hasRoutesOn, Bool.or_eq_false_iff, List.any_eq_false, KeyedSet.any,
    List.any_eq_true, not_exists, not_and, beq_iff_eq] at nothing
  obtain ⟨noLinkRoute, noDefault⟩ := nothing
  have linkRoutes : m.linkRoutes.filter (·.oif != some index) = m.linkRoutes :=
    KeyedSet.filter_eq_self fun r member => by simpa using noLinkRoute r member
  have defaults :
      (m.defaults.map fun routes => routes.filter (·.oif != some index)) = m.defaults := by
    refine PerFamily.ext_get fun family => ?_
    rw [PerFamily.get_map]
    refine KeyedSet.filter_eq_self fun r member => ?_
    simpa using noDefault family (Family.mem_all family) r member
  rw [flushRoutesOn, linkRoutes, defaults]

theorem hasRoutesOn_eq_false_of_missing
    (anchored : m.Anchored) (missing : ¬ m.links.containsKey index = true) :
    m.hasRoutesOn index = false := by
  have unnamed : ¬ m.Names index := fun named => missing (anchored index named)
  simp only [hasRoutesOn, Bool.or_eq_false_iff, List.any_eq_false, KeyedSet.any,
    List.any_eq_true, not_exists, not_and, beq_iff_eq]
  exact ⟨fun r member through => unnamed (.linkRoute r member through),
    fun family _ r member through => unnamed (.default family r member through)⟩

/-- An interface that is told to be down loses its routes, if it has not lost them before. -/
theorem noteLink_eq
    {link : Link}
    (heeded :
      (link.up || (m.link? link.index).any (·.up) || !m.hasRoutesOn link.index) = true) :
    (m.noteLink link).1 =
      if link.up then (m.putLink link).1 else (m.putLink link).1.flushRoutesOn link.index := by
  simp only [noteLink]
  cases up : link.up with
  | true => simp
  | false =>
      cases wasUp : (m.link? link.index).any (·.up) with
      | true => simp
      | false =>
          have nothing : m.hasRoutesOn link.index = false := by
            simpa [up, wasUp] using heeded
          have nothing : (m.putLink link).1.hasRoutesOn link.index = false := nothing
          simp [flushRoutesOn_eq_self nothing]

/-- What a report of an interface that is taken at its word does to the routes. -/
theorem routes_noteLink
    {link : Link} (told : Event)
    (unusable : told.unusable = if link.up then none else some link.index)
    (heeded :
      (link.up || (m.link? link.index).any (·.up) || !m.hasRoutesOn link.index) = true) :
    (m.noteLink link).1.linkRoutes = m.linkRoutes.editAll told.flushEdits ∧
      ∀ family,
        (m.noteLink link).1.defaults.get family =
          (m.defaults.get family).editAll told.flushEdits := by
  rw [noteLink_eq heeded, Event.flushEdits, unusable]
  cases link.up with
  | true => exact ⟨rfl, fun _ => rfl⟩
  | false => exact ⟨rfl, fun _ => PerFamily.get_map ..⟩

theorem dropLink_eq (anchored : m.Anchored) (index : LinkIndex) :
    (m.dropLink index).1.linkRoutes = (m.flushRoutesOn index).linkRoutes ∧
      (m.dropLink index).1.defaults = (m.flushRoutesOn index).defaults := by
  unfold dropLink
  split
  · exact ⟨rfl, rfl⟩
  · rename_i missing
    rw [flushRoutesOn_eq_self (hasRoutesOn_eq_false_of_missing anchored missing)]
    exact ⟨rfl, rfl⟩

theorem linkRoutes_addRoute (m : Model) (route : Route) (replacing : Bool) :
    (m.addRoute route replacing).1.linkRoutes =
      if Event.isLinkRoute route then
        (if replacing then m.linkRoutes.filter (!sameSlot · route) else m.linkRoutes).insert route
      else m.linkRoutes := by
  simp only [addRoute, ensureOif_eq]
  split
  · rename_i isDefault
    have unlisted : Event.isLinkRoute route = false := by simp [Event.isLinkRoute, isDefault]
    rw [unlisted, if_neg Bool.false_ne_true, addDefaultRoute]
    split
    · rfl
    · simp only
      split
      · rfl
      · rfl
  · rename_i isLinkRoute
    cases refused : route.oif.isNone || route.table == localTable with
    | true => simp [addLinkRoute, Event.isLinkRoute, refused]
    | false => simp [addLinkRoute, Event.isLinkRoute, refused, isLinkRoute]

theorem linkRoutes_apply
    (anchored : m.Anchored) {event : Event} (heeded : m.heeds event = true) :
    (m.apply event).1.linkRoutes = m.linkRoutes.editAll event.linkRouteEdits := by
  cases event with
  | linkAdd link => exact (routes_noteLink (.linkAdd link) rfl heeded).1
  | linkUp link => exact (routes_noteLink (.linkUp link) rfl heeded).1
  | linkDown link => exact (routes_noteLink (.linkDown link) rfl heeded).1
  | linkDelete index => exact (dropLink_eq anchored index).1
  | addressAdd a =>
      simp only [apply, applyAddressEvent, addAddress, ensureLink_eq]
      rfl
  | addressDelete a => rfl
  | routeAdd route =>
      refine (linkRoutes_addRoute m route false).trans ?_
      rw [Event.linkRouteEdits]
      split
      · rfl
      · rfl
  | routeChange route =>
      refine (linkRoutes_addRoute m route true).trans ?_
      rw [Event.linkRouteEdits]
      split
      · rfl
      · rfl
  | routeDelete route =>
      simp only [apply, applyRouteEvent, dropRoute, Event.linkRouteEdits]
      cases route.isDefault with
      | true =>
          simp only [Bool.not_true, Bool.false_eq_true, if_false, if_true]
          split
          · rfl
          · rfl
      | false => exact KeyedSet.erase_eq_edit m.linkRoutes route

/-- A route that is the only one of its metric pushes nothing out. -/
theorem insert_filter_of_alone
    {routes : SortedSet Route} {route : Route} (known : route ∈ routes)
    (alone : ∀ other ∈ routes, other.metric = route.metric → other = route) :
    (routes.filter (·.metric != route.metric)).insert route = routes := by
  apply KeyedSet.ext
  intro other
  rw [KeyedSet.mem_insert_sorted, KeyedSet.mem_filter, bne_iff_ne]
  constructor
  · rintro (rfl | ⟨member, _⟩)
    · exact known
    · exact member
  · intro member
    by_cases tie : other.metric = route.metric
    · exact .inl (alone other member tie)
    · exact .inr ⟨member, tie⟩

theorem defaults_addRoute
    (m : Model) (route : Route) (replacing : Bool) (family : Family)
    (heeded :
      replacing = true → route ∈ m.defaults.get route.family →
        ∀ other ∈ m.defaults.get route.family, other.metric = route.metric → other = route) :
    (m.addRoute route replacing).1.defaults.get family =
      if route.isManaged m.table family then
        (if replacing then (m.defaults.get family).filter (·.metric != route.metric)
          else m.defaults.get family).insert route
      else m.defaults.get family := by
  simp only [addRoute, ensureOif_eq]
  by_cases isDefault : route.isDefault = true
  · rw [if_pos isDefault, addDefaultRoute]
    by_cases sameTable : route.table = m.table
    · rw [if_neg (not_not_intro sameTable)]
      by_cases ours : route.family = family
      · subst ours
        rw [if_pos (Route.isManaged_iff.2 ⟨isDefault, rfl, sameTable⟩)]
        by_cases known : route ∈ m.defaults.get route.family
        · simp only [if_pos known]
          cases replacing with
          | false => exact (KeyedSet.insert_of_mem known).symm
          | true => exact (insert_filter_of_alone known (heeded rfl known)).symm
        · simp only [if_neg known, PerFamily.get_set_self]
      · rw [if_neg fun managed => ours (Route.isManaged_iff.1 managed).2.1]
        simp only
        split
        · rfl
        · exact PerFamily.get_set_of_ne _ (Ne.symm ours) _
    · rw [if_pos sameTable, if_neg fun managed => sameTable (Route.isManaged_iff.1 managed).2.2]
  · rw [if_neg isDefault, if_neg fun managed => isDefault (Route.isManaged_iff.1 managed).1,
      addLinkRoute]
    split
    · rfl
    · rfl

theorem defaults_dropRoute (m : Model) (route : Route) (family : Family) :
    (m.dropRoute route).1.defaults.get family =
      if route.isManaged m.table family then
        (m.defaults.get family).filter (!deletes route ·)
      else m.defaults.get family := by
  rw [dropRoute]
  by_cases isDefault : route.isDefault = true
  · rw [if_neg (by simp [isDefault])]
    by_cases sameTable : route.table = m.table
    · rw [if_neg (not_not_intro sameTable)]
      by_cases ours : route.family = family
      · subst ours
        rw [if_pos (Route.isManaged_iff.2 ⟨isDefault, rfl, sameTable⟩)]
        exact PerFamily.get_set_self ..
      · rw [if_neg fun managed => ours (Route.isManaged_iff.1 managed).2.1]
        exact PerFamily.get_set_of_ne _ (Ne.symm ours) _
    · rw [if_pos sameTable, if_neg fun managed => sameTable (Route.isManaged_iff.1 managed).2.2]
  · rw [if_pos (by simp [isDefault]),
      if_neg fun managed => isDefault (Route.isManaged_iff.1 managed).1]

theorem defaults_apply
    (anchored : m.Anchored) {event : Event} (heeded : m.heeds event = true) (family : Family) :
    (m.apply event).1.defaults.get family =
      (m.defaults.get family).editAll (event.defaultEdits m.table family) := by
  cases event with
  | linkAdd link => exact (routes_noteLink (.linkAdd link) rfl heeded).2 family
  | linkUp link => exact (routes_noteLink (.linkUp link) rfl heeded).2 family
  | linkDown link => exact (routes_noteLink (.linkDown link) rfl heeded).2 family
  | linkDelete index =>
      refine (congrArg (PerFamily.get · family) (dropLink_eq anchored index).2).trans ?_
      exact PerFamily.get_map ..
  | addressAdd a =>
      simp only [apply, applyAddressEvent, addAddress, ensureLink_eq]
      rfl
  | addressDelete a => rfl
  | routeAdd route =>
      refine (defaults_addRoute m route false family (fun h => by cases h)).trans ?_
      rw [Event.defaultEdits]
      split
      · rfl
      · rfl
  | routeChange route =>
      have alone (known : route ∈ m.defaults.get route.family) (other : Route)
          (member : other ∈ m.defaults.get route.family) (tie : other.metric = route.metric) :
          other = route := by
        simp only [heeds, known, not_true_eq_false, decide_false, Bool.false_or,
          Bool.not_eq_true', KeyedSet.any, List.any_eq_false] at heeded
        simpa [tie] using heeded other member
      refine (defaults_addRoute m route true family fun _ => alone).trans ?_
      rw [Event.defaultEdits]
      split
      · rfl
      · rfl
  | routeDelete route =>
      refine (defaults_dropRoute m route family).trans ?_
      rw [Event.defaultEdits]
      split
      · rfl
      · rfl

/-! ## Facts do not depend on candidates -/

/-- The facts of one model with the candidates and disabled selectors of another. -/
def withRegistry (m n : Model) : Model :=
  { m with candidates := n.candidates, disabled := n.disabled }

theorem sameFacts_iff :
    m.sameFacts n = true ↔
      m.links = n.links ∧ m.addresses = n.addresses ∧ m.linkRoutes = n.linkRoutes ∧
        m.defaults = n.defaults := by
  simp only [sameFacts, Bool.and_eq_true, beq_iff_eq, and_assoc]

theorem Anchored.of_sameFacts (anchored : m.Anchored) (same : n.sameFacts m = true) :
    n.Anchored := by
  obtain ⟨links, addresses, linkRoutes, defaults⟩ := sameFacts_iff.1 same
  intro index named
  rw [links]
  refine anchored index (named.mono ?_ ?_ ?_)
  · exact fun a member => addresses ▸ member
  · exact fun r member => linkRoutes ▸ member
  · exact fun family r member => defaults ▸ member

theorem eq_withRegistry_of_sameFacts
    (sameTable : m.table = n.table) (same : m.sameFacts n = true) : m = n.withRegistry m := by
  obtain ⟨links, addresses, linkRoutes, defaults⟩ := sameFacts_iff.1 same
  rw [withRegistry, ← sameTable, ← links, ← addresses, ← linkRoutes, ← defaults]

theorem noteLink_withRegistry (m n : Model) (link : Link) :
    ((m.withRegistry n).noteLink link).1 = (m.noteLink link).1.withRegistry n := by
  simp only [noteLink]
  rw [apply_ite (withRegistry · n)]
  rfl

theorem dropLink_withRegistry (m n : Model) (index : LinkIndex) :
    ((m.withRegistry n).dropLink index).1 = (m.dropLink index).1.withRegistry n := by
  simp only [dropLink]
  rw [apply_ite Prod.fst, apply_ite Prod.fst, apply_ite (withRegistry · n)]
  rfl

theorem addRoute_withRegistry (m n : Model) (route : Route) (replacing : Bool) :
    ((m.withRegistry n).addRoute route replacing).1 =
      (m.addRoute route replacing).1.withRegistry n := by
  have ensured : (m.withRegistry n).ensureOif route = (m.ensureOif route).withRegistry n := by
    rw [ensureOif_eq, ensureOif_eq]
    rfl
  simp only [addRoute, ensured]
  generalize m.ensureOif route = m
  split
  · simp only [addDefaultRoute]
    rw [apply_ite Prod.fst, apply_ite Prod.fst, apply_ite Prod.fst, apply_ite Prod.fst,
      apply_ite (withRegistry · n), apply_ite (withRegistry · n)]
    rfl
  · simp only [addLinkRoute]
    rw [apply_ite Prod.fst, apply_ite Prod.fst, apply_ite (withRegistry · n)]
    rfl

theorem dropRoute_withRegistry (m n : Model) (route : Route) :
    ((m.withRegistry n).dropRoute route).1 = (m.dropRoute route).1.withRegistry n := by
  simp only [dropRoute]
  rw [apply_ite Prod.fst, apply_ite Prod.fst, apply_ite Prod.fst, apply_ite Prod.fst,
    apply_ite (withRegistry · n), apply_ite (withRegistry · n)]
  rfl

theorem apply_withRegistry (m n : Model) (event : Event) :
    ((m.withRegistry n).apply event).1 = (m.apply event).1.withRegistry n := by
  cases event with
  | linkAdd link => exact noteLink_withRegistry m n link
  | linkUp link => exact noteLink_withRegistry m n link
  | linkDown link => exact noteLink_withRegistry m n link
  | linkDelete index => exact dropLink_withRegistry m n index
  | addressAdd a =>
      simp only [apply, applyAddressEvent, addAddress, ensureLink_eq]
      rfl
  | addressDelete a => rfl
  | routeAdd route => exact addRoute_withRegistry m n route false
  | routeChange route => exact addRoute_withRegistry m n route true
  | routeDelete route => exact dropRoute_withRegistry m n route

end Model

namespace Engine

open Model

variable {m : Model} {events : List Event}

theorem applyEvents_append (m : Model) (events more : List Event) :
    (applyEvents m (events ++ more)).1 = (applyEvents (applyEvents m events).1 more).1 := by
  induction events generalizing m with
  | nil => rfl
  | cons event rest inductionHypothesis => exact inductionHypothesis (m.apply event).1

theorem anchored_applyEvents (anchored : m.Anchored) (events : List Event) :
    (applyEvents m events).1.Anchored := by
  induction events generalizing m with
  | nil => exact anchored
  | cons event rest inductionHypothesis =>
      exact inductionHypothesis ((inheritsFrom_apply m event).anchored anchored)

theorem links_applyEvents (m : Model) (events : List Event) :
    (applyEvents m events).1.links = m.links.editAll (events.flatMap Event.linkEdits) := by
  induction events generalizing m with
  | nil => rfl
  | cons event rest inductionHypothesis =>
      refine (inductionHypothesis (m.apply event).1).trans ?_
      rw [links_apply, List.flatMap_cons, KeyedSet.editAll_append]

theorem addresses_applyEvents (anchored : m.Anchored) (events : List Event) :
    (applyEvents m events).1.addresses =
      m.addresses.editAll (events.flatMap Event.addressEdits) := by
  induction events generalizing m with
  | nil => rfl
  | cons event rest inductionHypothesis =>
      refine (inductionHypothesis ((inheritsFrom_apply m event).anchored anchored)).trans ?_
      rw [addresses_apply anchored, List.flatMap_cons, KeyedSet.editAll_append]

/-- Events that are taken at their word edit the routes as they say. -/
theorem routes_applyEvents (anchored : m.Anchored) (heeded : m.heedsAll events = true) :
    (applyEvents m events).1.linkRoutes =
        m.linkRoutes.editAll (events.flatMap Event.linkRouteEdits) ∧
      ∀ family,
        (applyEvents m events).1.defaults.get family =
          (m.defaults.get family).editAll (events.flatMap (Event.defaultEdits m.table family)) := by
  induction events generalizing m with
  | nil => exact ⟨rfl, fun _ => rfl⟩
  | cons event rest inductionHypothesis =>
      simp only [heedsAll, Bool.and_eq_true] at heeded
      obtain ⟨linkRoutes, defaults⟩ :=
        inductionHypothesis ((inheritsFrom_apply m event).anchored anchored) heeded.2
      refine ⟨linkRoutes.trans ?_, fun family => (defaults family).trans ?_⟩
      · rw [linkRoutes_apply anchored heeded.1, List.flatMap_cons, KeyedSet.editAll_append]
      · rw [defaults_apply anchored heeded.1, (updatesFacts_apply m event).table,
          List.flatMap_cons, KeyedSet.editAll_append]

theorem applyEvents_withRegistry (m n : Model) (events : List Event) :
    (applyEvents (m.withRegistry n) events).1 = (applyEvents m events).1.withRegistry n := by
  induction events generalizing m with
  | nil => rfl
  | cons event rest inductionHypothesis =>
      simp only [applyEvents]
      rw [apply_withRegistry, inductionHypothesis]

/-- Events on top of facts that reflect them already change nothing, as long as they are taken at
their word both times. -/
theorem applyEvents_again
    {held : Model} (anchored : m.Anchored) (sameTable : held.table = m.table)
    (read : held.sameFacts (applyEvents m events).1 = true)
    (heeded : m.heedsAll events = true) (heededAgain : held.heedsAll events = true) :
    (applyEvents held events).1.sameFacts held = true := by
  obtain ⟨links, addresses, linkRoutes, defaults⟩ := sameFacts_iff.1 read
  have heldAnchored : held.Anchored :=
    (anchored_applyEvents anchored events).of_sameFacts read
  have said := routes_applyEvents anchored heeded
  have saidAgain := routes_applyEvents heldAnchored heededAgain
  refine sameFacts_iff.2 ⟨?_, ?_, ?_, PerFamily.ext_get fun family => ?_⟩
  · rw [links_applyEvents, links, links_applyEvents, KeyedSet.editAll_editAll]
  · rw [addresses_applyEvents heldAnchored, addresses, addresses_applyEvents anchored,
      KeyedSet.editAll_editAll]
  · rw [saidAgain.1, linkRoutes, said.1, KeyedSet.editAll_editAll]
  · rw [saidAgain.2 family, defaults, said.2 family, sameTable, KeyedSet.editAll_editAll]

/-- The kernel's facts may be read after some of the events have happened that are still to be
handled: the known interfaces and addresses come out as if each event had been handled once, and
so do the routes if the events that happened before are taken at their word both times. -/
theorem applyEvents_replay
    {table : UInt32} {before again : List Event} {held : Model}
    (sameTable : held.table = table)
    (read : held.sameFacts (applyEvents (.empty table) (before ++ again)).1 = true)
    (later : List Event) :
    (applyEvents held (again ++ later)).1.links =
        (applyEvents (.empty table) (before ++ again ++ later)).1.links ∧
      (applyEvents held (again ++ later)).1.addresses =
        (applyEvents (.empty table) (before ++ again ++ later)).1.addresses ∧
      ((applyEvents (.empty table) before).1.heedsAll again = true →
        held.heedsAll again = true →
          (applyEvents held (again ++ later)).1.linkRoutes =
              (applyEvents (.empty table) (before ++ again ++ later)).1.linkRoutes ∧
            (applyEvents held (again ++ later)).1.defaults =
              (applyEvents (.empty table) (before ++ again ++ later)).1.defaults) := by
  have start := anchored_applyEvents (anchored_empty table) before
  have startTable : (applyEvents (.empty table) before).1.table = table :=
    (applyEvents_spec _ before).1.table
  simp only [applyEvents_append] at read ⊢
  generalize (applyEvents (.empty table) before).1 = m at start startTable read ⊢
  have reached := anchored_applyEvents start again
  have reachedTable : (applyEvents m again).1.table = table :=
    (applyEvents_spec m again).1.table.trans startTable
  have heldAnchored := reached.of_sameFacts read
  obtain ⟨links, addresses, -, -⟩ := sameFacts_iff.1 read
  refine ⟨?_, ?_, fun heeded heededAgain => ?_⟩
  · rw [links_applyEvents, links_applyEvents held, links, links_applyEvents m,
      KeyedSet.editAll_editAll, ← links_applyEvents m, ← links_applyEvents]
  · rw [addresses_applyEvents (anchored_applyEvents heldAnchored again),
      addresses_applyEvents heldAnchored, addresses, addresses_applyEvents start,
      KeyedSet.editAll_editAll, ← addresses_applyEvents start, ← addresses_applyEvents reached]
  · -- What is held after the replay has the facts it had before, and from there on the events
    -- are the same.
    have unchanged :=
      applyEvents_again start (sameTable.trans startTable.symm) read heeded heededAgain
    have heldTable : (applyEvents held again).1.table = table :=
      (applyEvents_spec held again).1.table.trans sameTable
    have same : (applyEvents held again).1.sameFacts (applyEvents m again).1 = true := by
      simp only [sameFacts_iff] at unchanged read ⊢
      obtain ⟨links, addresses, linkRoutes, defaults⟩ := unchanged
      rw [links, addresses, linkRoutes, defaults]
      exact read
    rw [eq_withRegistry_of_sameFacts (heldTable.trans reachedTable.symm) same,
      applyEvents_withRegistry]
    exact ⟨rfl, rfl⟩

/-! ## Events in flight while the kernel is read -/

/-- The first interface has a gateway, and so has the second. -/
def setUp : List Event := [
  .linkUp ⟨2, some "eth0", true⟩,
  .linkUp ⟨3, some "wlan0", true⟩,
  .addressAdd ⟨2, .v4 0x0a000005#32, 16, by decide⟩,
  .routeAdd (.defaultVia .inet (.v4 0x0a000001#32) (some 2) 254 0),
  .routeAdd (.defaultVia .inet (.v4 0x0a010001#32) (some 3) 254 100)]

/-- The first gateway is replaced by another, the second interface goes down. -/
def inFlight : List Event := [
  .routeAdd ⟨⟨.v4 0x0a000000#32, 16, by decide⟩, none, some 2, 254, 0⟩,
  .routeDelete (.defaultVia .inet (.v4 0x0a000001#32) (some 2) 254 0),
  .routeChange (.defaultVia .inet (.v4 0x0a000002#32) (some 2) 254 0),
  .linkDown ⟨3, some "wlan0", false⟩]

def afterwards : List Event := [
  .addressDelete ⟨2, .v4 0x0a000005#32, 16, by decide⟩,
  .routeAdd (.defaultVia .inet (.v4 0x0a010001#32) (some 4) 254 200)]

/-- What was read while the events were in flight, with a candidate besides. -/
def readMeanwhile : Model :=
  ((applyEvents (.empty 254) (setUp ++ inFlight)).1.register
    ⟨.dhcp, .inet, "eth0", .v4 0x0a000002#32, none, 1⟩).1

theorem applyEvents_replay_inFlight :
    readMeanwhile.candidates.size = 1 ∧
      (applyEvents readMeanwhile (inFlight ++ afterwards)).1.sameFacts
          (applyEvents (.empty 254) (setUp ++ inFlight ++ afterwards)).1 = true ∧
        (applyEvents readMeanwhile (inFlight ++ afterwards)).1.defaultRoutes .inet =
          [.defaultVia .inet (.v4 0x0a000002#32) (some 2) 254 0,
            .defaultVia .inet (.v4 0x0a010001#32) (some 4) 254 200] := by
  have sameTable : readMeanwhile.table = 254 := by decide +kernel
  have read :
      readMeanwhile.sameFacts (applyEvents (.empty 254) (setUp ++ inFlight)).1 = true := by
    decide +kernel
  obtain ⟨links, addresses, routes⟩ := applyEvents_replay sameTable read afterwards
  obtain ⟨linkRoutes, defaults⟩ := routes (by decide +kernel) (by decide +kernel)
  exact
    ⟨by decide +kernel, sameFacts_iff.2 ⟨links, addresses, linkRoutes, defaults⟩,
      by decide +kernel⟩

/-- A default route that another has replaced comes back when both are told again: the other is
there, so that it is not put in anybody's place. Likewise the route through an interface that went
down: the interface is down already, so that it loses no routes. -/
theorem replaced_route_revived :
    let replaced : List Event := [
      .routeAdd (.defaultVia .inet (.v4 0x0a000001#32) (some 2) 254 0),
      .routeChange (.defaultVia .inet (.v4 0x0a000002#32) (some 2) 254 0)]
    let up : Event := .linkUp ⟨2, some "eth0", true⟩
    let lost : List Event := [
      .routeAdd (.defaultVia .inet (.v4 0x0a000001#32) (some 2) 254 0),
      .linkDown ⟨2, some "eth0", false⟩]
    ((applyEvents (.empty 254) replaced).1.defaultRoutes .inet =
          [.defaultVia .inet (.v4 0x0a000002#32) (some 2) 254 0] ∧
        (applyEvents (applyEvents (.empty 254) replaced).1 replaced).1.defaultRoutes .inet =
          [.defaultVia .inet (.v4 0x0a000001#32) (some 2) 254 0,
            .defaultVia .inet (.v4 0x0a000002#32) (some 2) 254 0]) ∧
      (applyEvents (.empty 254) (up :: lost)).1.defaultRoutes .inet = [] ∧
        (applyEvents (applyEvents (.empty 254) (up :: lost)).1 lost).1.defaultRoutes .inet =
          [.defaultVia .inet (.v4 0x0a000001#32) (some 2) 254 0] := by
  decide +kernel

end Engine

end DefaultGateway
