import DefaultGateway.Proofs.Backstop
import DefaultGateway.Proofs.Mapping
import DefaultGateway.Proofs.Replay
import DefaultGateway.Proofs.Rereads

/-!
# The model as maps of rows

A model may be kept as maps: interfaces and candidates under keys that could differ from their own,
and under a family a set of default routes that could be empty or hold routes of another. Each
change is made to the maps row by row, and reports what it finds in them. Through every history the
maps stand for the model and report what it reports. So each row stands under its own key, under a
family there is a set only if it is not empty, and to compare the maps is to compare what they stand
for.
-/

namespace DefaultGateway

/-! ## Which routes the model keeps where -/

namespace Model

variable {m n : Model} {route : Route}

/-- Beside the default routes there are link routes only. -/
def Sifted (m : Model) : Prop := ∀ route ∈ m.linkRoutes, Event.isLinkRoute route = true

theorem Sifted.of_subset
    (sifted : m.Sifted) (subset : ∀ route ∈ n.linkRoutes, route ∈ m.linkRoutes) : n.Sifted :=
  fun route member => sifted route (subset route member)

theorem sifted_empty (table : UInt32) : (empty table).Sifted :=
  fun route member => absurd member (KeyedSet.not_mem_empty route)

theorem Sifted.addRoute (sifted : m.Sifted) (route : Route) (replacing : Bool) :
    (m.addRoute route replacing).1.Sifted := by
  intro other member
  rw [linkRoutes_addRoute] at member
  split at member
  · rename_i listed
    rcases KeyedSet.mem_insert_sorted.1 member with rfl | kept
    · exact listed
    · split at kept
      · exact sifted other (KeyedSet.mem_filter.1 kept).1
      · exact sifted other kept
  · exact sifted other member

theorem Sifted.dropRoute (sifted : m.Sifted) (route : Route) : (m.dropRoute route).1.Sifted := by
  refine sifted.of_subset fun other member => ?_
  rw [Model.dropRoute] at member
  split at member
  · exact (KeyedSet.mem_erase_sorted.1 member).1
  · split at member
    · exact member
    · exact member

theorem Sifted.addAddress (sifted : m.Sifted) (a : InterfaceAddress) :
    (m.addAddress a).1.Sifted := by
  refine sifted.of_subset fun other member => ?_
  simpa only [Model.addAddress, ensureLink_eq] using member

theorem Sifted.noteLink (sifted : m.Sifted) (link : Link) : (m.noteLink link).1.Sifted := by
  refine sifted.of_subset fun other member => ?_
  simp only [Model.noteLink] at member
  split at member
  · exact (KeyedSet.mem_filter.1 member).1
  · exact member

theorem Sifted.dropLink (sifted : m.Sifted) (index : LinkIndex) :
    (m.dropLink index).1.Sifted := by
  refine sifted.of_subset fun other member => ?_
  rw [Model.dropLink] at member
  split at member
  · exact (KeyedSet.mem_filter.1 member).1
  · exact member

theorem sifted_ofSnapshot (table : UInt32) (s : Snapshot) : (ofSnapshot table s).Sifted := by
  have links : (s.links.foldl (fun m link => (m.putLink link).1) (empty table)).Sifted :=
    List.foldlRecOn s.links _ (sifted_empty table) fun _ sifted _ _ => sifted
  have addresses := List.foldlRecOn s.addresses (fun m a => (m.addAddress a).1) links
    fun _ sifted a _ => sifted.addAddress a
  exact List.foldlRecOn s.routes _ addresses fun _ sifted route _ => sifted.addRoute route false

theorem Sifted.undergo (sifted : m.Sifted) (mutation : Mutation) :
    (m.undergo mutation).Sifted := by
  cases mutation with
  | event event =>
      cases event with
      | linkAdd link => exact sifted.noteLink link
      | linkUp link => exact sifted.noteLink link
      | linkDown link => exact sifted.noteLink link
      | linkDelete index => exact sifted.dropLink index
      | addressAdd a => exact sifted.addAddress a
      | addressDelete a => exact sifted
      | routeAdd route => exact sifted.addRoute route false
      | routeChange route => exact sifted.addRoute route true
      | routeDelete route => exact sifted.dropRoute route
  | snapshot s => exact sifted_ofSnapshot m.table s
  | installed route => exact sifted.addRoute route true
  | withdrawn route => exact sifted.dropRoute route
  | _ => exact sifted

/-- Whatever is done to a model, apart from what handlers have proposed, updates facts. -/
theorem updatesFacts_undergo (m : Model) (mutation : Mutation) :
    UpdatesFacts m ((m.undergo mutation).withRegistry m) := by
  have facts {n : Model} (updated : UpdatesFacts m n) : UpdatesFacts m (n.withRegistry m) :=
    ⟨updated.table, rfl, rfl, updated.defaults⟩
  cases mutation with
  | event event => exact facts (updatesFacts_apply m event)
  | snapshot s => exact facts (updatesFacts_replaceFacts m s)
  | reread family routes => exact facts (updatesFacts_resyncRoutes m family routes)
  | installed route => exact facts (updatesFacts_addRoute m route true)
  | withdrawn route => exact facts (updatesFacts_dropRoute m route)
  | _ => exact .refl m

theorem table_undergoAll (table : UInt32) (history : List Mutation) :
    ((empty table).undergoAll history).table = table :=
  List.foldlRecOn (motive := fun m => m.table = table) history undergo rfl
    fun m same mutation _ => (updatesFacts_undergo m mutation).table.trans same

theorem sifted_undergoAll (table : UInt32) (history : List Mutation) :
    ((empty table).undergoAll history).Sifted :=
  List.foldlRecOn history undergo (sifted_empty table) fun _ sifted mutation _ =>
    sifted.undergo mutation

theorem tidy_undergoAll (table : UInt32) (history : List Mutation) :
    ((empty table).undergoAll history).Tidy :=
  List.foldlRecOn history undergo (tidy_empty table) fun m tidy mutation _ =>
    (updatesFacts_undergo m mutation).tidy tidy

end Model

/-! ## The same as maps -/

structure Inventory where
  /-- The table whose default routes are managed. -/
  table : UInt32
  links : Mapping LinkIndex Link
  addresses : SortedSet InterfaceAddress
  /-- Routes through an interface to something less than everything. -/
  linkRoutes : SortedSet Route
  /-- The default routes of the managed table. -/
  defaults : Mapping Family (SortedSet Route)
  candidates : Mapping Candidate.Key Candidate
  disabled : SortedSet Selector
  deriving DecidableEq

namespace Inventory

def new (table : UInt32) : Inventory where
  table := table
  links := ∅
  addresses := ∅
  linkRoutes := ∅
  defaults := ∅
  candidates := ∅
  disabled := ∅

def defaultRoutes (t : Inventory) (family : Family) : List Route :=
  ((t.defaults.get? family).getD ∅).toList

/-! ## Interfaces and addresses -/

def putLink (t : Inventory) (link : Link) : Inventory × Bool :=
  if t.links.get? link.index = some link then (t, false)
  else ({ t with links := t.links.put link.index link }, true)

def ensureLink (t : Inventory) (index : LinkIndex) : Inventory :=
  match t.links.get? index with
  | some _ => t
  | none => { t with links := t.links.put index (.placeholder index) }

def flushRoutesOn (t : Inventory) (index : LinkIndex) : Inventory :=
  { t with
    linkRoutes := t.linkRoutes.filter (·.oif != some index)
    defaults :=
      (t.defaults.mapValues (·.filter (·.oif != some index))).retain (!·.isEmpty) }

def noteLink (t : Inventory) (link : Link) : Inventory × Bool :=
  let wasUp := (t.links.get? link.index).any (·.up)
  let (t, changed) := t.putLink link
  (if wasUp && !link.up then t.flushRoutesOn link.index else t, changed)

def dropLink (t : Inventory) (index : LinkIndex) : Inventory × Bool :=
  match t.links.get? index with
  | none => (t, false)
  | some _ =>
    let t := { t with
      links := t.links.remove index
      addresses := t.addresses.filter (·.index != index) }
    (t.flushRoutesOn index, true)

def addAddress (t : Inventory) (a : InterfaceAddress) : Inventory × Bool :=
  let t := t.ensureLink a.index
  ({ t with addresses := t.addresses.insert a }, a ∉ t.addresses)

def dropAddress (t : Inventory) (a : InterfaceAddress) : Inventory × Bool :=
  ({ t with addresses := t.addresses.erase a }, a ∈ t.addresses)

/-! ## Routes -/

def ensureOif (t : Inventory) (route : Route) : Inventory :=
  match route.oif with
  | some oif => t.ensureLink oif
  | none => t

def addLinkRoute (t : Inventory) (route : Route) (replacing : Bool) : Inventory × Bool :=
  if route.oif.isNone || route.table == Model.localTable then (t, false)
  else
    let kept :=
      if replacing then t.linkRoutes.filter (!Model.sameSlot · route) else t.linkRoutes
    ({ t with linkRoutes := kept.insert route }, route ∉ kept)

/-- The set of the family comes to stand before it is looked at. -/
def addDefaultRoute (t : Inventory) (route : Route) (replacing : Bool) : Inventory × Bool :=
  if route.table ≠ t.table then (t, false)
  else
    let known := (t.defaults.get? route.family).getD ∅
    let t := { t with defaults := t.defaults.put route.family known }
    if route ∈ known then (t, false)
    else
      let kept := if replacing then known.filter (·.metric != route.metric) else known
      ({ t with defaults := t.defaults.put route.family (kept.insert route) }, true)

def addRoute (t : Inventory) (route : Route) (replacing : Bool) : Inventory × Bool :=
  let t := t.ensureOif route
  if route.isDefault then t.addDefaultRoute route replacing else t.addLinkRoute route replacing

/-- A set of which nothing is left is dropped. -/
def dropRoute (t : Inventory) (route : Route) : Inventory × Bool :=
  if !route.isDefault then
    ({ t with linkRoutes := t.linkRoutes.erase route }, route ∈ t.linkRoutes)
  else if route.table ≠ t.table then (t, false)
  else
    match t.defaults.get? route.family with
    | none => (t, false)
    | some known =>
      let kept := known.filter (!Model.deletes route ·)
      let standing := t.defaults.put route.family kept
      ({ t with
          defaults := if kept.isEmpty then standing.remove route.family else standing },
        kept.size != known.size)

/-! ## Events and snapshots -/

def apply (t : Inventory) : Event → Inventory × Bool
  | .linkAdd link | .linkUp link | .linkDown link => t.noteLink link
  | .linkDelete index => t.dropLink index
  | .addressAdd a => t.addAddress a
  | .addressDelete a => t.dropAddress a
  | .routeAdd route => t.addRoute route false
  | .routeChange route => t.addRoute route true
  | .routeDelete route => t.dropRoute route

def ofSnapshot (table : UInt32) (s : Snapshot) : Inventory :=
  let t := s.links.foldl (fun t link => (t.putLink link).1) (new table)
  let t := s.addresses.foldl (fun t a => (t.addAddress a).1) t
  s.routes.foldl (fun t route => (t.addRoute route false).1) t

def replaceFacts (t : Inventory) (s : Snapshot) : Inventory × Bool :=
  let fresh := ofSnapshot t.table s
  ({ t with
      links := fresh.links
      addresses := fresh.addresses
      linkRoutes := fresh.linkRoutes
      defaults := fresh.defaults },
    fresh.links != t.links || fresh.addresses != t.addresses ||
      fresh.linkRoutes != t.linkRoutes || fresh.defaults != t.defaults)

def resyncRoutes (t : Inventory) (family : Family) (routes : List Route) : Inventory × Bool :=
  let fresh : SortedSet Route := .ofList <|
    routes.filter fun r => r.isDefault && r.family == family && r.table == t.table
  let current := (t.defaults.get? family).getD ∅
  let others := t.defaults.remove family
  ({ t with defaults := if fresh.isEmpty then others else others.put family fresh },
    current != fresh)

/-! ## Candidates -/

def register (t : Inventory) (c : Candidate) : Inventory × Option Candidate :=
  ({ t with candidates := t.candidates.put c.key c }, t.candidates.get? c.key)

def withdraw (t : Inventory) (key : Candidate.Key) : Inventory × Option Candidate :=
  ({ t with candidates := t.candidates.remove key }, t.candidates.get? key)

def setDisabled (t : Inventory) (disabled : SortedSet Selector) : Inventory × Bool :=
  if t.disabled = disabled then (t, false) else ({ t with disabled := disabled }, true)

def undergo (t : Inventory) : Model.Mutation → Inventory
  | .event event => (t.apply event).1
  | .snapshot s => (t.replaceFacts s).1
  | .reread family routes => (t.resyncRoutes family routes).1
  | .installed route => (t.addRoute route true).1
  | .withdrawn route => (t.dropRoute route).1
  | .register c => (t.register c).1
  | .withdraw key => (t.withdraw key).1
  | .setDisabled disabled => (t.setDisabled disabled).1

def undergoAll (t : Inventory) (history : List Model.Mutation) : Inventory :=
  history.foldl undergo t

/-! ## Maps that stand for a model -/

/-- The maps have what the model has, each row under its own key and no empty set. -/
structure Represents (t : Inventory) (m : Model) : Prop where
  table : t.table = m.table
  links : t.links.Lists m.links
  addresses : t.addresses = m.addresses
  linkRoutes : t.linkRoutes = m.linkRoutes
  defaults : t.defaults.Stocks m.defaults
  candidates : t.candidates.Lists m.candidates
  disabled : t.disabled = m.disabled

/-- Two changes leave maps and a model that they stand for, and report the same. -/
structure Matches {α : Type} (left : Inventory × α) (right : Model × α) : Prop where
  represents : left.1.Represents right.1
  report : left.2 = right.2

variable {t : Inventory} {m : Model} {index : LinkIndex} {link : Link} {route : Route}

theorem represents_new (table : UInt32) : (new table).Represents (.empty table) where
  table := rfl
  links := .empty
  addresses := rfl
  linkRoutes := rfl
  defaults := .empty
  candidates := .empty
  disabled := rfl

namespace Represents

theorem putLink (represents : t.Represents m) (link : Link) :
    Matches (t.putLink link) (m.putLink link) := by
  have found := represents.links link.index
  rw [Inventory.putLink, Model.putLink, Model.link?, ← found]
  split
  · rename_i known
    -- What stands there already may as well be put there again.
    have member : link ∈ m.links :=
      (KeyedSet.find?_eq_some_iff_key_eq.1 (found.symm.trans known)).1
    refine ⟨?_, by simp [known]⟩
    rw [KeyedSet.insert_of_mem member]
    exact represents
  · rename_i unknown
    exact ⟨{ represents with links := represents.links.put link }, by simp [unknown]⟩

theorem ensureLink (represents : t.Represents m) (index : LinkIndex) :
    (t.ensureLink index).Represents (m.ensureLink index) := by
  rw [Inventory.ensureLink, Model.ensureLink, KeyedSet.containsKey, ← represents.links index]
  cases t.links.get? index with
  | some link => exact represents
  | none => exact { represents with links := represents.links.put (.placeholder index) }

theorem ensureOif (represents : t.Represents m) (route : Route) :
    (t.ensureOif route).Represents (m.ensureOif route) := by
  rw [Inventory.ensureOif, Model.ensureOif]
  cases route.oif with
  | some oif => exact represents.ensureLink oif
  | none => exact represents

theorem flushRoutesOn (represents : t.Represents m) (index : LinkIndex) :
    (t.flushRoutesOn index).Represents (m.flushRoutesOn index) :=
  { represents with
    linkRoutes := congrArg (·.filter (·.oif != some index)) represents.linkRoutes
    defaults := represents.defaults.filter (·.oif != some index) }

theorem noteLink (represents : t.Represents m) (link : Link) :
    Matches (t.noteLink link) (m.noteLink link) := by
  have put := represents.putLink link
  rw [Inventory.noteLink, Model.noteLink, Model.link?, ← represents.links link.index]
  refine ⟨?_, put.report⟩
  dsimp only
  split
  · exact put.represents.flushRoutesOn link.index
  · exact put.represents

theorem dropLink (represents : t.Represents m) (index : LinkIndex) :
    Matches (t.dropLink index) (m.dropLink index) := by
  rw [Inventory.dropLink, Model.dropLink, KeyedSet.containsKey, ← represents.links index]
  cases t.links.get? index with
  | none => exact ⟨represents, rfl⟩
  | some link =>
      refine ⟨Represents.flushRoutesOn ?_ index, rfl⟩
      exact { represents with
        links := represents.links.remove index
        addresses := congrArg (·.filter (·.index != index)) represents.addresses }

theorem addAddress (represents : t.Represents m) (a : InterfaceAddress) :
    Matches (t.addAddress a) (m.addAddress a) := by
  have ensured := represents.ensureLink a.index
  rw [Inventory.addAddress, Model.addAddress, ensured.addresses]
  exact ⟨{ ensured with addresses := rfl }, rfl⟩

theorem dropAddress (represents : t.Represents m) (a : InterfaceAddress) :
    Matches (t.dropAddress a) (m.dropAddress a) := by
  rw [Inventory.dropAddress, Model.dropAddress, represents.addresses]
  exact ⟨{ represents with addresses := rfl }, rfl⟩

/-! ### Routes -/

theorem addLinkRoute (represents : t.Represents m) (route : Route) (replacing : Bool) :
    Matches (t.addLinkRoute route replacing) (m.addLinkRoute route replacing) := by
  rw [Inventory.addLinkRoute, Model.addLinkRoute, represents.linkRoutes]
  split
  · exact ⟨represents, rfl⟩
  · exact ⟨{ represents with linkRoutes := rfl }, rfl⟩

theorem addDefaultRoute (represents : t.Represents m) (route : Route) (replacing : Bool) :
    Matches (t.addDefaultRoute route replacing) (m.addDefaultRoute route replacing) := by
  have known := represents.defaults.getD route.family
  rw [Inventory.addDefaultRoute, Model.addDefaultRoute, represents.table, known]
  split
  · exact ⟨represents, rfl⟩
  · dsimp only
    split
    · rename_i member
      -- A set that holds the route is not empty, so it stood there before it was looked at.
      have stood : Mapping.stocked (m.defaults.get route.family) =
          some (m.defaults.get route.family) := Mapping.stocked_of_mem member
      have defaults :
          (t.defaults.put route.family (m.defaults.get route.family)).Stocks
            (m.defaults.set route.family (m.defaults.get route.family)) :=
        represents.defaults.set fun other => by rw [Mapping.get?_put, stood]
      rw [PerFamily.set_get] at defaults
      exact ⟨{ represents with table := rfl, defaults := defaults }, rfl⟩
    · refine ⟨{ represents with
        table := rfl
        defaults := represents.defaults.set fun other => ?_ }, rfl⟩
      rw [Mapping.get?_put, Mapping.get?_put,
        Mapping.stocked_of_mem (KeyedSet.mem_insert_sorted.2 (.inl rfl))]
      split <;> rfl

theorem addRoute (represents : t.Represents m) (route : Route) (replacing : Bool) :
    Matches (t.addRoute route replacing) (m.addRoute route replacing) := by
  have ensured := represents.ensureOif route
  rw [Inventory.addRoute, Model.addRoute]
  split
  · exact ensured.addDefaultRoute route replacing
  · exact ensured.addLinkRoute route replacing

theorem dropRoute (represents : t.Represents m) (route : Route) :
    Matches (t.dropRoute route) (m.dropRoute route) := by
  have stands := represents.defaults route.family
  rw [Inventory.dropRoute, Model.dropRoute, represents.table, represents.linkRoutes]
  split
  · exact ⟨{ represents with table := rfl, linkRoutes := rfl }, rfl⟩
  · split
    · exact ⟨represents, rfl⟩
    · cases found : t.defaults.get? route.family with
      | none =>
          have nothing : m.defaults.get route.family = ∅ := by
            rw [← represents.defaults.getD route.family, found]
            rfl
          have same : m.defaults.set route.family ∅ = m.defaults := by
            rw [← nothing, PerFamily.set_get]
          have filtered (keep : Route → Bool) : (∅ : SortedSet Route).filter keep = ∅ := rfl
          simp only [nothing, filtered, same]
          exact ⟨represents, rfl⟩
      | some known =>
          have listed : m.defaults.get route.family = known := by
            rw [← represents.defaults.getD route.family, found]
            rfl
          simp only [listed]
          refine ⟨{ represents with
            table := rfl
            linkRoutes := rfl
            defaults := represents.defaults.set fun other => ?_ }, rfl⟩
          cases nothing : (known.filter (!Model.deletes route ·)).isEmpty with
          | true =>
              simp only [if_true, Mapping.stocked, nothing, Mapping.get?_remove, Mapping.get?_put]
              split <;> rfl
          | false =>
              simp only [Bool.false_eq_true, if_false, Mapping.stocked, nothing, Mapping.get?_put]

theorem resyncRoutes (represents : t.Represents m) (family : Family) (routes : List Route) :
    Matches (t.resyncRoutes family routes) (m.resyncRoutes family routes) := by
  have known := represents.defaults.getD family
  simp only [Inventory.resyncRoutes, Model.resyncRoutes, represents.table, known]
  generalize
    (KeyedSet.ofList (routes.filter fun r =>
      r.isDefault && r.family == family && r.table == m.table) : SortedSet Route) = fresh
  refine ⟨{ represents with
    table := rfl
    defaults := represents.defaults.set fun other => ?_ }, bne_comm⟩
  cases nothing : fresh.isEmpty with
  | true => simp only [if_true, Mapping.stocked, nothing, Mapping.get?_remove]
  | false =>
      simp only [Bool.false_eq_true, if_false, Mapping.stocked, nothing, Mapping.get?_put,
        Mapping.get?_remove]
      split <;> rfl

/-! ### Events and snapshots -/

theorem apply (represents : t.Represents m) (event : Event) :
    Matches (t.apply event) (m.apply event) := by
  cases event with
  | linkAdd link => exact represents.noteLink link
  | linkUp link => exact represents.noteLink link
  | linkDown link => exact represents.noteLink link
  | linkDelete index => exact represents.dropLink index
  | addressAdd a => exact represents.addAddress a
  | addressDelete a => exact represents.dropAddress a
  | routeAdd route => exact represents.addRoute route false
  | routeChange route => exact represents.addRoute route true
  | routeDelete route => exact represents.dropRoute route

theorem foldl
    {ι : Type} {change : Inventory → ι → Inventory} {modelChange : Model → ι → Model}
    (single : ∀ {t m}, t.Represents m → ∀ i, (change t i).Represents (modelChange m i))
    (represents : t.Represents m) (l : List ι) :
    (l.foldl change t).Represents (l.foldl modelChange m) := by
  induction l generalizing t m with
  | nil => exact represents
  | cons first rest inductionHypothesis => exact inductionHypothesis (single represents first)

theorem ofSnapshot (table : UInt32) (s : Snapshot) :
    (Inventory.ofSnapshot table s).Represents (.ofSnapshot table s) :=
  (((represents_new table).foldl (fun h link => (h.putLink link).represents) s.links).foldl
    (fun h a => (h.addAddress a).represents) s.addresses).foldl
    (fun h route => (h.addRoute route false).represents) s.routes

theorem replaceFacts (represents : t.Represents m) (s : Snapshot) :
    Matches (t.replaceFacts s) (m.replaceFacts s) := by
  have fresh := ofSnapshot m.table s
  have links := fresh.links.eq_iff represents.links
  have defaults := fresh.defaults.eq_iff represents.defaults
  simp only [Inventory.replaceFacts, Model.replaceFacts, represents.table]
  refine ⟨{ fresh with
    table := (Model.updatesFacts_ofSnapshot m.table s).table.symm
    candidates := represents.candidates
    disabled := represents.disabled }, ?_⟩
  rw [Bool.eq_iff_iff]
  simp only [Model.sameFacts, Bool.or_eq_true, bne_iff_ne, ne_eq, links, fresh.addresses,
    represents.addresses, fresh.linkRoutes, represents.linkRoutes, defaults, Bool.not_eq_true',
    Bool.and_eq_false_iff, beq_eq_false_iff_ne]

theorem setDisabled (represents : t.Represents m) (disabled : SortedSet Selector) :
    Matches (t.setDisabled disabled) (m.setDisabled disabled) := by
  rw [Inventory.setDisabled, Model.setDisabled, represents.disabled]
  split
  · rename_i same
    subst same
    exact ⟨{ represents with }, by simp⟩
  · rename_i differs
    exact ⟨{ represents with disabled := rfl }, by simpa using Ne.symm differs⟩

theorem register (represents : t.Represents m) (c : Candidate) :
    Matches (t.register c) (m.register c) :=
  ⟨{ represents with candidates := represents.candidates.put c }, represents.candidates c.key⟩

theorem withdraw (represents : t.Represents m) (key : Candidate.Key) :
    Matches (t.withdraw key) (m.withdraw key) :=
  ⟨{ represents with candidates := represents.candidates.remove key }, represents.candidates key⟩

theorem undergo (represents : t.Represents m) (mutation : Model.Mutation) :
    (t.undergo mutation).Represents (m.undergo mutation) := by
  cases mutation with
  | event event => exact (represents.apply event).represents
  | snapshot s => exact (represents.replaceFacts s).represents
  | reread family routes => exact (represents.resyncRoutes family routes).represents
  | installed route => exact (represents.addRoute route true).represents
  | withdrawn route => exact (represents.dropRoute route).represents
  | register c => exact (represents.register c).represents
  | withdraw key => exact (represents.withdraw key).represents
  | setDisabled disabled => exact (represents.setDisabled disabled).represents

theorem defaultRoutes_eq (represents : t.Represents m) (family : Family) :
    t.defaultRoutes family = m.defaultRoutes family := by
  rw [defaultRoutes, represents.defaults.getD family, Model.defaultRoutes]

end Represents

/-- Through every history the maps stand for the model. -/
theorem represents_undergoAll (table : UInt32) (history : List Model.Mutation) :
    ((new table).undergoAll history).Represents ((Model.empty table).undergoAll history) :=
  (represents_new table).foldl Represents.undergo history

/-! ## Main result -/

/-- Under a family stands a set that is not empty, of default routes of the family in the managed
table; beside them there are routes to less than everything, through an interface, and not in the
kernel's own table; and each interface stands under its own index. -/
structure Sound (t : Inventory) : Prop where
  defaults :
    ∀ family routes, (family, routes) ∈ t.defaults →
      routes ≠ ∅ ∧
        ∀ route ∈ routes,
          route.destination.length = 0 ∧ route.family = family ∧ route.table = t.table
  linkRoutes :
    ∀ route ∈ t.linkRoutes,
      0 < route.destination.length ∧ route.oif ≠ none ∧ route.table ≠ 255
  links : ∀ index link, (index, link) ∈ t.links → link.index = index

theorem Represents.sound
    (represents : t.Represents m) (tidy : m.Tidy) (sifted : m.Sifted) : t.Sound where
  defaults family routes stands := by
    have listed : m.defaults.get family = routes := by
      rw [← represents.defaults.getD family, Mapping.mem_iff_get?.1 stands, Option.getD_some]
    refine ⟨represents.defaults.ne_empty stands, fun route member => ?_⟩
    rw [← listed] at member
    obtain ⟨isDefault, ours, sameTable⟩ := Route.isManaged_iff.1 (tidy family route member)
    exact ⟨beq_iff_eq.1 isDefault, ours, sameTable.trans represents.table.symm⟩
  linkRoutes route member := by
    rw [represents.linkRoutes] at member
    have listed := sifted route member
    simp only [Event.isLinkRoute, Bool.and_eq_true, Bool.not_eq_true', Bool.or_eq_false_iff,
      Option.isNone_eq_false_iff, beq_eq_false_iff_ne] at listed
    obtain ⟨notDefault, through, elsewhere⟩ := listed
    have something : route.destination.length ≠ 0 := by
      simpa [Route.isDefault, Prefix.isDefault] using notDefault
    exact ⟨Nat.pos_of_ne_zero something, Option.isSome_iff_ne_none.1 through, elsewhere⟩
  links index link stands := represents.links.key_eq stands

theorem defaultRoutes_ne_iff {u : Inventory} {n : Model} {family : Family}
    (represents : t.Represents m) (other : u.Represents n) :
    u.defaultRoutes family ≠ t.defaultRoutes family ↔
      n.defaults.get family ≠ m.defaults.get family := by
  rw [represents.defaultRoutes_eq, other.defaultRoutes_eq, Model.defaultRoutes,
    Model.defaultRoutes]
  refine not_congr ⟨fun same => KeyedSet.ext fun route => ?_, congrArg KeyedSet.toList⟩
  rw [← KeyedSet.mem_toList, same, KeyedSet.mem_toList]

/-- The maps of default routes differ exactly if the routes of some family do. -/
theorem defaults_ne_iff {u : Inventory} {n : Model}
    (represents : t.Represents m) (other : u.Represents n) :
    u.defaults ≠ t.defaults ↔ ∃ family, u.defaultRoutes family ≠ t.defaultRoutes family := by
  rw [Ne, other.defaults.eq_iff represents.defaults]
  simp only [defaultRoutes_ne_iff represents other]
  constructor
  · intro differs
    by_contra same
    exact differs (PerFamily.ext_get fun family => by simpa using (not_exists.1 same) family)
  · rintro ⟨family, apart⟩ same
    exact apart (congrArg (PerFamily.get · family) same)

/-- A dump of one family's routes leaves what a snapshot with these routes would. -/
theorem resyncRoutes_eq_replaceFacts (m : Model) (family : Family) (s : Snapshot) :
    (m.resyncRoutes family s.routes).1.defaults.get family =
      (m.replaceFacts s).1.defaults.get family := by
  apply KeyedSet.ext
  intro route
  refine Iff.trans ?_ (Model.mem_defaults_ofSnapshot m.table s family route).symm
  simp only [Model.resyncRoutes, PerFamily.get_set_self, KeyedSet.mem_ofList_sorted,
    List.mem_filter]
  rfl

/-- Through every history of changes the maps are sound and stand for the model, and what a change
reports is the same for both. A snapshot reports a change exactly if interfaces, addresses, link
routes or the default routes of some family differ. A dump of one family's routes does so exactly
if the default routes of the family differ; it leaves the other family alone, and for its own it
leaves what a snapshot with the same routes would. -/
theorem sound_of_history (table : UInt32) (history : List Model.Mutation) :
    let t := (new table).undergoAll history
    let m := (Model.empty table).undergoAll history
    t.table = table ∧ t.Sound ∧ t.Represents m ∧
      (∀ event, (t.apply event).2 = (m.apply event).2) ∧
      (∀ s,
        let replaced := t.replaceFacts s
        replaced.2 = (m.replaceFacts s).2 ∧
          (replaced.2 = true ↔
            replaced.1.links ≠ t.links ∨ replaced.1.addresses ≠ t.addresses ∨
              replaced.1.linkRoutes ≠ t.linkRoutes ∨
              ∃ family, replaced.1.defaultRoutes family ≠ t.defaultRoutes family)) ∧
      ∀ family routes,
        let reread := t.resyncRoutes family routes
        reread.2 = (m.resyncRoutes family routes).2 ∧
          (reread.2 = true ↔ reread.1.defaultRoutes family ≠ t.defaultRoutes family) ∧
          (∀ other, other ≠ family → reread.1.defaults.get? other = t.defaults.get? other) ∧
          ∀ s : Snapshot, s.routes = routes →
            reread.1.defaults.get? family = (t.replaceFacts s).1.defaults.get? family := by
  intro t m
  have represents : t.Represents m := represents_undergoAll table history
  have sound := represents.sound (Model.tidy_undergoAll table history)
    (Model.sifted_undergoAll table history)
  refine ⟨represents.table.trans (Model.table_undergoAll table history), sound, represents,
    fun event => (represents.apply event).report, fun s => ?_, fun family routes => ?_⟩
  · intro replaced
    have after := represents.replaceFacts s
    refine ⟨after.report, ?_⟩
    have compared :
        replaced.2 =
          (replaced.1.links != t.links || replaced.1.addresses != t.addresses ||
            replaced.1.linkRoutes != t.linkRoutes || replaced.1.defaults != t.defaults) := rfl
    rw [compared, ← defaults_ne_iff represents after.represents]
    simp only [Bool.or_eq_true, bne_iff_ne, or_assoc]
    rfl
  · intro reread
    have after := represents.resyncRoutes family routes
    refine ⟨after.report, ?_, fun other apart => ?_, ?_⟩
    · have compared :
          (m.resyncRoutes family routes).2 = true ↔
            (m.resyncRoutes family routes).1.defaults.get family ≠ m.defaults.get family := by
        simp only [Model.resyncRoutes, bne_iff_ne, PerFamily.get_set_self]
      rw [after.report, compared]
      exact (defaultRoutes_ne_iff represents after.represents).symm
    · have untouched :
          (m.resyncRoutes family routes).1.defaults.get other = m.defaults.get other :=
        PerFamily.get_set_of_ne _ apart _
      exact (after.represents.defaults other).trans
        (untouched ▸ (represents.defaults other).symm)
    · rintro s rfl
      have replaced := represents.replaceFacts s
      refine (after.represents.defaults family).trans ?_
      rw [replaced.represents.defaults family, resyncRoutes_eq_replaceFacts]

end Inventory

end DefaultGateway
