import DefaultGateway.Event
import DefaultGateway.KeyedSet
import DefaultGateway.Selector

/-!
What is known of the kernel, and what handlers have proposed. Facts about the kernel change by its
events, by snapshots, and by the requests that the kernel has granted; every change says whether
it was one.
-/

namespace DefaultGateway

structure Model where
  /-- The table whose default routes are managed. -/
  table : UInt32
  links : KeyedSet Link.index
  addresses : SortedSet InterfaceAddress
  /-- Routes through an interface to something less than everything. -/
  linkRoutes : SortedSet Route
  /-- The default routes of the managed table. -/
  defaults : PerFamily (SortedSet Route)
  candidates : KeyedSet Candidate.key
  disabled : SortedSet Selector
  deriving DecidableEq, Inhabited

namespace Model

/-- The kernel's table of its own addresses; what it lists is not reached through a gateway. -/
def localTable : UInt32 := 255

def empty (table : UInt32) : Model where
  table := table
  links := ∅
  addresses := ∅
  linkRoutes := ∅
  defaults := .both ∅
  candidates := ∅
  disabled := ∅

/-! ## Views -/

def link? (m : Model) (index : LinkIndex) : Option Link := m.links.find? index

/-- The first interface of that name; one known by its index alone has none. -/
def linkNamed? (m : Model) (name : String) : Option Link :=
  m.links.toList.find? (·.name == some name)

def addressesOn (m : Model) (index : LinkIndex) : List InterfaceAddress :=
  m.addresses.toList.filter (·.index == index)

def hasAddress (m : Model) (index : LinkIndex) (a : Address) : Bool :=
  (m.addressesOn index).any (·.address == a)

def routesOn (m : Model) (index : LinkIndex) : List Route :=
  m.linkRoutes.toList.filter (·.oif == some index)

def defaultRoutes (m : Model) (family : Family) : List Route :=
  (m.defaults.get family).toList

def candidate? (m : Model) (key : Candidate.Key) : Option Candidate := m.candidates.find? key

def candidatesOf (m : Model) (family : Family) : List Candidate :=
  m.candidates.toList.filter (·.family == family)

def isDisabled (m : Model) (c : Candidate) : Bool := m.disabled.any (·.accepts c)

def sameFacts (m n : Model) : Bool :=
  m.links == n.links && m.addresses == n.addresses && m.linkRoutes == n.linkRoutes &&
    m.defaults == n.defaults

/-! ## Interfaces and addresses -/

def putLink (m : Model) (link : Link) : Model × Bool :=
  ({ m with links := m.links.insert link }, m.link? link.index != some link)

/-- Remembers an interface that something else has named by its index. -/
def ensureLink (m : Model) (index : LinkIndex) : Model :=
  if m.links.containsKey index then m
  else { m with links := m.links.insert (.placeholder index) }

def ensureOif (m : Model) (route : Route) : Model :=
  match route.oif with
  | some oif => m.ensureLink oif
  | none => m

def flushRoutesOn (m : Model) (index : LinkIndex) : Model :=
  { m with
    linkRoutes := m.linkRoutes.filter (·.oif != some index)
    defaults := m.defaults.map fun routes => routes.filter (·.oif != some index) }

/-- An interface that goes down loses its routes without a word about each of them. -/
def noteLink (m : Model) (link : Link) : Model × Bool :=
  let wasUp := (m.link? link.index).any (·.up)
  let (m, changed) := m.putLink link
  (if wasUp && !link.up then m.flushRoutesOn link.index else m, changed)

def dropLink (m : Model) (index : LinkIndex) : Model × Bool :=
  if m.links.containsKey index then
    let m := { m with
      links := m.links.erase index
      addresses := m.addresses.filter (·.index != index) }
    (m.flushRoutesOn index, true)
  else (m, false)

def addAddress (m : Model) (a : InterfaceAddress) : Model × Bool :=
  let m := m.ensureLink a.index
  ({ m with addresses := m.addresses.insert a }, a ∉ m.addresses)

def dropAddress (m : Model) (a : InterfaceAddress) : Model × Bool :=
  ({ m with addresses := m.addresses.erase a }, a ∈ m.addresses)

/-! ## Routes -/

/-- Whether two routes to the same destination push each other out. -/
def sameSlot (a b : Route) : Bool :=
  a.destination == b.destination && a.table == b.table && a.metric == b.metric

def addLinkRoute (m : Model) (route : Route) (replacing : Bool) : Model × Bool :=
  if route.oif.isNone || route.table == localTable then (m, false)
  else
    let kept := if replacing then m.linkRoutes.filter (!sameSlot · route) else m.linkRoutes
    ({ m with linkRoutes := kept.insert route }, route ∉ kept)

def addDefaultRoute (m : Model) (route : Route) (replacing : Bool) : Model × Bool :=
  if route.table ≠ m.table then (m, false)
  else
    let known := m.defaults.get route.family
    if route ∈ known then (m, false)
    else
      let kept := if replacing then known.filter (·.metric != route.metric) else known
      ({ m with defaults := m.defaults.set route.family (kept.insert route) }, true)

/-- Records a route. A replacing route pushes out what held its place: the link route to the same
destination in the same table, or the default route of the family, with the same metric. -/
def addRoute (m : Model) (route : Route) (replacing : Bool) : Model × Bool :=
  let m := m.ensureOif route
  if route.isDefault then m.addDefaultRoute route replacing else m.addLinkRoute route replacing

/-- Whether the description of a deleted default route fits a route: what it leaves out fits
anything. -/
def deletes (description route : Route) : Bool :=
  route.metric == description.metric &&
    description.gateway.all (fun gateway => route.gateway == some gateway) &&
    description.oif.all fun oif => route.oif == some oif

def dropRoute (m : Model) (route : Route) : Model × Bool :=
  if !route.isDefault then
    ({ m with linkRoutes := m.linkRoutes.erase route }, route ∈ m.linkRoutes)
  else if route.table ≠ m.table then (m, false)
  else
    let known := m.defaults.get route.family
    let kept := known.filter (!deletes route ·)
    ({ m with defaults := m.defaults.set route.family kept }, kept.size != known.size)

/-- Records a route that the kernel has granted. -/
def recordInstalled (m : Model) (route : Route) : Model := (m.addRoute route true).1

/-- Records that the kernel has deleted a route. -/
def recordWithdrawn (m : Model) (route : Route) : Model := (m.dropRoute route).1

/-! ## Events and snapshots -/

def applyLinkEvent (m : Model) : Event → Model × Bool
  | .linkAdd link | .linkUp link | .linkDown link => m.noteLink link
  | .linkDelete index => m.dropLink index
  | _ => (m, false)

def applyAddressEvent (m : Model) : Event → Model × Bool
  | .addressAdd a => m.addAddress a
  | .addressDelete a => m.dropAddress a
  | _ => (m, false)

def applyRouteEvent (m : Model) : Event → Model × Bool
  | .routeAdd route => m.addRoute route false
  | .routeChange route => m.addRoute route true
  | .routeDelete route => m.dropRoute route
  | _ => (m, false)

def apply (m : Model) (event : Event) : Model × Bool :=
  match event with
  | .linkAdd _ | .linkUp _ | .linkDown _ | .linkDelete _ => m.applyLinkEvent event
  | .addressAdd _ | .addressDelete _ => m.applyAddressEvent event
  | .routeAdd _ | .routeChange _ | .routeDelete _ => m.applyRouteEvent event

def ofSnapshot (table : UInt32) (s : Snapshot) : Model :=
  let m := s.links.foldl (fun m link => (m.putLink link).1) (empty table)
  let m := s.addresses.foldl (fun m a => (m.addAddress a).1) m
  s.routes.foldl (fun m route => (m.addRoute route false).1) m

/-- Puts a snapshot in the place of all that was known of the kernel. -/
def replaceFacts (m : Model) (s : Snapshot) : Model × Bool :=
  let fresh := ofSnapshot m.table s
  ({ fresh with candidates := m.candidates, disabled := m.disabled }, !fresh.sameFacts m)

/-- Puts the default routes of one family from a dump in the place of those known. -/
def resyncRoutes (m : Model) (family : Family) (routes : List Route) : Model × Bool :=
  let fresh : SortedSet Route := .ofList <|
    routes.filter fun r => r.isDefault && r.family == family && r.table == m.table
  ({ m with defaults := m.defaults.set family fresh }, fresh != m.defaults.get family)

/-! ## Candidates -/

/-- Adds a candidate, and gives the one it takes the place of. -/
def register (m : Model) (c : Candidate) : Model × Option Candidate :=
  ({ m with candidates := m.candidates.insert c }, m.candidate? c.key)

def withdraw (m : Model) (key : Candidate.Key) : Model × Option Candidate :=
  ({ m with candidates := m.candidates.erase key }, m.candidate? key)

def setDisabled (m : Model) (disabled : SortedSet Selector) : Model × Bool :=
  ({ m with disabled := disabled }, disabled != m.disabled)

end Model

end DefaultGateway
