import DefaultGateway.Channel

/-!
A kernel held in memory, and sessions with it in which chosen requests fail.
-/

namespace DefaultGateway

structure Kernel where
  links : List Link := []
  addresses : List InterfaceAddress := []
  routes : List Route := []
  deriving DecidableEq, Repr, Inhabited

namespace Kernel

/-- Whether two routes claim the same place in the tables. -/
def sameSlot (a b : Route) : Bool :=
  a.destination == b.destination && a.table == b.table && a.metric == b.metric

/-- Puts a route into the place of the first that satisfies a test, or at the end. -/
def putFirst (test : Route → Bool) (route : Route) : List Route → List Route
  | [] => [route]
  | r :: rest => if test r then route :: rest else r :: putFirst test route rest

def add (k : Kernel) (route : Route) : Except Errno Kernel :=
  if k.routes.any (sameSlot route.stored) then .error .inUse
  else .ok { k with routes := k.routes ++ [route.stored] }

def replace (k : Kernel) (route : Route) : Kernel :=
  { k with routes := putFirst (sameSlot route.stored) route.stored k.routes }

/-- Whether a request to delete `route` fits `r`: what the request leaves out fits anything. -/
def deletes (route r : Route) : Bool :=
  sameSlot route r && route.gateway.all (fun gateway => r.gateway == some gateway) &&
    route.oif.all fun oif => r.oif == some oif

def delete (k : Kernel) (route : Route) : Except Errno Kernel :=
  if k.routes.any (deletes route.stored) then
    .ok { k with routes := k.routes.eraseP (deletes route.stored) }
  else .error .noProcess

def routesOf (k : Kernel) : Option Family → List Route
  | none => k.routes
  | some family => k.routes.filter (·.family == family)

inductive Request
  | dumpLinks
  | dumpAddresses
  | dumpRoutes (family : Option Family)
  | add (route : Route)
  | replace (route : Route)
  | delete (route : Route)
  | reopen
  deriving DecidableEq, Repr

instance : ToString Request where
  toString
    | .dumpLinks => "dump-links"
    | .dumpAddresses => "dump-addresses"
    | .dumpRoutes none => "dump-routes all"
    | .dumpRoutes (some family) => s!"dump-routes {family}"
    | .add route => s!"add {route}"
    | .replace route => s!"replace {route}"
    | .delete route => s!"delete {route}"
    | .reopen => "reopen"

/-- How a request is made to fail. -/
inductive Fault
  | refused (errno : Errno)
  | connectionLost
  deriving DecidableEq, Repr

def Fault.toError (operation : Operation) : Fault → Error
  | .refused errno => .kernel operation errno
  | .connectionLost => .netlink "connection reset"

/-- A kernel with the failures that await its next requests, and the requests made so far. -/
structure Session where
  kernel : Kernel
  /-- For each request to come that changes something, how it fails if it does. -/
  mutationFaults : List (Option Fault) := []
  dumpFaults : List (Option Fault) := []
  requests : List Request := []
  deriving DecidableEq, Repr, Inhabited

namespace Session

def log (request : Request) : Step Session Unit :=
  modify fun s => { s with requests := s.requests ++ [request] }

/-- Fails if the next fault of the queue says so. -/
def takeFault (queue : Session → List (Option Fault))
    (withQueue : Session → List (Option Fault) → Session) (operation : Operation) :
    Step Session Unit := do
  let session ← get
  match queue session with
  | [] => return
  | fault :: rest =>
    set (withQueue session rest)
    match fault with
    | some fault => throw (fault.toError operation)
    | none => return

def takeDumpFault : Step Session Unit :=
  takeFault dumpFaults (fun s faults => { s with dumpFaults := faults }) .dump

def takeMutationFault : Operation → Step Session Unit :=
  takeFault mutationFaults fun s faults => { s with mutationFaults := faults }

def dump {α : Type} (request : Request) (answer : Kernel → α) : Step Session α := do
  log request
  takeDumpFault
  return answer (← get).kernel

def mutate (request : Request) (operation : Operation)
    (change : Kernel → Except Errno Kernel) : Step Session Unit := do
  log request
  takeMutationFault operation
  let session ← get
  match change session.kernel with
  | .ok kernel => set { session with kernel := kernel }
  | .error errno => throw (.kernel operation errno)

instance : RouteChannel Session where
  dumpLinks := dump .dumpLinks Kernel.links
  dumpAddresses := dump .dumpAddresses Kernel.addresses
  dumpRoutes family := dump (.dumpRoutes family) (·.routesOf family)
  addRoute route := mutate (.add route) .addRoute (·.add route)
  replaceRoute route := mutate (.replace route) .replaceRoute fun k => .ok (k.replace route)
  deleteRoute route := mutate (.delete route) .deleteRoute (·.delete route)
  reopen := mutate .reopen .reopen .ok

end Session

end Kernel

end DefaultGateway
