import DefaultGateway.Route

/-!
What the kernel reports: single changes, and everything at once.
-/

namespace DefaultGateway

inductive Event
  /-- A new interface, or a change to one other than going up or down. -/
  | linkAdd (link : Link)
  | linkUp (link : Link)
  | linkDown (link : Link)
  | linkDelete (index : LinkIndex)
  | addressAdd (address : InterfaceAddress)
  | addressDelete (address : InterfaceAddress)
  | routeAdd (route : Route)
  /-- A route put in the place of another. -/
  | routeChange (route : Route)
  | routeDelete (route : Route)
  deriving DecidableEq, Repr

/-- The families whose decision the event may change. -/
def Event.families : Event → List Family
  | .linkAdd _ | .linkUp _ | .linkDown _ | .linkDelete _ => Family.all
  | .addressAdd address | .addressDelete address => [address.family]
  | .routeAdd route | .routeChange route | .routeDelete route => [route.family]

/-- All that the kernel holds at one moment. -/
structure Snapshot where
  links : List Link
  addresses : List InterfaceAddress
  routes : List Route
  deriving DecidableEq, Repr

end DefaultGateway
