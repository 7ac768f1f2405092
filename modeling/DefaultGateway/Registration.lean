import DefaultGateway.Engine

/-!
Registration of gateways by handlers. A registration is known by its key; registering the key
again takes the place of what was registered before, under a higher version.
-/

namespace DefaultGateway

/-- A registration made, as kept by the handler that made it. -/
structure Registration where
  key : Candidate.Key
  version : UInt64
  deriving DecidableEq, Repr, Inhabited

namespace Registration

instance : ToString Registration where
  toString r := s!"{r.key}@v{r.version}"

inductive Fault
  | interfaceName (name : String)
  | gatewayFamily (gateway : Address) (family : Family)
  | gatewayNotUnicast (gateway : Address)
  | sourceFamily (source : Address) (family : Family)
  deriving DecidableEq, Repr

namespace Fault

def message : Fault → String
  | .interfaceName name => s!"invalid interface name {Text.quoted name}"
  | .gatewayFamily gateway family => s!"gateway {gateway} is not an {family} address"
  | .gatewayNotUnicast gateway => s!"gateway {gateway} is not a unicast address"
  | .sourceFamily source family => s!"source {source} is not an {family} address"

def toError (fault : Fault) : Error := .invalidRegistration fault.message

end Fault

def longestInterfaceName : Nat := 15

def isInterfaceName (name : String) : Bool :=
  !name.isEmpty && name.utf8ByteSize ≤ longestInterfaceName &&
    name.toList.all fun c => c != '/' && c != ' '

def fault? (family : Family) (interface : String) (gateway : Address) (source : Option Address) :
    Option Fault :=
  if !isInterfaceName interface then some (.interfaceName interface)
  else if !family.contains gateway then some (.gatewayFamily gateway family)
  else if gateway.isUnspecified || gateway.isMulticast then some (.gatewayNotUnicast gateway)
  else match source with
    | some source => if family.contains source then none else some (.sourceFamily source family)
    | none => none

end Registration

namespace Engine

variable {σ : Type} [RouteChannel σ]

/-- Registers a valid gateway under its key with the next version. -/
def putCandidate (key : Candidate.Key) (gateway : Address) (source : Option Address) :
    Step (Engine σ) Registration := do
  let version ← nextVersion
  let _ ← registerCandidate ⟨key.protocol, key.family, key.interface, gateway, source, version⟩
  return ⟨key, version⟩

def register (key : Candidate.Key) (gateway : Address) (source : Option Address) :
    Step (Engine σ) Registration :=
  match Registration.fault? key.family key.interface gateway source with
  | some fault => throw fault.toError
  | none => putCandidate key gateway source

/-- Changes the gateway of a registration that is still live. -/
def update (registration : Registration) (gateway : Address) (source : Option Address) :
    Step (Engine σ) Registration :=
  match Registration.fault? registration.key.family registration.key.interface gateway source with
  | some fault => throw fault.toError
  | none => do
    if ((← get).model.candidate? registration.key).isNone then
      throw (.unknownRegistration (toString registration.key))
    else putCandidate registration.key gateway source

/-- Withdraws a registration that is still live. -/
def withdraw (registration : Registration) : Step (Engine σ) Unit := do
  if ((← get).model.candidate? registration.key).isNone then
    throw (.unknownRegistration (toString registration.key))
  else let _ ← withdrawCandidate registration.key

/-- The registration that a live candidate stands for. -/
def registration? (e : Engine σ) (key : Candidate.Key) : Option Registration :=
  (e.model.candidate? key).map fun c => ⟨key, c.version⟩

end Engine

end DefaultGateway
