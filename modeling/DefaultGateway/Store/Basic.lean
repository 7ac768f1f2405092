import DefaultGateway.Error
import DefaultGateway.Instant.Basic
import DefaultGateway.KeyedSet
import DefaultGateway.Policy

/-!
The registration store: the gateways that handlers have registered, and the selectors of those
that are disabled. It outlives the daemon and the handlers.
-/

namespace DefaultGateway

structure StoredGateway where
  family : Family
  link : String
  protocol : Protocol
  address : Address
  source : Option Address
  version : UInt64
  registeredAt : Instant
  deriving DecidableEq, Repr, Inhabited

namespace StoredGateway

def key (g : StoredGateway) : Candidate.Key := ⟨g.protocol, g.link, g.family⟩

def candidate (g : StoredGateway) : Candidate :=
  ⟨g.protocol, g.family, g.link, g.address, g.source, g.version⟩

/-- Whether two entries of one key register the same. -/
def sameRegistration (g h : StoredGateway) : Bool :=
  g.address == h.address && g.source == h.source && g.version == h.version

end StoredGateway

structure Store where
  gateways : List StoredGateway := []
  disabled : SortedSet Selector := ∅
  deriving DecidableEq, Inhabited

namespace Store

inductive AddFault
  | addressFamily (family : Family) (link : String)
  | emptyLink
  deriving DecidableEq, Repr

namespace AddFault

def message : AddFault → String
  | .addressFamily family link => s!"{family} address expected for {link}"
  | .emptyLink => "empty link name"

def toError (fault : AddFault) : Error := .invalidRegistration fault.message

end AddFault

def addFault? (key : Candidate.Key) (address : Address) (source : Option Address) :
    Option AddFault :=
  if !key.family.contains address || source.any (!key.family.contains ·) then
    some (.addressFamily key.family key.interface)
  else if key.interface.isEmpty then some .emptyLink
  else none

def highest (s : Store) : UInt64 := s.gateways.foldl (fun version g => max version g.version) 0

/-- The version of the next entry, above all in the store. There may be none left. -/
def nextVersion (s : Store) : Except Error UInt64 :=
  if s.highest.toNat + 1 < UInt64.size then .ok (s.highest + 1) else .error .overflow

/-- The gateways in the order of their keys; equal keys keep their order. -/
def sortGateways (gateways : List StoredGateway) : List StoredGateway :=
  gateways.mergeSort fun g h => (compare g.key h.key).isLE

def remove (s : Store) (selector : Selector) : Store :=
  { s with gateways := s.gateways.filter (!selector.matchesKey ·.key) }

def count (s : Store) (selector : Selector) : Nat :=
  (s.gateways.filter (selector.matchesKey ·.key)).length

/-- Puts a gateway in place of any other of its key, under the next version, and gives the first
entry of that version. -/
def add (s : Store) (now : Instant) (key : Candidate.Key) (address : Address)
    (source : Option Address) : Except Error (StoredGateway × Store) :=
  match addFault? key address source with
  | some fault => .error fault.toError
  | none => do
    let version ← s.nextVersion
    let gateway : StoredGateway :=
      ⟨key.family, key.interface, key.protocol, address, source, version, now⟩
    let others := s.remove ⟨some key.family, some key.interface, some key.protocol⟩
    let gateways := sortGateways (others.gateways ++ [gateway])
    match gateways.find? (·.version == version) with
    | some added => .ok (added, { s with gateways := gateways })
    | none => .error (.store "added gateway vanished")

def disable (s : Store) (selector : Selector) : Store :=
  { s with disabled := s.disabled.insert selector }

/-- Takes away the disabled selectors that a selector covers. -/
def enable (s : Store) (selector : Selector) : Store :=
  { s with disabled := s.disabled.filter (!·.isCoveredBy selector) }

def isDisabled (s : Store) (g : StoredGateway) : Bool := s.disabled.any (·.matchesKey g.key)

/-- The enabled gateways that a selector matches, best first. -/
def defaults (s : Store) (policy : Policy) (selector : Selector) : List StoredGateway :=
  (s.gateways.filter fun g => selector.matchesKey g.key && !s.isDisabled g).mergeSort
    fun g h => (policy.compare g.candidate h.candidate).isGE

def default? (s : Store) (policy : Policy) (selector : Selector) : Option StoredGateway :=
  (s.defaults policy selector).head?

end Store

end DefaultGateway
