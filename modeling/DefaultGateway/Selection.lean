import DefaultGateway.Model
import DefaultGateway.Policy

/-!
The choice of a gateway: the best candidate of a family that could be used now.
-/

namespace DefaultGateway

structure SelectionOptions where
  /-- Whether a gateway must lie on a network of its interface. -/
  requireReachableGateway : Bool := true
  deriving DecidableEq, Repr, Inhabited

/-- Why a candidate can or cannot be chosen. -/
inductive Eligibility
  | eligible
  | disabled
  | linkMissing
  | linkDown
  | sourceAddressMissing
  | gatewayUnreachable
  deriving DecidableEq, Repr

namespace Eligibility

def words : Eligibility → List String
  | .eligible => ["eligible"]
  | .disabled => ["disabled"]
  | .linkMissing => ["link", "missing"]
  | .linkDown => ["link", "down"]
  | .sourceAddressMissing => ["source", "address", "missing"]
  | .gatewayUnreachable => ["gateway", "unreachable"]

instance : ToString Eligibility := ⟨fun e => " ".intercalate e.words⟩

/-- The name by which a report calls an eligibility. -/
def tag (e : Eligibility) : String := "-".intercalate e.words

def isEligible (e : Eligibility) : Bool := e == .eligible

end Eligibility

namespace Model

/-- Whether a gateway lies on a network of an interface. An address of the link itself always
does. -/
def reaches (m : Model) (index : LinkIndex) (gateway : Address) : Bool :=
  gateway.isLinkLocal || (m.addressesOn index).any (·.onNetwork.contains gateway) ||
    (m.routesOn index).any (·.destination.contains gateway)

def eligibility (m : Model) (options : SelectionOptions) (c : Candidate) : Eligibility :=
  if m.isDisabled c then .disabled
  else match m.linkNamed? c.interface with
    | none => .linkMissing
    | some link =>
      if !link.up then .linkDown
      else if c.source.any (!m.hasAddress link.index ·) then .sourceAddressMissing
      else if options.requireReachableGateway && !m.reaches link.index c.gateway then
        .gatewayUnreachable
      else .eligible

end Model

/-- The gateway chosen for a family, or that there is none. -/
structure Decision where
  family : Family
  winner : Option Candidate
  deriving DecidableEq, Repr, Inhabited

namespace Decision

def none (family : Family) : Decision := ⟨family, .none⟩

def isNone (d : Decision) : Bool := d.winner.isNone

def gateway (d : Decision) : Option Address := d.winner.map (·.gateway)

/-- Whether two decisions stand for the same route, whatever the versions. -/
def sameTarget (a b : Decision) : Bool :=
  match a.winner, b.winner with
  | some c, some d => c.sameTarget d
  | .none, .none => true
  | _, _ => false

instance : ToString Decision where
  toString d := match d.winner with
    | some winner => toString winner
    | .none => s!"{d.family} none"

end Decision

structure RankedCandidate where
  candidate : Candidate
  rank : Rank
  eligibility : Eligibility
  deriving DecidableEq, Repr

/-- The last of the greatest elements of a list. -/
def lastMaximum {α : Type} (compare : α → α → Ordering) : List α → Option α
  | [] => none
  | a :: rest => some <| rest.foldl (fun best b => if compare best b = .gt then best else b) a

namespace Model

/-- The candidates of a family that could be used now. -/
def eligibleOf (m : Model) (options : SelectionOptions) (family : Family) : List Candidate :=
  (m.candidatesOf family).filter fun c => (m.eligibility options c).isEligible

def evaluate (m : Model) (policy : Policy) (options : SelectionOptions) (family : Family) :
    Decision :=
  ⟨family, lastMaximum policy.compare (m.eligibleOf options family)⟩

/-- The candidates of a family, best first. -/
def ranked (m : Model) (policy : Policy) (options : SelectionOptions) (family : Family) :
    List RankedCandidate :=
  (policy.sort (m.candidatesOf family)).map fun c => ⟨c, policy.rank c, m.eligibility options c⟩

end Model

end DefaultGateway
