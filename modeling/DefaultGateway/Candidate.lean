import DefaultGateway.Address.Text
import DefaultGateway.Protocol

/-!
Gateways proposed by handlers. A handler has at most one live proposal on an interface in a
family: that triple is the key of a candidate.
-/

namespace DefaultGateway

structure Candidate.Key where
  protocol : Protocol
  interface : String
  family : Family
  deriving DecidableEq, Repr, Inhabited

structure Candidate where
  protocol : Protocol
  family : Family
  interface : String
  gateway : Address
  /-- The address of ours that the proposal depends on. -/
  source : Option Address
  /-- Higher means proposed later. -/
  version : UInt64
  deriving DecidableEq, Repr, Inhabited

namespace Candidate

namespace Key

abbrev compareFields : Key → Key → Ordering :=
  compareLex (compareOn protocol) (compareByThen interface family)

instance : Ord Key := ⟨compareFields⟩

instance : Std.TransOrd Key := inferInstanceAs (Std.TransCmp compareFields)

instance : Std.LawfulEqOrd Key :=
  lawfulEqCmp_of_eq fun a b tie => by
    have ⟨sameProtocol, tie⟩ := compareLex_eq_eq.1 (show compareFields a b = _ from tie)
    have ⟨sameInterface, sameFamily⟩ := compareLex_eq_eq.1 tie
    have sameProtocol := (compareOn_eq_iff _ _ _).1 sameProtocol
    have sameInterface := (compareOn_eq_iff _ _ _).1 sameInterface
    have sameFamily := (compareOn_eq_iff _ _ _).1 sameFamily
    cases a; cases b; simp_all

instance : ToString Key where
  toString k := s!"{k.protocol}/{k.interface}/{k.family}"

end Key

def key (c : Candidate) : Key := ⟨c.protocol, c.interface, c.family⟩

/-- Whether two candidates stand for the same route, whatever their versions. -/
def sameTarget (a b : Candidate) : Bool :=
  a.key == b.key && a.gateway == b.gateway && a.source == b.source

instance : ToString Candidate where
  toString c := s!"{c.family} via {c.gateway} dev {c.interface} ({c.protocol}, v{c.version})"

end Candidate

end DefaultGateway
