import DefaultGateway.Prefix

/-!
Network interfaces and the addresses configured on them.
-/

namespace DefaultGateway

/-- The number under which the kernel knows an interface. -/
abbrev LinkIndex := UInt32

structure Link where
  index : LinkIndex
  /-- The name; none as long as only the index has been heard of. -/
  name : Option String
  up : Bool
  deriving DecidableEq, Repr, Inhabited

namespace Link

/-- What is known of an interface that something else has named by its index. -/
def placeholder (index : LinkIndex) : Link := ⟨index, none, false⟩

def isPlaceholder (link : Link) : Bool := link.name.isNone

instance : ToString Link where
  toString link :=
    let name := link.name.getD "?"
    let state := if link.up then "up" else "down"
    s!"{link.index} {name} {state}"

end Link

structure InterfaceAddress where
  index : LinkIndex
  /-- The address of the interface and the length of its network. -/
  onNetwork : Prefix
  deriving DecidableEq, Repr, Inhabited

namespace InterfaceAddress

def family (a : InterfaceAddress) : Family := a.onNetwork.family

def address (a : InterfaceAddress) : Address := a.onNetwork.address

instance : Ord InterfaceAddress := ⟨compareByThen index onNetwork⟩

instance : Std.TransOrd InterfaceAddress :=
  inferInstanceAs (Std.TransCmp (compareByThen index onNetwork))

instance : Std.LawfulEqOrd InterfaceAddress :=
  lawfulEqCmp_of_eq fun a b tie => by
    have ⟨sameIndex, samePrefix⟩ :=
      compareLex_eq_eq.1 (show compareByThen index onNetwork a b = _ from tie)
    have sameIndex := (compareOn_eq_iff _ _ _).1 sameIndex
    have samePrefix := (compareOn_eq_iff _ _ _).1 samePrefix
    cases a; cases b; simp_all

instance : ToString InterfaceAddress where
  toString a := s!"{a.index} {a.onNetwork}"

end InterfaceAddress

end DefaultGateway
