import DefaultGateway.Order
import DefaultGateway.Family

/-!
Addresses of either family, in order: all of the first family before all of the second, and by
value within a family.
-/

namespace DefaultGateway

inductive Address
  | v4 (bits : BitVec 32)
  | v6 (bits : BitVec 128)
  deriving DecidableEq, Repr

namespace Address

instance : Inhabited Address := ⟨.v4 0⟩

def family : Address → Family
  | .v4 _ => .inet
  | .v6 _ => .inet6

/-- The bits read as one number, the first bit the most significant. -/
def value : Address → Nat
  | .v4 bits => bits.toNat
  | .v6 bits => bits.toNat

theorem eq_of_family_eq_of_value_eq {a b : Address} (sameFamily : a.family = b.family)
    (sameValue : a.value = b.value) : a = b := by
  cases a <;> cases b <;> simp_all [family, value, BitVec.toNat_inj]

instance : Ord Address := ⟨compareByThen family value⟩

instance : Std.TransOrd Address :=
  inferInstanceAs (Std.TransCmp (compareByThen family value))

instance : Std.LawfulEqOrd Address :=
  lawfulEqCmp_of_eq fun a b tie => by
    have ⟨sameFamily, sameValue⟩ :=
      compareLex_eq_eq.1 (show compareByThen family value a b = _ from tie)
    exact eq_of_family_eq_of_value_eq ((compareOn_eq_iff _ _ _).1 sameFamily)
      ((compareOn_eq_iff _ _ _).1 sameValue)

def unspecified : Family → Address
  | .inet => .v4 0
  | .inet6 => .v6 0

@[simp] theorem family_unspecified (family : Family) : (unspecified family).family = family := by
  cases family <;> rfl

def isUnspecified (a : Address) : Bool := a == unspecified a.family

/-- Whether the address names a group of hosts: `224.0.0.0/4` or `ff00::/8`. -/
def isMulticast : Address → Bool
  | .v4 bits => bits.extractLsb' 28 4 == 0xe#4
  | .v6 bits => bits.extractLsb' 120 8 == 0xff#8

/-- Whether the address has meaning on one link only: `fe80::/10`. -/
def isLinkLocal : Address → Bool
  | .v4 _ => false
  | .v6 bits => bits.extractLsb' 118 10 == 0b1111111010#10

/-- The word of `w` bits whose first `length` bits are set. -/
def mask (w length : Nat) : BitVec w := BitVec.allOnes w <<< (w - length)

/-- The address with every bit after the first `length` cleared. -/
def network (length : Nat) : Address → Address
  | .v4 bits => .v4 (bits &&& mask 32 length)
  | .v6 bits => .v6 (bits &&& mask 128 length)

@[simp] theorem family_network (length : Nat) (a : Address) :
    (a.network length).family = a.family := by
  cases a <;> rfl

end Address

def Family.contains (family : Family) (a : Address) : Bool := a.family == family

end DefaultGateway
