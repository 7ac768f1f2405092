import DefaultGateway.Address.Text
import DefaultGateway.Text.Decimal

/-!
An address with a length: the addresses that agree with it on its first bits. The bits after the
length are kept, so that the address of a host on its network can be written as one prefix.
-/

namespace DefaultGateway

structure Prefix where
  address : Address
  length : Nat
  length_le : length ≤ address.family.width
  deriving DecidableEq, Repr

namespace Prefix

def new (address : Address) (length : Nat) : Except ParseError Prefix :=
  if fits : length ≤ address.family.width then .ok ⟨address, length, fits⟩
  else .error (.length length address.family.width)

/-- The prefix that holds every address of a family. -/
def whole (family : Family) : Prefix := ⟨.unspecified family, 0, Nat.zero_le _⟩

instance : Inhabited Prefix := ⟨whole .inet⟩

def family (p : Prefix) : Family := p.address.family

/-- Whether the prefix constrains no bit. -/
def isDefault (p : Prefix) : Bool := p.length == 0

/-- Whether the prefix constrains every bit. -/
def isHost (p : Prefix) : Bool := p.length == p.family.width

def network (p : Prefix) : Address := p.address.network p.length

/-- Whether an address agrees with the prefix on its first bits. -/
def contains (p : Prefix) (a : Address) : Bool :=
  a.family == p.family && a.network p.length == p.network

instance : Ord Prefix := ⟨compareByThen address length⟩

instance : Std.TransOrd Prefix :=
  inferInstanceAs (Std.TransCmp (compareByThen address length))

instance : Std.LawfulEqOrd Prefix :=
  lawfulEqCmp_of_eq fun a b tie => by
    have ⟨sameAddress, sameLength⟩ :=
      compareLex_eq_eq.1 (show compareByThen address length a b = _ from tie)
    have sameAddress := (compareOn_eq_iff _ _ _).1 sameAddress
    have sameLength := (compareOn_eq_iff _ _ _).1 sameLength
    cases a; cases b; simp_all

def toChars (p : Prefix) : List Char := p.address.toChars ++ '/' :: Nat.toDigits 10 p.length

def text (p : Prefix) : String := .ofList p.toChars

instance : ToString Prefix := ⟨text⟩

/-- Reads an address and a length around the last slash. -/
def parse (text : String) : Except ParseError Prefix :=
  match Text.splitLast? '/' text.toList with
  | none => .error (.shape text)
  | some (front, back) =>
    match Address.readChars front, Text.readNatural 256 back with
    | none, _ => .error (.address (.ofList front))
    | some _, none => .error (.shape text)
    | some address, some length => new address length

@[simp] theorem family_whole (family : Family) : (whole family).family = family := by
  simp [Prefix.family, whole]

@[simp] theorem isDefault_whole (family : Family) : (whole family).isDefault = true := rfl

end Prefix

end DefaultGateway
