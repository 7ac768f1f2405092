import DefaultGateway.ParseError

/-!
The two address families, and values kept one for each of them.
-/

namespace DefaultGateway

inductive Family
  | inet
  | inet6
  deriving DecidableEq, Repr, Ord, Inhabited

namespace Family

instance : Std.TransOrd Family where
  eq_swap := by intro a b; cases a <;> cases b <;> rfl
  isLE_trans := by intro a b c; cases a <;> cases b <;> cases c <;> decide

instance : Std.LawfulEqOrd Family where
  compare_self := by intro a; cases a <;> rfl
  eq_of_compare := by intro a b; cases a <;> cases b <;> decide

/-- Both families, in the order in which they are evaluated. -/
def all : List Family := [.inet, .inet6]

theorem mem_all (family : Family) : family ∈ all := by cases family <;> decide

def name : Family → String
  | .inet => "inet"
  | .inet6 => "inet6"

instance : ToString Family := ⟨name⟩

def spellings : Family → List String
  | .inet => ["inet", "ip", "ip4", "ipv4", "AF_INET"]
  | .inet6 => ["inet6", "ip6", "ipv6", "AF_INET6"]

def ofText? (text : String) : Option Family :=
  all.find? fun family => family.spellings.contains text

def parse (text : String) : Except ParseError Family :=
  match ofText? text with
  | some family => .ok family
  | none => .error (.family text)

/-- The bits in an address, and so the longest prefix. -/
def width : Family → Nat
  | .inet => 32
  | .inet6 => 128

end Family

structure PerFamily (α : Type) where
  inet : α
  inet6 : α
  deriving DecidableEq, Repr, Inhabited

namespace PerFamily

variable {α : Type}

def both (a : α) : PerFamily α := ⟨a, a⟩

def get (values : PerFamily α) : Family → α
  | .inet => values.inet
  | .inet6 => values.inet6

def set (values : PerFamily α) : Family → α → PerFamily α
  | .inet, a => { values with inet := a }
  | .inet6, a => { values with inet6 := a }

def modify (values : PerFamily α) (family : Family) (change : α → α) : PerFamily α :=
  values.set family (change (values.get family))

def map {β : Type} (f : α → β) (values : PerFamily α) : PerFamily β :=
  ⟨f values.inet, f values.inet6⟩

def toList (values : PerFamily α) : List α := Family.all.map values.get

@[simp] theorem get_set_self (values : PerFamily α) (family : Family) (a : α) :
    (values.set family a).get family = a := by cases family <;> rfl

@[simp] theorem get_set_of_ne (values : PerFamily α) {family other : Family}
    (apart : other ≠ family) (a : α) : (values.set family a).get other = values.get other := by
  cases family <;> cases other <;> first | rfl | exact absurd rfl apart

@[simp] theorem set_get (values : PerFamily α) (family : Family) :
    values.set family (values.get family) = values := by cases family <;> rfl

theorem set_set (values : PerFamily α) (family : Family) (a b : α) :
    (values.set family a).set family b = values.set family b := by cases family <;> rfl

theorem ext_get {left right : PerFamily α}
    (same : ∀ family, left.get family = right.get family) : left = right := by
  cases left; cases right
  exact congr (congrArg mk (same .inet)) (same .inet6)

@[simp] theorem get_map {β : Type} (f : α → β) (values : PerFamily α) (family : Family) :
    (values.map f).get family = f (values.get family) := by cases family <;> rfl

@[simp] theorem get_both (a : α) (family : Family) : (both a).get family = a := by
  cases family <;> rfl

end PerFamily

end DefaultGateway
