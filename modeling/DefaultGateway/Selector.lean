import DefaultGateway.Candidate

/-!
Conditions on candidates: each of family, interface and protocol is given or left open.
-/

namespace DefaultGateway

structure Selector where
  family : Option Family := none
  link : Option String := none
  protocol : Option Protocol := none
  deriving DecidableEq, Repr, Inhabited

namespace Selector

/-- Whether a value meets a condition that may be left open. -/
def admits {α : Type} [DecidableEq α] (condition : Option α) (a : α) : Bool :=
  match condition with
  | none => true
  | some wanted => wanted == a

/-- Whether the first condition admits nothing that the second does not. -/
def narrows {α : Type} [DecidableEq α] (condition other : Option α) : Bool :=
  match condition, other with
  | _, none => true
  | some a, some b => a == b
  | none, some _ => false

def matchesKey (s : Selector) (k : Candidate.Key) : Bool :=
  admits s.family k.family && admits s.link k.interface && admits s.protocol k.protocol

def accepts (s : Selector) (c : Candidate) : Bool := s.matchesKey c.key

/-- Whether the other selector is at least as open in every field. -/
def isCoveredBy (s other : Selector) : Bool :=
  narrows s.family other.family && narrows s.link other.link && narrows s.protocol other.protocol

def isWildcard (s : Selector) : Bool :=
  s.family.isNone && s.link.isNone && s.protocol.isNone

abbrev compareFields : Selector → Selector → Ordering :=
  compareLex (compareOn family) (compareByThen link protocol)

instance : Ord Selector := ⟨compareFields⟩

instance : Std.TransOrd Selector := inferInstanceAs (Std.TransCmp compareFields)

instance : Std.LawfulEqOrd Selector :=
  lawfulEqCmp_of_eq fun a b tie => by
    have ⟨sameFamily, tie⟩ := compareLex_eq_eq.1 (show compareFields a b = _ from tie)
    have ⟨sameLink, sameProtocol⟩ := compareLex_eq_eq.1 tie
    have sameFamily := (compareOn_eq_iff _ _ _).1 sameFamily
    have sameLink := (compareOn_eq_iff _ _ _).1 sameLink
    have sameProtocol := (compareOn_eq_iff _ _ _).1 sameProtocol
    cases a; cases b; simp_all

instance : ToString Selector where
  toString s :=
    "\x7baf: " ++ (s.family.map toString).getD "*" ++ ", link: " ++ s.link.getD "*" ++
      ", protocol: " ++ (s.protocol.map toString).getD "*" ++ "\x7d"

end Selector

end DefaultGateway
