import DefaultGateway.Selector

/-!
The administrator's order of preference: a list of rules, best first. A candidate ranks by the
first rule that matches it, and after all others when none does.
-/

namespace DefaultGateway

inductive Rank
  | ranked (rule : Nat)
  | unranked
  deriving DecidableEq, Repr

namespace Rank

/-- The ranks in order: an earlier rule before a later one, and no rule last. -/
instance : Ord Rank where
  compare
    | .ranked a, .ranked b => compare a b
    | .ranked _, .unranked => .lt
    | .unranked, .ranked _ => .gt
    | .unranked, .unranked => .eq

instance : ToString Rank where
  toString
    | .ranked rule => s!"rule#{rule}"
    | .unranked => "unranked"

def rule? : Rank → Option Nat
  | .ranked rule => some rule
  | .unranked => none

end Rank

structure Policy where
  rules : List Selector := []
  deriving DecidableEq, Repr, Inhabited

namespace Policy

/-- The place of the first rule that matches. -/
def rank (policy : Policy) (c : Candidate) : Rank :=
  match policy.rules.findIdx? (·.accepts c) with
  | some rule => .ranked rule
  | none => .unranked

/-- How one candidate compares with another: greater is better. The better rank wins, then the
higher version, then the smaller protocol, interface and gateway. -/
def compare (policy : Policy) (a b : Candidate) : Ordering :=
  (Ord.compare (policy.rank b) (policy.rank a)).then <|
    (Ord.compare a.version b.version).then <|
      (Ord.compare b.protocol a.protocol).then <|
        (Ord.compare b.interface a.interface).then <| Ord.compare b.gateway a.gateway

/-- The candidates from best to worst; equals keep their order. -/
def sort (policy : Policy) (candidates : List Candidate) : List Candidate :=
  candidates.mergeSort fun a b => (policy.compare a b).isGE

end Policy

end DefaultGateway
