import DefaultGateway.Proofs.Ground

/-!
# Candidates under other versions

A selection asks of the versions only how they compare. Two models that see the same interfaces,
and whose candidates differ in their versions alone, choose alike as long as the versions are in
the same order.
-/

namespace DefaultGateway

/-! ## Versions in the same order -/

/-- The candidate under the version that its key is given. -/
def Candidate.renumber (number : Candidate.Key → UInt64) (c : Candidate) : Candidate :=
  { c with version := number c.key }

theorem compare_versions_congr
    {a b v w : UInt64} (below : a < b ↔ v < w) (above : b < a ↔ w < v) :
    compare a b = compare v w := by
  have byOrder (x y : UInt64) :
      compare x y = if x < y then .lt else if y < x then .gt else .eq := by
    change compareOfLessAndEq x y = _
    unfold compareOfLessAndEq
    split
    · rfl
    · rename_i notBelow
      by_cases same : x = y
      · subst same
        simp
      · have above : y < x :=
          UInt64.lt_of_le_of_ne (UInt64.not_lt.1 notBelow) (Ne.symm same)
        rw [if_neg same, if_pos above]
  rw [byOrder, byOrder]
  simp only [below, above]

theorem Policy.compare_renumber
    (policy : Policy) {number : Candidate.Key → UInt64} {c d : Candidate}
    (below : c.version < d.version ↔ number c.key < number d.key)
    (above : d.version < c.version ↔ number d.key < number c.key) :
    policy.compare (c.renumber number) (d.renumber number) = policy.compare c d := by
  have versions := compare_versions_congr below above
  unfold compare
  rw [versions]
  rfl

/-- A map that keeps the comparisons in a list keeps the choice of the last maximum. -/
theorem lastMaximum_map
    {α β : Type} {compare : α → α → Ordering} {compareImages : β → β → Ordering} {f : α → β}
    {l : List α} (same : ∀ a ∈ l, ∀ b ∈ l, compareImages (f a) (f b) = compare a b) :
    lastMaximum compareImages (l.map f) = (lastMaximum compare l).map f := by
  cases l with
  | nil => rfl
  | cons first rest =>
      simp only [lastMaximum, List.map_cons, Option.map_some, Option.some.injEq]
      -- The maximum so far stands first, and either it or the next element stays there.
      induction rest generalizing first with
      | nil => rfl
      | cons b rest inductionHypothesis =>
          have here : compareImages (f first) (f b) = compare first b :=
            same first List.mem_cons_self b (List.mem_cons_of_mem _ List.mem_cons_self)
          rw [List.map_cons, List.foldl_cons, List.foldl_cons, here]
          split
          · exact inductionHypothesis first fun c member d memberToo =>
              same c (by grind) d (by grind)
          · exact inductionHypothesis b fun c member d memberToo =>
              same c (List.mem_cons_of_mem _ member) d (List.mem_cons_of_mem _ memberToo)

namespace Model

/-- Two models see the same named interfaces, addresses and link routes. -/
structure SameScene (m n : Model) : Prop where
  named : ∀ name, m.linkNamed? name = n.linkNamed? name
  addresses : m.addresses = n.addresses
  linkRoutes : m.linkRoutes = n.linkRoutes

namespace SameScene

variable {m n o : Model}

theorem trans (first : SameScene m n) (second : SameScene n o) : SameScene m o where
  named name := (first.named name).trans (second.named name)
  addresses := first.addresses.trans second.addresses
  linkRoutes := first.linkRoutes.trans second.linkRoutes

theorem of_eq
    (links : m.links = n.links) (addresses : m.addresses = n.addresses)
    (linkRoutes : m.linkRoutes = n.linkRoutes) : SameScene m n where
  named name := by rw [linkNamed?, linkNamed?, links]
  addresses := addresses
  linkRoutes := linkRoutes

/-- The grounds of all families together make up the scene. -/
theorem of_sameGround (same : ∀ family, SameGround family m n) : SameScene m n where
  named := (same .inet).named
  addresses := KeyedSet.ext fun a => (same a.family).addresses a rfl
  linkRoutes := KeyedSet.ext fun route => (same route.family).linkRoutes route rfl

theorem eligibility_eq
    (same : SameScene m n) (disabled : m.disabled = n.disabled) (options : SelectionOptions)
    (c : Candidate) : m.eligibility options c = n.eligibility options c := by
  unfold eligibility isDisabled hasAddress reaches addressesOn routesOn
  rw [same.named, same.addresses, same.linkRoutes, disabled]

end SameScene

/-- Candidates that differ in their versions alone can be chosen alike. -/
theorem eligibleOf_renumber
    {number : Candidate.Key → UInt64} {m n : Model} (scene : SameScene m n)
    (disabled : m.disabled = n.disabled)
    (candidates : ∀ key, n.candidate? key = (m.candidate? key).map (Candidate.renumber number))
    (options : SelectionOptions) (family : Family) :
    n.eligibleOf options family =
      (m.eligibleOf options family).map (Candidate.renumber number) := by
  have listed : n.candidates.toList = m.candidates.toList.map (Candidate.renumber number) :=
    KeyedSet.toList_eq_map (fun _ => rfl) candidates
  rw [eligibleOf, eligibleOf, candidatesOf, candidatesOf, listed, List.filter_map,
    List.filter_map]
  congr 1
  refine List.filter_congr fun c _ => ?_
  rw [scene.eligibility_eq disabled options c]
  rfl

/-- One model has the candidates of another under versions that are in the same order, and nothing
else that a selection rests on is different. -/
structure Renumbered (number : Candidate.Key → UInt64) (m n : Model) : Prop where
  scene : SameScene m n
  disabled : m.disabled = n.disabled
  candidates : ∀ key, n.candidate? key = (m.candidate? key).map (Candidate.renumber number)
  ordered :
    ∀ c ∈ m.candidates, ∀ d ∈ m.candidates,
      (c.version < d.version ↔ number c.key < number d.key)

namespace Renumbered

variable {number : Candidate.Key → UInt64} {m n : Model}

/-- The same candidate is chosen, but for its version. -/
theorem winner_eq
    (renumbered : Renumbered number m n) (policy : Policy) (options : SelectionOptions)
    (family : Family) :
    (n.evaluate policy options family).winner =
      (m.evaluate policy options family).winner.map (Candidate.renumber number) := by
  have known : ∀ c ∈ m.eligibleOf options family, c ∈ m.candidates := fun c eligible =>
    List.mem_of_mem_filter (List.mem_of_mem_filter eligible)
  rw [evaluate, evaluate,
    eligibleOf_renumber renumbered.scene renumbered.disabled renumbered.candidates]
  refine lastMaximum_map fun c eligible d eligibleToo => ?_
  exact
    policy.compare_renumber
      (renumbered.ordered c (known c eligible) d (known d eligibleToo))
      (renumbered.ordered d (known d eligibleToo) c (known c eligible))

end Renumbered

end Model

end DefaultGateway
