import DefaultGateway.Proofs.KeyedSet
import DefaultGateway.Selection

/-!
# What a selection rests on

The choice for a family reads the named interfaces, the addresses and link routes of that family,
its candidates and the disabled selectors. Models that agree on these make the same choice,
provided that every candidate keeps to the addresses of its own family.
-/

namespace DefaultGateway

theorem Prefix.family_eq_of_contains
    {p : Prefix} {a : Address} (contained : p.contains a = true) :
    a.family = p.family := by
  simp only [Prefix.contains, Bool.and_eq_true, beq_iff_eq] at contained
  exact contained.1

/-- Gateway and source are addresses of the family that the candidate is for. -/
structure Candidate.Consistent (c : Candidate) : Prop where
  gateway : c.gateway.family = c.family
  source : ∀ source ∈ c.source, source.family = c.family

instance (c : Candidate) : Decidable c.Consistent :=
  decidable_of_iff (c.gateway.family = c.family ∧ ∀ source ∈ c.source, source.family = c.family)
    ⟨fun ⟨gateway, source⟩ => ⟨gateway, source⟩, fun ⟨gateway, source⟩ => ⟨gateway, source⟩⟩

namespace Model

/-- Two models give the selection for a family the same ground. -/
structure SameGround (family : Family) (m n : Model) : Prop where
  named : ∀ name, m.linkNamed? name = n.linkNamed? name
  addresses : ∀ a, a.family = family → (a ∈ m.addresses ↔ a ∈ n.addresses)
  linkRoutes :
    ∀ route, route.family = family → (route ∈ m.linkRoutes ↔ route ∈ n.linkRoutes)
  candidates : m.candidatesOf family = n.candidatesOf family
  disabled : m.disabled = n.disabled

namespace SameGround

variable {family : Family} {m n o : Model}

theorem refl (family : Family) (m : Model) : SameGround family m m where
  named _ := rfl
  addresses _ _ := Iff.rfl
  linkRoutes _ _ := Iff.rfl
  candidates := rfl
  disabled := rfl

theorem trans
    (first : SameGround family m n) (second : SameGround family n o) :
    SameGround family m o where
  named name := (first.named name).trans (second.named name)
  addresses a ours := (first.addresses a ours).trans (second.addresses a ours)
  linkRoutes route ours :=
    (first.linkRoutes route ours).trans (second.linkRoutes route ours)
  candidates := first.candidates.trans second.candidates
  disabled := first.disabled.trans second.disabled

end SameGround

theorem hasAddress_eq_true_iff
    {m : Model} {index : LinkIndex} {a : Address} :
    m.hasAddress index a = true ↔
      ∃ x ∈ m.addresses, x.index = index ∧ x.address = a := by
  simp only [hasAddress, addressesOn, List.any_eq_true, List.mem_filter,
    KeyedSet.mem_toList, beq_iff_eq]
  constructor
  · rintro ⟨x, ⟨member, onLink⟩, same⟩
    exact ⟨x, member, onLink, same⟩
  · rintro ⟨x, member, onLink, same⟩
    exact ⟨x, ⟨member, onLink⟩, same⟩

theorem reaches_eq_true_iff
    {m : Model} {index : LinkIndex} {gateway : Address} :
    m.reaches index gateway = true ↔
      gateway.isLinkLocal = true ∨
        (∃ x ∈ m.addresses,
          x.index = index ∧ x.onNetwork.contains gateway = true) ∨
        ∃ route ∈ m.linkRoutes,
          route.oif = some index ∧ route.destination.contains gateway = true := by
  simp only [reaches, addressesOn, routesOn, Bool.or_eq_true, List.any_eq_true,
    List.mem_filter, KeyedSet.mem_toList, beq_iff_eq, and_assoc, or_assoc]

namespace SameGround

variable {family : Family} {m n : Model}

theorem hasAddress_eq
    (same : SameGround family m n) (index : LinkIndex) {a : Address}
    (ours : a.family = family) :
    m.hasAddress index a = n.hasAddress index a := by
  rw [Bool.eq_iff_iff, hasAddress_eq_true_iff, hasAddress_eq_true_iff]
  refine exists_congr fun x => ?_
  by_cases isAddress : x.address = a
  · have oursToo : x.family = family := by
      rw [← ours, ← isAddress]
      rfl
    rw [same.addresses x oursToo]
  · simp [isAddress]

theorem reaches_eq
    (same : SameGround family m n) (index : LinkIndex) {gateway : Address}
    (ours : gateway.family = family) :
    m.reaches index gateway = n.reaches index gateway := by
  rw [Bool.eq_iff_iff, reaches_eq_true_iff, reaches_eq_true_iff]
  refine or_congr Iff.rfl (or_congr ?_ ?_)
  · refine exists_congr fun x => ?_
    by_cases contained : x.onNetwork.contains gateway = true
    · have oursToo : x.family = family :=
        (Prefix.family_eq_of_contains contained).symm.trans ours
      rw [same.addresses x oursToo]
    · simp [contained]
  · refine exists_congr fun route => ?_
    by_cases contained : route.destination.contains gateway = true
    · have oursToo : route.family = family :=
        (Prefix.family_eq_of_contains contained).symm.trans ours
      rw [same.linkRoutes route oursToo]
    · simp [contained]

theorem eligibility_eq
    (same : SameGround family m n) (options : SelectionOptions) {c : Candidate}
    (ours : c.family = family) (consistent : c.Consistent) :
    m.eligibility options c = n.eligibility options c := by
  have gatewayOurs : c.gateway.family = family := consistent.gateway.trans ours
  have sameSource (index : LinkIndex) :
      c.source.any (!m.hasAddress index ·) = c.source.any (!n.hasAddress index ·) := by
    cases source : c.source with
    | none => rfl
    | some a =>
        have sourceOurs : a.family = family :=
          (consistent.source a (by simp [source])).trans ours
        simp [same.hasAddress_eq index sourceOurs]
  unfold eligibility isDisabled
  rw [same.disabled, same.named]
  cases n.linkNamed? c.interface with
  | none => rfl
  | some link =>
      simp only [sameSource, same.reaches_eq link.index gatewayOurs]

/-- On the same ground the same decision is made. -/
theorem evaluate_eq
    (same : SameGround family m n)
    (consistent : ∀ c ∈ m.candidates, c.Consistent)
    (policy : Policy) (options : SelectionOptions) :
    m.evaluate policy options family = n.evaluate policy options family := by
  have sameEligible :
      m.eligibleOf options family = n.eligibleOf options family := by
    rw [eligibleOf, eligibleOf, ← same.candidates]
    refine List.filter_congr fun c member => ?_
    obtain ⟨known, ours⟩ := List.mem_filter.1 member
    rw [same.eligibility_eq options (by simpa using ours) (consistent c known)]
  rw [evaluate, evaluate, sameEligible]

end SameGround

/-- A candidate can be chosen if nothing disables it and its interface is up, has its source and,
where that is asked for, a network that its gateway is on. -/
theorem eligibility_eq_eligible_iff
    {m : Model} {options : SelectionOptions} {c : Candidate} :
    m.eligibility options c = .eligible ↔
      m.isDisabled c = false ∧
        ∃ link, m.linkNamed? c.interface = some link ∧ link.up = true ∧
          (∀ a ∈ c.source, m.hasAddress link.index a = true) ∧
          (options.requireReachableGateway = true → m.reaches link.index c.gateway = true) := by
  unfold eligibility
  cases m.linkNamed? c.interface with
  | none => grind
  | some link =>
      cases c.source with
      | none => grind
      | some a => grind

theorem mem_candidatesOf
    {m : Model} {family : Family} {c : Candidate} :
    c ∈ m.candidatesOf family ↔ c ∈ m.candidates ∧ c.family = family := by
  rw [candidatesOf, List.mem_filter, KeyedSet.mem_toList, beq_iff_eq]

theorem mem_eligibleOf
    {m : Model} {options : SelectionOptions} {family : Family} {c : Candidate} :
    c ∈ m.eligibleOf options family ↔
      c ∈ m.candidatesOf family ∧ m.eligibility options c = .eligible := by
  rw [eligibleOf, List.mem_filter, Eligibility.isEligible, beq_iff_eq]

/-! ## The candidate that is chosen -/

theorem mem_of_mem_lastMaximum
    {α : Type} {compare : α → α → Ordering} {l : List α} {a : α}
    (found : a ∈ lastMaximum compare l) : a ∈ l := by
  cases l with
  | nil => cases found
  | cons first rest =>
      simp only [lastMaximum, Option.mem_def, Option.some.injEq] at found
      subst found
      induction rest generalizing first with
      | nil => exact List.mem_singleton_self _
      | cons b rest inductionHypothesis =>
          rw [List.foldl_cons]
          split
          · have later := inductionHypothesis first
            grind
          · exact List.mem_cons_of_mem _ (inductionHypothesis b)

/-- Somebody is chosen for a family unless nobody could be. -/
theorem winner_eq_none_iff
    {m : Model} {policy : Policy} {options : SelectionOptions} {family : Family} :
    (m.evaluate policy options family).winner = none ↔ m.eligibleOf options family = [] := by
  rw [evaluate]
  cases m.eligibleOf options family <;> simp [lastMaximum]

/-- Nobody is chosen before anybody registers. -/
theorem winner_eq_none_of_empty
    {m : Model} (empty : m.candidates = ∅) (policy : Policy) (options : SelectionOptions)
    (family : Family) :
    (m.evaluate policy options family).winner = none := by
  rw [winner_eq_none_iff, eligibleOf, candidatesOf, empty]
  rfl

/-- Who is chosen for a family is a candidate of that family that nothing disables, and its
interface is up. -/
theorem usable_of_mem_evaluate
    {m : Model} {policy : Policy} {options : SelectionOptions} {family : Family}
    {winner : Candidate} (chosen : winner ∈ (m.evaluate policy options family).winner) :
    winner ∈ m.candidates ∧ winner.family = family ∧ m.isDisabled winner = false ∧
      ∃ link, m.linkNamed? winner.interface = some link ∧ link.up = true := by
  obtain ⟨member, eligible⟩ := mem_eligibleOf.1 (mem_of_mem_lastMaximum chosen)
  obtain ⟨known, ours⟩ := mem_candidatesOf.1 member
  obtain ⟨enabled, link, named, up, -⟩ := eligibility_eq_eligible_iff.1 eligible
  exact ⟨known, ours, enabled, link, named, up⟩

end Model

end DefaultGateway
