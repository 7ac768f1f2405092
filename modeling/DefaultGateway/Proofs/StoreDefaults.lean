import DefaultGateway.Proofs.Preference
import DefaultGateway.Proofs.Store

/-!
# What the store answers is what would be chosen

A store is asked for its gateways without a look at the kernel. It sorts a list, where a selection
takes the greatest of the candidates; as long as all that is enabled can be used, both come to the
same gateway.
-/

namespace DefaultGateway

namespace Store

variable {store : Store} {policy : Policy} {selector : Selector} {g : StoredGateway}

/-- No selector of the store turns the gateway off. -/
def Enables (store : Store) (g : StoredGateway) : Prop :=
  ∀ disabled ∈ store.disabled, disabled.matchesKey g.key = false

theorem isDisabled_eq_false_iff : store.isDisabled g = false ↔ store.Enables g := by
  simp only [isDisabled, KeyedSet.any, List.any_eq_false, Bool.not_eq_true, Enables,
    KeyedSet.mem_rows]

theorem mem_defaults :
    g ∈ store.defaults policy selector ↔
      g ∈ store.gateways ∧ selector.matchesKey g.key = true ∧ store.Enables g := by
  rw [defaults, List.mem_mergeSort, List.mem_filter, Bool.and_eq_true, Bool.not_eq_true',
    isDisabled_eq_false_iff]

/-- As candidates, the gateways come in the order of the policy. -/
theorem map_candidate_defaults (store : Store) (policy : Policy) (selector : Selector) :
    (store.defaults policy selector).map StoredGateway.candidate =
      policy.sort ((store.gateways.filter fun g =>
        selector.matchesKey g.key && !store.isDisabled g).map StoredGateway.candidate) :=
  List.map_mergeSort fun _ _ _ _ => rfl

theorem pairwise_defaults (store : Store) (policy : Policy) (selector : Selector) :
    (store.defaults policy selector).Pairwise fun g h =>
      (policy.compare g.candidate h.candidate).isGE = true := by
  have sorted := policy.pairwise_sort ((store.gateways.filter fun g =>
    selector.matchesKey g.key && !store.isDisabled g).map StoredGateway.candidate)
  rw [← map_candidate_defaults, List.pairwise_map] at sorted
  exact sorted

/-- A model has the gateways of the store for its candidates, and disables what the store does. -/
structure KnownTo (store : Store) (m : Model) : Prop where
  candidates : ∀ c, c ∈ m.candidates ↔ ∃ g ∈ store.gateways, g.candidate = c
  disabled : m.disabled = store.disabled

section KnownTo

variable {m : Model} {family : Family} {options : SelectionOptions}

theorem matchesKey_family (family : Family) (key : Candidate.Key) :
    Selector.matchesKey { family := some family } key = true ↔ key.family = family := by
  simp only [Selector.matchesKey, Selector.admits, Bool.and_true, beq_iff_eq]
  exact eq_comm

/-- The store and the model agree on what is disabled. -/
theorem KnownTo.enables_of_eligible (known : store.KnownTo m)
    (eligible : m.eligibility options g.candidate = .eligible) : store.Enables g := by
  rw [← isDisabled_eq_false_iff]
  have same : m.isDisabled g.candidate = store.isDisabled g := by
    rw [Model.isDisabled, known.disabled]
    rfl
  rw [← same]
  exact (Model.eligibility_eq_eligible_iff.1 eligible).1

/-- Where all that is enabled can be used, the store and the model choose from the same. -/
theorem KnownTo.mem_eligibleOf_iff (known : store.KnownTo m)
    (usable : ∀ g ∈ store.gateways, g.family = family → store.Enables g →
      m.eligibility options g.candidate = .eligible) (policy : Policy) (c : Candidate) :
    c ∈ (store.defaults policy { family := some family }).map StoredGateway.candidate ↔
      c ∈ m.eligibleOf options family := by
  rw [Model.mem_eligibleOf, Model.mem_candidatesOf, known.candidates, List.mem_map]
  constructor
  · rintro ⟨g, listed, rfl⟩
    obtain ⟨stored, ours, enabled⟩ := mem_defaults.1 listed
    have ours := (matchesKey_family family g.key).1 ours
    exact ⟨⟨⟨g, stored, rfl⟩, ours⟩, usable g stored ours enabled⟩
  · rintro ⟨⟨⟨g, stored, rfl⟩, ours⟩, eligible⟩
    exact ⟨g, mem_defaults.2 ⟨stored, (matchesKey_family family g.key).2 ours,
      known.enables_of_eligible eligible⟩, rfl⟩

/-- Where all that is enabled can be used, the store's answer is the winner. -/
theorem KnownTo.map_candidate_default? (known : store.KnownTo m)
    (usable : ∀ g ∈ store.gateways, g.family = family → store.Enables g →
      m.eligibility options g.candidate = .eligible) (policy : Policy) :
    (store.default? policy { family := some family }).map StoredGateway.candidate =
      (m.evaluate policy options family).winner := by
  have sorted := store.pairwise_defaults policy { family := some family }
  rw [default?, ← List.head?_map]
  refine head?_eq_lastMaximum (fun c member d other => ?_) (List.pairwise_map.2 sorted)
    (known.mem_eligibleOf_iff usable policy)
  exact Model.eq_of_tie (Model.mem_eligibleOf.1 member).1 (Model.mem_eligibleOf.1 other).1

end KnownTo

/-- In a store in which no key occurs twice, every enabled gateway that a selector matches is listed
once, and none is preferred to one before it. For a family the first of them is the gateway that is
chosen where the model has the gateways of the store for its candidates and can use all that are
enabled; and there is none if nobody is chosen. -/
theorem default_iff_winner {store : Store}
    (distinct : (store.gateways.map StoredGateway.key).Nodup) (policy : Policy) :
    (∀ selector,
      (store.defaults policy selector).Nodup ∧
        (∀ g, g ∈ store.defaults policy selector ↔
          g ∈ store.gateways ∧ selector.matchesKey g.key = true ∧ store.Enables g) ∧
        (store.defaults policy selector).Pairwise fun g later =>
          policy.compare later.candidate g.candidate ≠ .gt) ∧
      ∀ family options m, store.KnownTo m →
        (∀ g ∈ store.gateways, g.family = family → store.Enables g →
          m.eligibility options g.candidate = .eligible) →
        let winner := (m.evaluate policy options family).winner
        let answer := store.default? policy { family := some family }
        (answer = none ↔ winner = none) ∧
          ∀ g, answer = some g ↔ g ∈ store.gateways ∧ winner = some g.candidate := by
  refine ⟨fun selector => ⟨?_, fun g => mem_defaults, ?_⟩, ?_⟩
  · exact (List.mergeSort_perm _ _).nodup_iff.2 (distinct.of_map.filter _)
  · refine (store.pairwise_defaults policy selector).imp fun {g h} least above => ?_
    exact Std.OrientedCmp.not_gt_of_isGE least above
  · intro family options m known usable winner answer
    have agree : answer.map StoredGateway.candidate = winner :=
      known.map_candidate_default? usable policy
    refine ⟨by rw [← agree, Option.map_eq_none_iff], fun g => ?_⟩
    constructor
    · intro given
      have listed : g ∈ store.defaults policy { family := some family } :=
        List.mem_of_head? given
      exact ⟨(mem_defaults.1 listed).1, by rw [← agree, given]; rfl⟩
    · rintro ⟨stored, chosen⟩
      rw [← agree] at chosen
      obtain ⟨h, given, same⟩ := Option.map_eq_some_iff.1 chosen
      have listed : h ∈ store.defaults policy { family := some family } :=
        List.mem_of_head? given
      have sameKey : h.key = g.key := congrArg Candidate.key same
      rw [given, List.inj_on_of_nodup_map distinct (mem_defaults.1 listed).1 stored sameKey]

/-- Of three gateways the newest is turned off. -/
def threeGateways : Store where
  gateways := [
    ⟨.inet, "eth0", .dhcp, .v4 0x0a000001#32, none, 1, default⟩,
    ⟨.inet, "wlan0", .dhcp, .v4 0x0a010001#32, some (.v4 0x0a010006#32), 2, default⟩,
    ⟨.inet, "tun0", .ppp, .v4 0x0a080001#32, none, 3, default⟩]
  disabled := .ofList [{ protocol := some .ppp }]

/-- The other two can be used. -/
def threeCandidates : Model :=
  { Model.empty 254 with
    links := .ofList [⟨2, some "eth0", true⟩, ⟨3, some "wlan0", true⟩]
    addresses := .ofList [
      ⟨2, ⟨.v4 0x0a000006#32, 24, by decide⟩⟩, ⟨3, ⟨.v4 0x0a010006#32, 24, by decide⟩⟩]
    candidates := .ofList (threeGateways.gateways.map StoredGateway.candidate)
    disabled := threeGateways.disabled }

/-- A rule puts the oldest gateway before the newer ones. -/
theorem default_iff_winner_threeGateways :
    (threeGateways.gateways.map StoredGateway.key).Nodup ∧ threeGateways.KnownTo threeCandidates ∧
      threeGateways.default? ⟨[{ link := some "eth0" }]⟩ { family := some .inet } =
        some ⟨.inet, "eth0", .dhcp, .v4 0x0a000001#32, none, 1, default⟩ := by
  have distinct : (threeGateways.gateways.map StoredGateway.key).Nodup := by decide +kernel
  have listed :
      threeCandidates.candidates.toList =
        threeGateways.gateways.map StoredGateway.candidate := by decide +kernel
  have known : threeGateways.KnownTo threeCandidates :=
    ⟨fun c => by rw [← KeyedSet.mem_toList, listed, List.mem_map], rfl⟩
  have usable : ∀ g ∈ threeGateways.gateways, g.family = .inet → threeGateways.Enables g →
      threeCandidates.eligibility {} g.candidate = .eligible := by
    simp only [← isDisabled_eq_false_iff]
    decide +kernel
  have agree := (default_iff_winner distinct ⟨[{ link := some "eth0" }]⟩).2 .inet {} _ known usable
  exact ⟨distinct, known, (agree.2 _).2 ⟨by decide +kernel, by decide +kernel⟩⟩

end Store

end DefaultGateway
