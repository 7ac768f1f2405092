import DefaultGateway.Proofs.Ground

/-!
# Preference is a strict order, and the winner is its greatest element

Candidates of one family that tie share their protocol and their interface, and so their key: the
candidates of a family in a model never tie. In a list in which nothing ties at most one element is
preferred to all others. The choice of the last maximum finds it, and so does whoever goes through
the ranked candidates and takes the first that can be used.
-/

namespace DefaultGateway

/-! ## Comparisons -/

instance : Std.TransOrd Rank where
  eq_swap {a b} := by
    cases a with
    | ranked r =>
        cases b with
        | ranked s =>
            change compare r s = (compare s r).swap
            exact Std.OrientedCmp.eq_swap
        | unranked => rfl
    | unranked => cases b <;> rfl
  isLE_trans {a b c} first second := by
    cases c with
    | unranked => cases a <;> rfl
    | ranked t =>
        cases b with
        | unranked => cases second
        | ranked s =>
            cases a with
            | unranked => cases first
            | ranked r =>
                change (compare r s).isLE = true at first
                change (compare s t).isLE = true at second
                change (compare r t).isLE = true
                exact Std.TransCmp.isLE_trans first second

namespace Policy

variable {policy : Policy} {c d : Candidate}

/-- The keys by which candidates are compared; where less is better, the two change places. -/
theorem compare_eq (policy : Policy) :
    policy.compare =
      compareLex (fun c d => compareOn policy.rank d c) (compareLex (compareOn Candidate.version)
        (compareLex (fun c d => compareOn Candidate.protocol d c)
          (compareLex (fun c d => compareOn Candidate.interface d c)
            fun c d => compareOn Candidate.gateway d c))) := rfl

instance (policy : Policy) : Std.TransCmp policy.compare := by
  rw [compare_eq]
  infer_instance

/-- Candidates of a family that tie are proposals under one key. -/
theorem key_eq_of_tie (tie : policy.compare c d = .eq) (sameFamily : c.family = d.family) :
    c.key = d.key := by
  simp only [compare_eq, compareLex_eq_eq, compareOn_eq_iff] at tie
  obtain ⟨-, -, sameProtocol, sameInterface, -⟩ := tie
  rw [Candidate.key, Candidate.key, sameProtocol, sameInterface, sameFamily]

end Policy

/-! ## The greatest of a list -/

section Greatest

variable {α : Type} {cmp : α → α → Ordering} {l sorted : List α} {a b : α}

/-- A comparison orders a list strictly: turned round it says the opposite, what is greater than a
greater element is greater, and no two elements tie. -/
structure OrdersStrictly (cmp : α → α → Ordering) (l : List α) : Prop where
  swap : ∀ a ∈ l, ∀ b ∈ l, cmp b a = (cmp a b).swap
  trans : ∀ a ∈ l, ∀ b ∈ l, ∀ c ∈ l, cmp a b = .gt → cmp b c = .gt → cmp a c = .gt
  apart : ∀ a ∈ l, ∀ b ∈ l, cmp a b = .eq → a = b

/-- An element is greater than every other one of a list. -/
def IsGreatest (cmp : α → α → Ordering) (l : List α) (a : α) : Prop :=
  a ∈ l ∧ ∀ b ∈ l, b ≠ a → cmp a b = .gt

theorem ordersStrictly_of_apart [Std.TransCmp cmp]
    (apart : ∀ a ∈ l, ∀ b ∈ l, cmp a b = .eq → a = b) : OrdersStrictly cmp l where
  swap _ _ _ _ := Std.OrientedCmp.eq_swap
  trans _ _ _ _ _ _ first second := Std.TransCmp.gt_trans first second
  apart := apart

/-- A list has at most one greatest element. -/
theorem IsGreatest.unique [Std.OrientedCmp cmp] (greatest : IsGreatest cmp l a)
    (other : IsGreatest cmp l b) : a = b := by
  by_contra different
  have above := greatest.2 b other.1 (Ne.symm different)
  have below := other.2 a greatest.1 different
  rw [Std.OrientedCmp.gt_iff_lt] at below
  rw [below] at above
  cases above

/-- What is greatest stays so beside an element that another one of the list outdoes. -/
theorem IsGreatest.beside [Std.TransCmp cmp] {kept lost : α}
    (greatest : IsGreatest cmp (kept :: l) a) (outdone : lost = kept ∨ cmp kept lost = .gt) :
    IsGreatest cmp (lost :: kept :: l) a := by
  obtain ⟨member, greater⟩ := greatest
  refine ⟨List.mem_cons_of_mem _ member, fun b listed different => ?_⟩
  rcases List.mem_cons.1 listed with rfl | among
  · rcases outdone with rfl | below
    · exact greater b List.mem_cons_self different
    · by_cases same : kept = a
      · exact same ▸ below
      · exact Std.TransCmp.gt_trans (greater kept List.mem_cons_self same) below
  · exact greater b among different

/-- Where nothing ties, the last maximum is greatest. -/
theorem isGreatest_of_mem_lastMaximum [Std.TransCmp cmp]
    (apart : ∀ a ∈ l, ∀ b ∈ l, cmp a b = .eq → a = b) (chosen : a ∈ lastMaximum cmp l) :
    IsGreatest cmp l a := by
  cases l with
  | nil => cases chosen
  | cons first rest =>
      simp only [lastMaximum, Option.mem_def, Option.some.injEq] at chosen
      -- The maximum so far stands first, and either it or the next element stays there.
      induction rest generalizing first with
      | nil =>
          subst chosen
          exact ⟨List.mem_cons_self, by simp⟩
      | cons b rest inductionHypothesis =>
          rw [List.foldl_cons] at chosen
          split at chosen
          · rename_i above
            have greatest := inductionHypothesis first (by grind) chosen
            obtain ⟨member, greater⟩ := greatest.beside (.inr above)
            exact ⟨by grind, fun c listed => greater c (by grind)⟩
          · rename_i notAbove
            have greatest := inductionHypothesis b (by grind) chosen
            refine greatest.beside ?_
            cases order : cmp first b with
            | lt => exact .inr (Std.OrientedCmp.gt_iff_lt.2 order)
            | eq => exact .inl (apart first (by simp) b (by simp) order)
            | gt => exact absurd order notAbove

theorem lastMaximum_eq_some_iff [Std.TransCmp cmp]
    (apart : ∀ a ∈ l, ∀ b ∈ l, cmp a b = .eq → a = b) :
    lastMaximum cmp l = some a ↔ IsGreatest cmp l a := by
  constructor
  · exact isGreatest_of_mem_lastMaximum apart
  · intro greatest
    cases l with
    | nil => cases greatest.1
    | cons first rest =>
        -- A list that is not empty has a last maximum, and only one element can be greatest.
        have chosen := isGreatest_of_mem_lastMaximum apart (Option.mem_def.2 rfl)
        exact congrArg some (chosen.unique greatest)

/-- The first element of a list from best to worst is greatest, wherever the same elements are
listed. -/
theorem head?_eq_lastMaximum [Std.TransCmp cmp]
    (apart : ∀ a ∈ l, ∀ b ∈ l, cmp a b = .eq → a = b)
    (ordered : sorted.Pairwise fun a b => (cmp a b).isGE = true)
    (same : ∀ a, a ∈ sorted ↔ a ∈ l) : sorted.head? = lastMaximum cmp l := by
  cases sorted with
  | nil =>
      have nothing : l = [] := List.eq_nil_iff_forall_not_mem.2 fun a member =>
        List.not_mem_nil ((same a).2 member)
      rw [nothing]
      rfl
  | cons best rest =>
      refine ((lastMaximum_eq_some_iff apart).2 ⟨(same best).1 List.mem_cons_self, ?_⟩).symm
      intro b member different
      rcases List.mem_cons.1 ((same b).2 member) with rfl | later
      · exact absurd rfl different
      · have least := (List.pairwise_cons.1 ordered).1 b later
        cases order : cmp best b with
        | lt => rw [order] at least; cases least
        | eq =>
            exact absurd
              (apart best ((same best).1 List.mem_cons_self) b member order).symm different
        | gt => rfl

end Greatest

/-- Candidates are sorted from best to worst. -/
theorem Policy.pairwise_sort (policy : Policy) (l : List Candidate) :
    (policy.sort l).Pairwise fun c d => (policy.compare c d).isGE = true := by
  refine List.pairwise_mergeSort (fun c d e first second => ?_) (fun c d => ?_) l
  · exact Std.TransCmp.isGE_trans first second
  · have swapped : policy.compare d c = (policy.compare c d).swap := Std.OrientedCmp.eq_swap
    rw [swapped]
    cases policy.compare c d <;> rfl

/-! ## Selection -/

namespace Model

variable {m : Model} {family : Family} {c d : Candidate}

/-- One candidate a key is known, so no two of a family tie. -/
theorem eq_of_tie {policy : Policy} (member : c ∈ m.candidatesOf family)
    (other : d ∈ m.candidatesOf family) (tie : policy.compare c d = .eq) : c = d := by
  obtain ⟨known, ours⟩ := mem_candidatesOf.1 member
  obtain ⟨knownToo, oursToo⟩ := mem_candidatesOf.1 other
  have sameKey := Policy.key_eq_of_tie tie (ours.trans oursToo.symm)
  exact KeyedSet.eq_of_key_eq known knownToo (Std.compare_eq_iff_eq.2 sameKey)

/-- The candidates of a report without their ranks are those of the model, sorted. -/
theorem map_candidate_ranked (m : Model) (policy : Policy) (options : SelectionOptions)
    (family : Family) :
    (m.ranked policy options family).map RankedCandidate.candidate =
      policy.sort (m.candidatesOf family) := by
  rw [ranked, List.map_map]
  exact List.map_id _

theorem nodup_candidatesOf (m : Model) (family : Family) : (m.candidatesOf family).Nodup :=
  m.candidates.nodup_toList.filter _

/-- Sorted, the candidates of a family get strictly worse. -/
theorem pairwise_sort_candidatesOf (m : Model) (policy : Policy) (family : Family) :
    (policy.sort (m.candidatesOf family)).Pairwise fun c d => policy.compare c d = .gt := by
  have listed {c : Candidate} (member : c ∈ policy.sort (m.candidatesOf family)) :
      c ∈ m.candidatesOf family := List.mem_mergeSort.1 member
  have distinct : (policy.sort (m.candidatesOf family)).Nodup :=
    (List.mergeSort_perm _ _).nodup_iff.2 (nodup_candidatesOf m family)
  have sorted := policy.pairwise_sort (m.candidatesOf family)
  refine (sorted.and distinct).imp_of_mem fun {c d} member other ⟨least, different⟩ => ?_
  cases order : policy.compare c d with
  | lt => rw [order] at least; cases least
  | eq => exact absurd (eq_of_tie (listed member) (listed other) order) different
  | gt => rfl

/-- The first of the ranked candidates that can be used is the winner. -/
theorem find?_ranked (m : Model) (policy : Policy) (options : SelectionOptions)
    (family : Family) :
    ((m.ranked policy options family).find? (·.eligibility.isEligible)).map
        RankedCandidate.candidate =
      (m.evaluate policy options family).winner := by
  have sorted := (policy.pairwise_sort (m.candidatesOf family)).filter fun c =>
    (m.eligibility options c).isEligible
  rw [ranked, List.find?_map, Option.map_map, ← List.head?_filter]
  refine (congrFun Option.map_id _).trans
    (head?_eq_lastMaximum (fun c member d other => ?_) sorted fun c => ?_)
  · exact eq_of_tie (mem_eligibleOf.1 member).1 (mem_eligibleOf.1 other).1
  · simp only [eligibleOf, List.mem_filter, Policy.sort, List.mem_mergeSort]
    rfl

/-- The candidates of a family are ordered strictly. There is no winner if and only if none of them
can be used, and the winner is the one of those that can which is preferred to all the others. The
ranking lists every candidate of the family once, from best to worst, with its rank and whether it
can be used, and the first in it that can is the winner. -/
theorem winner_is_greatest (m : Model) (policy : Policy) (options : SelectionOptions)
    (family : Family) :
    let winner := (m.evaluate policy options family).winner
    let ranked := m.ranked policy options family
    OrdersStrictly policy.compare (m.candidatesOf family) ∧
      (winner = none ↔ ∀ c ∈ m.candidatesOf family, m.eligibility options c ≠ .eligible) ∧
      (∀ c, winner = some c ↔
        (c ∈ m.candidatesOf family ∧ m.eligibility options c = .eligible) ∧
          ∀ d ∈ m.candidatesOf family, m.eligibility options d = .eligible → d ≠ c →
            policy.compare c d = .gt) ∧
      (ranked.map RankedCandidate.candidate).Nodup ∧
      (∀ c, c ∈ ranked.map RankedCandidate.candidate ↔
        c ∈ m.candidates ∧ c.family = family) ∧
      (∀ entry ∈ ranked, entry.rank = policy.rank entry.candidate ∧
        entry.eligibility = m.eligibility options entry.candidate) ∧
      (ranked.Pairwise fun entry later =>
        policy.compare entry.candidate later.candidate = .gt) ∧
      winner =
        (ranked.find? (·.eligibility = .eligible)).map RankedCandidate.candidate := by
  intro winner ranked
  have apart : ∀ c ∈ m.eligibleOf options family, ∀ d ∈ m.eligibleOf options family,
      policy.compare c d = .eq → c = d := fun c member d other =>
    eq_of_tie (mem_eligibleOf.1 member).1 (mem_eligibleOf.1 other).1
  have listed : ranked.map RankedCandidate.candidate = policy.sort (m.candidatesOf family) :=
    map_candidate_ranked m policy options family
  have descending := pairwise_sort_candidatesOf m policy family
  refine ⟨ordersStrictly_of_apart fun c member d other => eq_of_tie member other, ?_,
    fun c => ?_, ?_, fun c => ?_, fun entry member => ?_, ?_,
    (find?_ranked m policy options family).symm⟩
  · rw [winner_eq_none_iff, List.eq_nil_iff_forall_not_mem]
    simp only [mem_eligibleOf, not_and, ne_eq]
  · refine (lastMaximum_eq_some_iff apart).trans ?_
    simp only [IsGreatest, mem_eligibleOf, and_imp]
  · rw [listed]
    exact (List.mergeSort_perm _ _).nodup_iff.2 (nodup_candidatesOf m family)
  · rw [listed, ← mem_candidatesOf]
    exact List.mem_mergeSort
  · obtain ⟨c, -, rfl⟩ := List.mem_map.1 member
    exact ⟨rfl, rfl⟩
  · rw [← listed, List.pairwise_map] at descending
    exact descending

end Model

end DefaultGateway
