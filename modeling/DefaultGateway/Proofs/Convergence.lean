import DefaultGateway.Proofs.Mirroring

/-!
# Convergence

Where nothing fails, one reconciliation brings the kernel's default routes to what the decision
calls for, and a second one finds nothing to do.
-/

namespace DefaultGateway

open Kernel (Session)

/-- Whether default routes are what a decision calls for: none without a winner, and otherwise at
least one and only such as go by the winner. -/
structure Decision.Suits
    (decision : Decision) (oif : Option LinkIndex) (routes : List Route) : Prop where
  cleared : decision.winner = Option.none → routes = []
  served : ∀ winner ∈ decision.winner, routes ≠ []
  only : ∀ winner ∈ decision.winner, ∀ route ∈ routes, route.forwardsVia winner.gateway oif = true

theorem Decision.Suits.of_mem_iff
    {decision : Decision} {oif : Option LinkIndex} {routes others : List Route}
    (suits : decision.Suits oif routes) (same : ∀ route, route ∈ others ↔ route ∈ routes) :
    decision.Suits oif others where
  cleared nobody := by
    have nothing := suits.cleared nobody
    subst nothing
    exact List.eq_nil_iff_forall_not_mem.2 fun route member =>
      List.not_mem_nil ((same route).1 member)
  served winner chosen := by
    obtain ⟨route, member⟩ := List.exists_mem_of_ne_nil _ (suits.served winner chosen)
    exact List.ne_nil_of_mem ((same route).2 member)
  only winner chosen route member := suits.only winner chosen route ((same route).1 member)

/-- The place of a default route is free where there is none of its family. -/
theorem Kernel.free_of_managed_eq_nil
    {k : Kernel} {table : UInt32} {family : Family} {route : Route}
    (standard : route.Standard table family) (nothing : k.managed table family = []) :
    ∀ r ∈ k.routes, sameSlot route r = false := by
  intro r member
  cases slot : sameSlot route r with
  | false => rfl
  | true =>
      have managed : r ∈ k.managed table family :=
        List.mem_filter.2 ⟨member, isManaged_of_sameSlot standard slot⟩
      rw [nothing] at managed
      cases managed

namespace Reconciler

variable {t u : Managed Session} {decision : Decision} {table : UInt32} {family : Family}

/-- Nothing is planned exactly where the routes suit the decision. -/
theorem plan_eq_noOp_iff
    (r : Reconciler) (installed : List Route) (decision : Decision)
    (oif : Option LinkIndex) :
    r.plan installed decision oif = .noOp ↔ decision.Suits oif installed := by
  have shape := planCase_plan r installed decision oif
  generalize r.plan installed decision oif = action at shape
  cases shape with
  | absent nobody nothing =>
      refine iff_of_true rfl ⟨fun _ => nothing, ?_, ?_⟩
      · simp [nobody]
      · simp [nobody]
  | unwanted nobody something =>
      exact iff_of_false (fun same => by cases same) fun suits => something (suits.cleared nobody)
  | first winner chosen nothing =>
      exact iff_of_false (fun same => by cases same) fun suits =>
        suits.served winner chosen nothing
  | foreign winner chosen something others =>
      refine iff_of_false (fun same => by cases same) fun suits => ?_
      obtain ⟨route, member⟩ := List.exists_mem_of_ne_nil _ something
      have current := suits.only winner chosen route member
      rw [others route member] at current
      cases current
  | inPlace winner chosen something current =>
      refine iff_of_true rfl ⟨?_, fun _ _ => something, ?_⟩
      · simp [chosen]
      · rintro other alsoChosen
        cases chosen.symm.trans alsoChosen
        exact current
  | strays winner chosen current stray =>
      refine iff_of_false (fun same => by cases same) fun suits => ?_
      obtain ⟨route, member, goesElsewhere⟩ := stray
      rw [suits.only winner chosen route member] at goesElsewhere
      cases goesElsewhere

/-! ## Actions in which nothing fails -/

theorem runFrom_submit_of_granted
    (faultFree : u.channel.FaultFree) (request : Kernel.Request) (operation : Operation)
    (change : Kernel → Except Errno Kernel) (record : Model → Model) {after : Kernel}
    (granted : change u.channel.kernel = .ok after) :
    ∃ v,
      (Managed.submit (Session.mutate request operation change) record).runFrom u = (.ok (), v) ∧
        v.channel.kernel = after ∧ v.channel.FaultFree := by
  obtain ⟨next, asked, kernel, stillFree⟩ := faultFree.mutate_eq granted
  rw [Managed.runFrom_submit, asked]
  exact ⟨_, rfl, kernel, stillFree⟩

/-- Default routes that are there can be deleted one after another, and all others stay. -/
theorem runFrom_withdrawAll
    {routes : List Route} (faultFree : u.channel.FaultFree)
    (orderly : u.channel.kernel.Orderly table family) (nodup : routes.Nodup)
    (known : ∀ route ∈ routes, route ∈ u.channel.kernel.managed table family) :
    ∃ v,
      (withdrawAll routes).runFrom u = (.ok (), v) ∧
        ∀ r,
          r ∈ v.channel.kernel.managed table family ↔
            r ∈ u.channel.kernel.managed table family ∧ r ∉ routes := by
  induction routes generalizing u with
  | nil => exact ⟨u, rfl, by simp⟩
  | cons route rest inductionHypothesis =>
      obtain ⟨unlisted, nodupRest⟩ := List.nodup_cons.1 nodup
      have ⟨here, later⟩ := List.forall_mem_cons.1 known
      have standard := orderly.standard here
      obtain ⟨after, granted⟩ := Kernel.delete_of_mem_managed standard here
      obtain ⟨v, submitted, kernel, stillFree⟩ :=
        runFrom_submit_of_granted faultFree (.delete route) .deleteRoute (·.delete route)
          (·.recordWithdrawn route) granted
      subst kernel
      have left (r : Route) := Kernel.mem_managed_delete_of_mem orderly here granted (r := r)
      -- What is still to be deleted is not what has just been deleted, so it is still there.
      have knownLater : ∀ other ∈ rest, other ∈ v.channel.kernel.managed table family := by
        intro other listed
        refine (left other).2 ⟨later other listed, ?_⟩
        rintro rfl
        exact unlisted listed
      obtain ⟨w, withdrawn, remaining⟩ :=
        inductionHypothesis stillFree (orderly.delete standard granted) nodupRest knownLater
      refine ⟨w, ?_, fun r => ?_⟩
      · rw [withdrawAll_cons]
        exact (Step.runFrom_bind_of_ok submitted).trans withdrawn
      · rw [remaining r, left r, List.mem_cons, not_or, and_assoc]

/-- A route can be installed where there is no default route yet. -/
theorem runFrom_install
    {route : Route} (faultFree : u.channel.FaultFree)
    (orderly : u.channel.kernel.Orderly table family)
    (standard : route.Standard table family)
    (nothing : u.channel.kernel.managed table family = []) :
    ∃ v,
      (execute (.install route)).runFrom u = (.ok (), v) ∧
        ∀ r, r ∈ v.channel.kernel.managed table family ↔ r = route := by
  have free := Kernel.free_of_managed_eq_nil standard nothing
  obtain ⟨v, submitted, kernel, -⟩ :=
    runFrom_submit_of_granted faultFree (.add route) .addRoute (·.add route)
      (·.recordInstalled route) ((Kernel.add_eq_ok_iff standard).2 ⟨free, rfl⟩)
  refine ⟨v, submitted, fun r => ?_⟩
  rw [kernel, Kernel.mem_managed_replace orderly standard, nothing]
  simp

/-- A route is put in the place of all the default routes there are. -/
theorem runFrom_replace
    {route : Route} (faultFree : u.channel.FaultFree)
    (inStep : u.model.InStep u.channel.kernel family)
    (standard : route.Standard u.model.table family) :
    ∃ v,
      (execute (.replace (u.model.defaultRoutes family) route)).runFrom u = (.ok (), v) ∧
        ∀ r, r ∈ v.channel.kernel.managed u.model.table family ↔ r = route := by
  obtain ⟨v, submitted, kernel, stillFree⟩ :=
    runFrom_submit_of_granted faultFree (.replace route) .replaceRoute
      (fun k => .ok (k.replace route)) (·.recordInstalled route) rfl
  have orderly := inStep.orderly.replace standard
  have inPlace (r : Route) := Kernel.mem_managed_replace inStep.orderly standard (r := r)
  rw [← kernel] at orderly inPlace
  have left (r : Route) := mem_leftovers inStep route (r := r)
  -- The new route has a metric that no route left behind has, so it is not deleted with them.
  have nodup : (leftovers (u.model.defaultRoutes family) route).Nodup :=
    (Model.nodup_defaultRoutes u.model family).sublist List.eraseP_sublist
  obtain ⟨w, withdrawn, remaining⟩ :=
    runFrom_withdrawAll stillFree orderly nodup
      fun r listed => (inPlace r).2 (.inr ((left r).1 listed))
  refine ⟨w, ?_, fun r => ?_⟩
  · rw [execute_replace]
    exact (Step.runFrom_bind_of_ok submitted).trans withdrawn
  · rw [remaining r, inPlace r, left r]
    constructor
    · rintro ⟨rfl | old, unlisted⟩
      · rfl
      · exact absurd old unlisted
    · rintro rfl
      exact ⟨.inl rfl, fun listed => listed.2 rfl⟩

/-! ## What is left of the default routes -/

/-- The default routes that a decision leaves of those installed: none without a winner, and
otherwise those that go by the winner, or the one that it calls for if there are none. -/
def remaining (r : Reconciler) (installed : List Route) (decision : Decision)
    (oif : Option LinkIndex) : List Route :=
  match decision.winner with
  | none => []
  | some winner =>
    let current := installed.filter (·.forwardsVia winner.gateway oif)
    if current.isEmpty then [r.target winner oif] else current

section Remaining

variable {r : Reconciler} {installed : List Route} {oif : Option LinkIndex} {winner : Candidate}

theorem remaining_of_nobody (nobody : decision.winner = none) :
    r.remaining installed decision oif = [] := by
  rw [remaining, nobody]

theorem remaining_of_foreign
    (chosen : decision.winner = some winner)
    (others : ∀ route ∈ installed, route.forwardsVia winner.gateway oif = false) :
    r.remaining installed decision oif = [r.target winner oif] := by
  have nothing : installed.filter (·.forwardsVia winner.gateway oif) = [] :=
    List.filter_eq_nil_iff.2 fun route member => by simp [others route member]
  simp only [remaining, chosen, nothing, List.isEmpty_nil, if_true]

theorem remaining_of_current
    (chosen : decision.winner = some winner)
    (current : ∃ route ∈ installed, route.forwardsVia winner.gateway oif = true) :
    r.remaining installed decision oif =
      installed.filter (·.forwardsVia winner.gateway oif) := by
  obtain ⟨route, member, forwards⟩ := current
  have something : installed.filter (·.forwardsVia winner.gateway oif) ≠ [] :=
    List.ne_nil_of_mem (List.mem_filter.2 ⟨member, forwards⟩)
  simp only [remaining, chosen, List.isEmpty_iff, if_neg something]

/-- What a decision leaves suits it. -/
theorem suits_remaining (r : Reconciler) (installed : List Route) (decision : Decision)
    (oif : Option LinkIndex) : decision.Suits oif (r.remaining installed decision oif) where
  cleared := remaining_of_nobody
  served winner chosen := by
    by_cases current : ∃ route ∈ installed, route.forwardsVia winner.gateway oif = true
    · obtain ⟨route, kept⟩ := current
      rw [remaining_of_current chosen ⟨route, kept⟩]
      exact List.ne_nil_of_mem (List.mem_filter.2 kept)
    · rw [remaining_of_foreign chosen (by simpa using current)]
      exact List.cons_ne_nil _ _
  only winner chosen route member := by
    by_cases current : ∃ route ∈ installed, route.forwardsVia winner.gateway oif = true
    · rw [remaining_of_current chosen current] at member
      exact (List.mem_filter.1 member).2
    · rw [remaining_of_foreign chosen (by simpa using current), List.mem_singleton] at member
      rw [member]
      exact forwardsVia_target ..

end Remaining

/-- Where nothing fails, the planned action leaves what the decision does of the default routes
that were there. -/
theorem remaining_execute_planned
    (faultFree : t.channel.FaultFree) (sameTable : t.reconciler.table = t.model.table)
    (inStep : t.model.InStep t.channel.kernel decision.family)
    (winnerFamily : ∀ winner ∈ decision.winner, winner.family = decision.family) :
    ∃ v,
      (execute (planned t decision)).runFrom t = (.ok (), v) ∧
        ∀ route,
          route ∈ v.channel.kernel.managed t.model.table decision.family ↔
            route ∈ t.reconciler.remaining
              (t.channel.kernel.managed t.model.table decision.family) decision
              (winnerOif t.model decision) := by
  have mirrors := inStep.mirrors
  have standard (route : Route) (member : route ∈ (planned t decision).sent) :=
    standard_of_mem_planned sameTable inStep winnerFamily member
  have shape := planCase_planned t decision
  generalize planned t decision = action at shape standard
  cases shape with
  | absent nobody nothing =>
      refine ⟨t, rfl, fun route => ?_⟩
      rw [remaining_of_nobody nobody, mirrors.managed_eq_nil nothing]
  | unwanted nobody something =>
      obtain ⟨v, withdrawn, left⟩ :=
        runFrom_withdrawAll faultFree inStep.orderly (Model.nodup_defaultRoutes _ _)
          fun route => (mirrors route).1
      refine ⟨v, withdrawn, fun route => ?_⟩
      rw [remaining_of_nobody nobody, left route, mirrors route]
      simp
  | first winner chosen nothing =>
      obtain ⟨v, installed, alone⟩ :=
        runFrom_install faultFree inStep.orderly (standard _ List.mem_cons_self)
          (mirrors.managed_eq_nil nothing)
      refine ⟨v, installed, fun route => ?_⟩
      rw [remaining_of_foreign chosen (by simp [mirrors.managed_eq_nil nothing]),
        List.mem_singleton]
      exact alone route
  | foreign winner chosen something others =>
      obtain ⟨v, replaced, alone⟩ :=
        runFrom_replace faultFree inStep (standard _ List.mem_cons_self)
      refine ⟨v, replaced, fun route => ?_⟩
      rw [remaining_of_foreign chosen fun known member => others known ((mirrors known).2 member),
        List.mem_singleton]
      exact alone route
  | inPlace winner chosen something current =>
      obtain ⟨known, member⟩ := List.exists_mem_of_ne_nil _ something
      refine ⟨t, rfl, fun route => ?_⟩
      rw [remaining_of_current chosen ⟨known, (mirrors known).1 member, current known member⟩,
        List.mem_filter, iff_self_and]
      exact fun there => current route ((mirrors route).2 there)
  | strays winner chosen current stray =>
      obtain ⟨v, withdrawn, left⟩ :=
        runFrom_withdrawAll faultFree inStep.orderly
          ((Model.nodup_defaultRoutes _ _).filter
            (!·.forwardsVia winner.gateway (winnerOif t.model decision)))
          fun route listed => (mirrors route).1 (List.mem_filter.1 listed).1
      obtain ⟨known, member, forwards⟩ := current
      refine ⟨v, withdrawn, fun route => ?_⟩
      rw [remaining_of_current chosen ⟨known, (mirrors known).1 member, forwards⟩, left route,
        List.mem_filter, List.mem_filter, mirrors route]
      simp +contextual

/-- Where nothing fails, the planned action ends with default routes that suit the decision. -/
theorem runFrom_execute_planned
    (faultFree : t.channel.FaultFree) (sameTable : t.reconciler.table = t.model.table)
    (inStep : t.model.InStep t.channel.kernel decision.family)
    (winnerFamily : ∀ winner ∈ decision.winner, winner.family = decision.family) :
    ∃ v,
      (execute (planned t decision)).runFrom t = (.ok (), v) ∧
        decision.Suits (winnerOif t.model decision)
          (v.channel.kernel.managed t.model.table decision.family) := by
  obtain ⟨v, executed, left⟩ :=
    remaining_execute_planned faultFree sameTable inStep winnerFamily
  exact ⟨v, executed, (suits_remaining ..).of_mem_iff left⟩

/-! ## The whole of a reconciliation -/

/-- When its action succeeds, a reconciliation leaves nothing pending. -/
theorem runFrom_reconcile_of_ok
    (executed : (execute (planned t decision)).runFrom t = (.ok (), u)) :
    (reconcile decision).runFrom t =
      (.ok ⟨decision.family, planned t decision,
          if (planned t decision).isNoOp then .skipped else .completed⟩,
        u.withPending decision.family none) := by
  rw [runFrom_reconcile]
  split
  · rename_i idle
    have isNoOp : planned t decision = .noOp := by
      simpa [Action.isNoOp] using idle
    rw [isNoOp] at executed
    cases executed
    rfl
  · rw [executed]

/-- Where nothing is to be done and nothing waits, a reconciliation changes nothing at all. -/
theorem runFrom_reconcile_of_noOp
    (idle : planned t decision = .noOp)
    (settled : t.reconciler.pending.get decision.family = none) :
    (reconcile decision).runFrom t = (.ok ⟨decision.family, .noOp, .skipped⟩, t) := by
  have executed : (execute (planned t decision)).runFrom t = (.ok (), t) := by
    rw [idle]
    rfl
  rw [runFrom_reconcile_of_ok executed, idle, Managed.withPending, ← settled, PerFamily.set_get]
  rfl

/-- Where nothing fails, a reconciliation succeeds, leaves nothing pending, and leaves exactly such
default routes of the family as the decision calls for; all other routes stay. Done once more, it
does nothing. -/
theorem converges_of_faultFree
    (faultFree : t.channel.FaultFree) (sameTable : t.reconciler.table = t.model.table)
    (inStep : t.model.InStep t.channel.kernel decision.family)
    (winnerFamily : ∀ winner ∈ decision.winner, winner.family = decision.family) :
    ∃ report after,
      (reconcile decision).runFrom t = (.ok report, after) ∧
        (report.status = .skipped ∨ report.status = .completed) ∧
        after.reconciler.pending.get decision.family = none ∧
        (decision.winner = none →
          after.channel.kernel.managed t.model.table decision.family = []) ∧
        (∀ winner ∈ decision.winner,
          after.channel.kernel.managed t.model.table decision.family ≠ [] ∧
            ∀ route ∈ after.channel.kernel.managed t.model.table decision.family,
              route.forwardsVia winner.gateway
                ((t.model.linkNamed? winner.interface).map (·.index)) = true) ∧
        after.channel.kernel.foreign t.model.table decision.family =
          t.channel.kernel.foreign t.model.table decision.family ∧
        (reconcile decision).runFrom after =
          (.ok ⟨decision.family, .noOp, .skipped⟩, after) := by
  obtain ⟨v, executed, suits⟩ :=
    runFrom_execute_planned faultFree sameTable inStep winnerFamily
  have ended := runFrom_reconcile_of_ok executed
  have abreast := abreast_reconcile sameTable inStep winnerFamily
  have undisturbed : Model.Undisturbed t.model ((reconcile decision).runFrom t).2.model :=
    undisturbed_reconcile fun route member =>
      (standard_of_mem_planned sameTable inStep winnerFamily member).isDefault
  rw [ended] at abreast undisturbed
  have settled :
      (v.withPending decision.family none).reconciler.pending.get decision.family = none :=
    PerFamily.get_set_self _ _ _
  have sameOif :
      winnerOif (v.withPending decision.family none).model decision =
        winnerOif t.model decision := by
    simp only [winnerOif, (undisturbed.ground decision.family).named]
  have idle : planned (v.withPending decision.family none) decision = .noOp := by
    rw [planned, plan_eq_noOp_iff, sameOif]
    refine suits.of_mem_iff fun route => ?_
    rw [← abreast.table]
    exact abreast.inStep.mirrors route
  refine ⟨_, _, ended, ?_, settled, suits.cleared, fun winner chosen => ?_, abreast.foreign,
    runFrom_reconcile_of_noOp idle settled⟩
  · split
    · exact .inl rfl
    · exact .inr rfl
  · have oif :
        winnerOif t.model decision = (t.model.linkNamed? winner.interface).map (·.index) := by
      rw [winnerOif, Option.mem_def.1 chosen]
      rfl
    rw [← oif]
    exact ⟨suits.served winner chosen, suits.only winner chosen⟩

/-- Nothing fails, and an earlier refusal waits for the next evaluation. -/
def unhindered : Managed Session where
  channel := { kernel := crowded, mutationFaults := [none] }
  model := seenIn crowded
  reconciler := { table := 254, metric := 0, pending := .both (some ⟨.noOp, .denied⟩) }

/-- Of three default routes one is left, through the gateway chosen. -/
theorem converges_unhindered :
    ∃ report after,
      (reconcile wired).runFrom unhindered = (.ok report, after) ∧
        after.channel.kernel.managed 254 .inet =
          [.defaultVia .inet (.v4 0x0a000001#32) (some 2) 254 0] ∧
        after.reconciler.pending.get .inet = none ∧
        (reconcile wired).runFrom after = (.ok ⟨.inet, .noOp, .skipped⟩, after) := by
  have left :
      ((reconcile wired).runFrom unhindered).2.channel.kernel.managed 254 .inet =
        [.defaultVia .inet (.v4 0x0a000001#32) (some 2) 254 0] := by
    decide +kernel
  have faultFree : unhindered.channel.FaultFree := ⟨by decide +kernel, by decide +kernel⟩
  have inStep : unhindered.model.InStep unhindered.channel.kernel wired.family :=
    inStep_crowded
  obtain ⟨report, after, ended, _, settled, _, _, _, idle⟩ :=
    converges_of_faultFree faultFree (by decide +kernel) inStep (by simp [wired])
  rw [ended] at left
  exact ⟨report, after, ended, left, settled, idle⟩

end Reconciler

end DefaultGateway
