import DefaultGateway.Proofs.Batches
import DefaultGateway.Proofs.Confinement
import DefaultGateway.Proofs.Remaining
import DefaultGateway.Proofs.Restart

/-!
# Candidates registered in any order

The first reading of the kernel takes all default routes away. From then on each family has exactly
the route that its decision calls for: a registration puts the new winner's route in the place of
the old one's, or leaves it. So in the end the routes are those of the final decisions, and these
are made on the candidates alone, whichever came first.
-/

namespace DefaultGateway

open Kernel (Session)

namespace Reconciler

/-- The only route is that of an earlier winner: the present one's takes its place, or is the
same. -/
theorem remaining_of_target
    {r : Reconciler} {decision : Decision} {earlier winner : Candidate} {i j : LinkIndex}
    (chosen : decision.winner = some winner) (sameFamily : earlier.family = winner.family) :
    r.remaining [r.target earlier (some j)] decision (some i) = [r.target winner (some i)] := by
  by_cases forwards : (r.target earlier (some j)).forwardsVia winner.gateway (some i) = true
  · have same : earlier.gateway = winner.gateway ∧ j = i := by
      simpa [target, Route.defaultVia, Route.forwardsVia] using forwards
    have sameTarget : r.target earlier (some j) = r.target winner (some i) := by
      rw [target, target, sameFamily, same.1, same.2]
    rw [remaining_of_current chosen ⟨_, List.mem_cons_self, forwards⟩, List.filter_cons,
      if_pos forwards, sameTarget]
    rfl
  · exact remaining_of_foreign chosen (by simpa using forwards)

end Reconciler

namespace Engine

variable {σ : Type}

/-! ## The routes that are wanted -/

/-- The default routes that a family is to have: the one that its decision calls for, if any. -/
def wanted (e : Engine σ) (family : Family) : List Route :=
  match (e.evaluate family).winner with
  | none => []
  | some winner =>
    [e.reconciler.target winner (Reconciler.winnerOif e.model (e.evaluate family))]

section Wanted

variable {e after : Engine σ} {family : Family} {winner : Candidate}

theorem wanted_of_nobody (nobody : (e.evaluate family).winner = none) :
    e.wanted family = [] := by
  rw [wanted, nobody]

/-- The interface of a winner is known, and its route goes through it. -/
theorem wanted_of_winner (chosen : (e.evaluate family).winner = some winner) :
    winner.family = family ∧
      ∃ link,
        e.model.linkNamed? winner.interface = some link ∧
          Reconciler.winnerOif e.model (e.evaluate family) = some link.index ∧
          e.wanted family = [e.reconciler.target winner (some link.index)] := by
  obtain ⟨-, ours, -, link, named, -⟩ := Model.usable_of_mem_evaluate (Option.mem_def.2 chosen)
  have oif : Reconciler.winnerOif e.model (e.evaluate family) = some link.index := by
    rw [Reconciler.winnerOif_of_winner e.model chosen, named, Option.map_some]
  refine ⟨ours, link, named, oif, ?_⟩
  simp only [wanted, chosen, oif]

theorem wanted_congr
    (evaluated : after.evaluate family = e.evaluate family)
    (named : ∀ name, after.model.linkNamed? name = e.model.linkNamed? name)
    (table : after.reconciler.table = e.reconciler.table)
    (metric : after.reconciler.metric = e.reconciler.metric) :
    after.wanted family = e.wanted family := by
  simp only [wanted, evaluated, Reconciler.winnerOif, Reconciler.target, named, table, metric]

/-- Where a family has the route that was wanted before, the one that is wanted now is left. -/
theorem remaining_wanted
    (sameReconciler : after.reconciler = e.reconciler) (family : Family) :
    after.reconciler.remaining (e.wanted family) (after.evaluate family)
        (Reconciler.winnerOif after.model (after.evaluate family)) =
      after.wanted family := by
  cases chosen : (after.evaluate family).winner with
  | none => rw [Reconciler.remaining_of_nobody chosen, wanted_of_nobody chosen]
  | some winner =>
      obtain ⟨ours, link, -, oif, wanted⟩ := wanted_of_winner chosen
      rw [wanted, oif]
      cases chosenBefore : (e.evaluate family).winner with
      | none =>
          rw [wanted_of_nobody chosenBefore]
          exact Reconciler.remaining_of_foreign chosen (by simp)
      | some earlier =>
          obtain ⟨alsoOurs, earlierLink, -, -, wantedBefore⟩ := wanted_of_winner chosenBefore
          rw [wantedBefore, ← sameReconciler]
          exact Reconciler.remaining_of_target chosen (alsoOurs.trans ours.symm)

theorem eq_wanted_of_perm {routes : List Route} (perm : routes.Perm (e.wanted family)) :
    routes = e.wanted family := by
  cases chosen : (e.evaluate family).winner with
  | none =>
      rw [wanted_of_nobody chosen] at perm ⊢
      exact List.perm_nil.1 perm
  | some winner =>
      obtain ⟨-, link, -, -, wanted⟩ := wanted_of_winner chosen
      rw [wanted] at perm ⊢
      exact List.perm_singleton.1 perm

end Wanted

/-! ## Registrations -/

/-- Registers candidates, one after another. -/
def registerCandidates [RouteChannel σ] : List Candidate → Step (Engine σ) Unit
  | [] => return
  | c :: rest => do
    let _ ← registerCandidate c
    registerCandidates rest

/-- Nothing fails, every decision is up to date, and each family has exactly the default route that
is wanted. -/
structure Trim (e : Engine Session) : Prop where
  coherent : e.Coherent
  steady : Steady e e
  fulfilled : ∀ family, e.channel.kernel.managed e.model.table family = e.wanted family

/-- Some candidates have been put in, and nothing else that a decision rests on has changed. -/
structure Enrolled (e : Engine σ) (candidates : List Candidate) (after : Engine σ) : Prop where
  model :
    Model.SameButDefaults { e.model with candidates := e.model.candidates.insertAll candidates }
      after.model
  policy : after.policy = e.policy
  options : after.options = e.options
  table : after.reconciler.table = e.reconciler.table
  metric : after.reconciler.metric = e.reconciler.metric

theorem Enrolled.nobody (e : Engine σ) : Enrolled e [] e where
  model := .refl e.model
  policy := rfl
  options := rfl
  table := rfl
  metric := rfl

theorem Enrolled.append
    {e between after : Engine σ} {candidates more : List Candidate}
    (first : Enrolled e candidates between) (second : Enrolled between more after) :
    Enrolled e (candidates ++ more) after where
  model := by
    obtain ⟨_, reached⟩ := first.model
    obtain ⟨defaults, ended⟩ := second.model
    rw [reached] at ended
    rw [KeyedSet.insertAll_append]
    exact ⟨defaults, ended⟩
  policy := second.policy.trans first.policy
  options := second.options.trans first.options
  table := second.table.trans first.table
  metric := second.metric.trans first.metric

variable {e : Engine Session}

/-- A turn leaves its family with exactly the default route that is wanted, if it had the one that
was wanted before, and table and metric stay. -/
theorem Steady.wanted_outcome
    {turn : Turn Session} {after : Engine Session} {report : Report}
    (steady : Steady turn.engine turn.engine) (turned : turn.outcome = (.ok report, after))
    (sameReconciler : turn.engine.reconciler = e.reconciler)
    (before :
      turn.engine.channel.kernel.managed turn.engine.model.table turn.family =
        e.wanted turn.family) :
    after.channel.kernel.managed turn.engine.model.table turn.family =
        turn.engine.wanted turn.family ∧
      after.reconciler.table = turn.engine.reconciler.table ∧
      after.reconciler.metric = turn.engine.reconciler.metric := by
  have continues := Reconciler.continues_reconcile turn.engine.toManaged turn.decision
  have inStep :
      turn.engine.model.InStep turn.engine.channel.kernel turn.decision.family :=
    steady.inStep turn.family
  obtain ⟨status, t, ended, -, left⟩ :=
    Reconciler.perm_managed_reconcile steady.faultFree steady.sameTable inStep
      fun winner chosen => (Model.usable_of_mem_evaluate chosen).2.1
  have reached : t = after.toManaged := by
    rw [Turn.outcome_of_reconcile ended] at turned
    exact congrArg (·.2.toManaged) turned
  rw [ended, reached] at continues
  rw [reached] at left
  refine ⟨eq_wanted_of_perm (left.trans (.of_eq ?_)), continues.table, continues.metric⟩
  rw [← remaining_wanted sameReconciler, ← before]
  rfl

/-- A registration leaves each family with exactly the default route that is wanted. -/
theorem Trim.registerCandidate (trim : e.Trim) {c : Candidate} (consistent : c.Consistent) :
    ∃ reports after,
      (registerCandidate c).runFrom e = (.ok reports, after) ∧ after.Trim ∧
        Enrolled e [c] after := by
  let changed : Engine Session := { e with
    model := (e.model.register c).1, lastVersion := max e.lastVersion c.version }
  have steady : Steady changed changed :=
    trim.steady.withRegistry (e.model.candidates.insert c) e.model.disabled _
  obtain ⟨report, after, turned, steadyThen, -, -, others⟩ :=
    Steady.outcome ⟨c.family, changed⟩ steady
  have registered : (Engine.registerCandidate c).runFrom e = (.ok [report], after) := by
    have reevaluated : (reevaluate [c.family]).runFrom changed = (.ok [report], after) := by
      rw [runFrom_reevaluate_cons, turned]
      rfl
    rw [Engine.registerCandidate, Step.runFrom_bind_of_ok (Step.runFrom_modify _ e),
      Step.runFrom_bind_of_ok (runFrom_changeModel _ _)]
    exact reevaluated
  have coherent := coherent_of_registerCandidate trim.coherent consistent registered
  have sameReconciler : changed.reconciler = e.reconciler := rfl
  obtain ⟨own, table, metric⟩ :=
    steady.wanted_outcome turned sameReconciler (trim.fulfilled c.family)
  refine ⟨_, after, registered, ⟨coherent, steadyThen.self, fun family => ?_⟩,
    ⟨_, steadyThen.rerouted.rest⟩, steadyThen.policy, steadyThen.options, table, metric⟩
  have sameWanted : after.wanted family = changed.wanted family :=
    wanted_congr (steadyThen.evaluate_eq family) steadyThen.rerouted.linkNamed?_eq table metric
  rw [sameWanted, steadyThen.table_eq]
  by_cases ours : family = c.family
  · rw [ours]
    exact own
  · have same : changed.evaluate family = e.evaluate family :=
      ((sameGround_register ours).evaluate_eq trim.coherent.consistent e.policy e.options).symm
    have wantedBefore : changed.wanted family = e.wanted family :=
      wanted_congr same (fun _ => rfl) rfl rfl
    rw [others family ours, wantedBefore]
    exact trim.fulfilled family

theorem Trim.registerCandidates
    (trim : e.Trim) {candidates : List Candidate} (consistent : ∀ c ∈ candidates, c.Consistent) :
    ∃ after,
      (registerCandidates candidates).runFrom e = (.ok (), after) ∧ after.Trim ∧
        Enrolled e candidates after := by
  induction candidates generalizing e with
  | nil => exact ⟨e, rfl, trim, .nobody e⟩
  | cons c rest inductionHypothesis =>
      obtain ⟨consistentFirst, consistentRest⟩ := List.forall_mem_cons.1 consistent
      obtain ⟨reports, between, registered, trimThen, first⟩ :=
        trim.registerCandidate consistentFirst
      obtain ⟨after, ended, trimAfter, later⟩ := inductionHypothesis trimThen consistentRest
      exact ⟨after, (Step.runFrom_bind_of_ok registered).trans ended, trimAfter,
        first.append later⟩

/-- Where each family has what is wanted, all rests on the candidates that have been put in. -/
theorem Trim.eq_of_enrolled
    {one other : Engine Session} {candidates reordered : List Candidate}
    (trim : one.Trim) (otherTrim : other.Trim) (enrolled : Enrolled e candidates one)
    (otherEnrolled : Enrolled e reordered other)
    (same :
      e.model.candidates.insertAll candidates = e.model.candidates.insertAll reordered) :
    one.model = other.model ∧
      ∀ family,
        one.decision family = other.decision family ∧
          one.channel.kernel.managed one.model.table family =
            other.channel.kernel.managed one.model.table family := by
  have alike : one.model.SameButDefaults other.model := by
    have model := otherEnrolled.model
    rw [← same] at model
    exact enrolled.model.symm.trans model
  have evaluated (family : Family) : other.evaluate family = one.evaluate family := by
    rw [evaluate, evaluate, alike.evaluate_eq, enrolled.policy, otherEnrolled.policy,
      enrolled.options, otherEnrolled.options]
  obtain ⟨defaults, model⟩ := alike
  have sameTable : other.model.table = one.model.table := by rw [model]
  have sameWanted (family : Family) : other.wanted family = one.wanted family :=
    wanted_congr (evaluated family) (fun name => by rw [model]; rfl)
      (otherEnrolled.table.trans enrolled.table.symm)
      (otherEnrolled.metric.trans enrolled.metric.symm)
  have sameManaged (family : Family) :
      one.channel.kernel.managed one.model.table family =
        other.channel.kernel.managed one.model.table family := by
    rw [trim.fulfilled, ← sameTable, otherTrim.fulfilled, sameWanted]
  have sameDefaults : one.model.defaults = other.model.defaults := by
    refine PerFamily.ext_get fun family => KeyedSet.ext fun r => ?_
    have mirrors := (trim.steady.inStep family).mirrors r
    have otherMirrors := (otherTrim.steady.inStep family).mirrors r
    rw [sameManaged] at mirrors
    rw [sameTable] at otherMirrors
    exact mirrors.trans otherMirrors.symm
  refine ⟨?_, fun family => ⟨?_, sameManaged family⟩⟩
  · have former : one.model.defaults = defaults := by
      rw [sameDefaults, model]
    rw [model, ← former]
  · rw [trim.coherent.decision_eq, otherTrim.coherent.decision_eq, evaluated]

/-! ## Main result -/

/-- The first reading of a new engine takes all default routes away. -/
theorem trim_seed
    {session : Session} (faultFree : session.FaultFree) (settings : EngineSettings)
    (policy : Policy) (orderly : ∀ family, session.kernel.Orderly settings.table family) :
    ∃ reports seeded,
      seed.runFrom (new session settings policy) = (.ok reports, seeded) ∧ seeded.Trim ∧
        SetUp settings seeded := by
  obtain ⟨reports, read, seeded, ended, model, -, -, steady, settled⟩ :=
    settled_resync (e := new session settings policy) faultFree rfl orderly
  have performed :
      (Task.call .seed).perform.runFrom (new session settings policy) = (.ok (), seeded) :=
    Step.runFrom_bind_of_ok ended
  have setUp :=
    (Task.forall_turns (keeps_setUp_prepare (.call .seed)) (fun _ => SetUp.outcome)
      (setUp_new session settings policy)).2
  rw [performed] at setUp
  have readNobody : read.model.candidates = ∅ := by
    rw [model]
    exact (Model.updatesFacts_replaceFacts _ session.kernel.snapshot).candidates
  have noWinner (family : Family) : (read.evaluate family).winner = none :=
    Model.winner_eq_none_of_empty readNobody _ _ family
  refine ⟨reports, seeded, ended,
    ⟨coherent_of_resync (coherent_new session settings policy) ended, steady.self,
      fun family => ?_⟩, setUp⟩
  have nobody : (seeded.evaluate family).winner = none := by
    rw [steady.evaluate_eq]
    exact noWinner family
  rw [wanted_of_nobody nobody, steady.table_eq]
  exact (settled family).suits.cleared (noWinner family)

/-- For every kernel with default routes in order, every policy, and all candidates that keep to
their families, no two under one key: where nothing fails, they can be registered with a freshly
seeded engine in any two orders. The decisions and the model are the same in the end, and so are
the kernel's default routes: in each family the one that its winner calls for, on the winner's
interface, or none without a winner. -/
theorem registerCandidates_perm
    {session : Session} (faultFree : session.FaultFree) (settings : EngineSettings)
    (policy : Policy) (orderly : ∀ family, session.kernel.Orderly settings.table family)
    {candidates reordered : List Candidate}
    (distinct : (candidates.map Candidate.key).Nodup)
    (consistent : ∀ c ∈ candidates, c.Consistent) (perm : candidates.Perm reordered) :
    ∃ reports seeded one other,
      seed.runFrom (new session settings policy) = (.ok reports, seeded) ∧
        (registerCandidates candidates).runFrom seeded = (.ok (), one) ∧
        (registerCandidates reordered).runFrom seeded = (.ok (), other) ∧
        one.model = other.model ∧
        ∀ family,
          one.decision family = other.decision family ∧
            one.channel.kernel.managed settings.table family =
              other.channel.kernel.managed settings.table family ∧
            ((one.decision family).winner = none →
              one.channel.kernel.managed settings.table family = []) ∧
            ∀ winner ∈ (one.decision family).winner,
              ∃ link,
                one.model.linkNamed? winner.interface = some link ∧
                  one.channel.kernel.managed settings.table family =
                    [.defaultVia family winner.gateway (some link.index) settings.table
                      settings.metric] := by
  obtain ⟨reports, seeded, seeding, trim, setUp⟩ :=
    trim_seed faultFree settings policy orderly
  obtain ⟨one, registered, oneTrim, enrolled⟩ := trim.registerCandidates consistent
  obtain ⟨other, alsoRegistered, otherTrim, otherEnrolled⟩ :=
    trim.registerCandidates fun c listed => consistent c (perm.mem_iff.2 listed)
  obtain ⟨model, same⟩ :=
    oneTrim.eq_of_enrolled otherTrim enrolled otherEnrolled
      (KeyedSet.insertAll_perm distinct perm _)
  have modelTable : one.model.table = settings.table := by
    obtain ⟨_, reached⟩ := enrolled.model
    rw [reached]
    exact setUp.modelTable
  have fulfilled := oneTrim.fulfilled
  simp only [modelTable] at same fulfilled
  refine ⟨reports, seeded, one, other, seeding, registered, alsoRegistered, model, fun family =>
    ⟨(same family).1, (same family).2, fun nobody => ?_, fun winner chosen => ?_⟩⟩
  · rw [oneTrim.coherent.decision_eq] at nobody
    rw [fulfilled, wanted_of_nobody nobody]
  · rw [oneTrim.coherent.decision_eq] at chosen
    obtain ⟨ours, link, named, -, wanted⟩ := wanted_of_winner (Option.mem_def.1 chosen)
    refine ⟨link, named, ?_⟩
    rw [fulfilled, wanted, Reconciler.target, ours, enrolled.table, enrolled.metric, setUp.table,
      setUp.metric]

/-- Two gateways of the first family under the same version, and one of the second family. -/
def rivals : List Candidate := [
  ⟨.dhcp, .inet, "wlan0", .v4 0x0a010001#32, none, 7⟩,
  ⟨.dhcp, .inet, "eth0", .v4 0x0a000001#32, none, 7⟩,
  ⟨.dhcp, .inet6, "eth0", .v6 0xfe800000000000000000000000000001#128, none, 3⟩]

/-- In one order the gateway that is not chosen in the end gets its default route first, in the
other it never does. -/
theorem registerCandidates_reverse_rivals :
    ∃ seeds seeded one other,
      seed.runFrom (new StatusReport.occupied {} {}) = (.ok seeds, seeded) ∧
        (registerCandidates rivals).runFrom seeded = (.ok (), one) ∧
        (registerCandidates rivals.reverse).runFrom seeded = (.ok (), other) ∧
        one.channel.requests.length = 7 ∧ other.channel.requests.length = 6 ∧
        one.model = other.model ∧ one.decision .inet = other.decision .inet ∧
        one.channel.kernel.managed 254 .inet =
          [.defaultVia .inet (.v4 0x0a000001#32) (some 2) 254 0] ∧
        other.channel.kernel.managed 254 .inet =
          [.defaultVia .inet (.v4 0x0a000001#32) (some 2) 254 0] := by
  let start := (seed.runFrom (new StatusReport.occupied {} {})).2
  have requests : ((registerCandidates rivals).runFrom start).2.channel.requests.length = 7 := by
    decide +kernel
  have otherRequests :
      ((registerCandidates rivals.reverse).runFrom start).2.channel.requests.length = 6 := by
    decide +kernel
  have left :
      ((registerCandidates rivals).runFrom start).2.channel.kernel.managed 254 .inet =
        [.defaultVia .inet (.v4 0x0a000001#32) (some 2) 254 0] := by
    decide +kernel
  have faultFree : StatusReport.occupied.FaultFree := ⟨by decide +kernel, by decide +kernel⟩
  have orderly (family : Family) : StatusReport.occupied.kernel.Orderly 254 family := by
    cases family <;> exact ⟨by decide +kernel, by decide +kernel, by decide +kernel⟩
  have distinct : (rivals.map Candidate.key).Nodup := by decide +kernel
  obtain ⟨seeds, seeded, one, other, seeding, registered, alsoRegistered, model, same⟩ :=
    registerCandidates_perm faultFree {} {} orderly distinct (by decide +kernel)
      (List.reverse_perm rivals).symm
  obtain ⟨decision, managed, -⟩ := same .inet
  have begun : start = seeded := congrArg Prod.snd seeding
  rw [begun, registered] at requests left
  rw [begun, alsoRegistered] at otherRequests
  exact
    ⟨seeds, seeded, one, other, seeding, registered, alsoRegistered, requests, otherRequests,
      model, decision, left, managed ▸ left⟩

end Engine

end DefaultGateway
