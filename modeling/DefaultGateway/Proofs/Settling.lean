import DefaultGateway.Proofs.Calm
import DefaultGateway.Proofs.Convergence
import DefaultGateway.Proofs.Replay

/-!
# Turns that settle a family

Where nothing fails and the model is in step with the kernel, a turn leaves its family with the
decision that is called for and with default routes that suit it. All else stays as it was, so that
turns can follow one another.
-/

namespace DefaultGateway

open Kernel (Session)

namespace Model

/-! ## Models that share everything but their default routes -/

def SameButDefaults (m n : Model) : Prop := ∃ defaults, n = { m with defaults := defaults }

namespace SameButDefaults

variable {m n o : Model}

theorem refl (m : Model) : m.SameButDefaults m := ⟨m.defaults, rfl⟩

theorem symm (same : m.SameButDefaults n) : n.SameButDefaults m := by
  obtain ⟨_, rfl⟩ := same
  exact ⟨m.defaults, rfl⟩

theorem trans (first : m.SameButDefaults n) (second : n.SameButDefaults o) :
    m.SameButDefaults o := by
  obtain ⟨_, rfl⟩ := first
  obtain ⟨defaults, rfl⟩ := second
  exact ⟨defaults, rfl⟩

theorem table_eq (same : m.SameButDefaults n) : n.table = m.table := by
  obtain ⟨_, rfl⟩ := same
  rfl

theorem linkNamed?_eq (same : m.SameButDefaults n) (name : String) :
    n.linkNamed? name = m.linkNamed? name := by
  obtain ⟨_, rfl⟩ := same
  rfl

theorem winnerOif_eq (same : m.SameButDefaults n) (decision : Decision) :
    Reconciler.winnerOif n decision = Reconciler.winnerOif m decision := by
  simp only [Reconciler.winnerOif, same.linkNamed?_eq]

/-- Default routes have no part in a decision. -/
theorem evaluate_eq
    (same : m.SameButDefaults n) (policy : Policy) (options : SelectionOptions)
    (family : Family) : n.evaluate policy options family = m.evaluate policy options family := by
  obtain ⟨_, rfl⟩ := same
  rfl

end SameButDefaults

theorem sameButDefaults_addDefaultRoute (m : Model) (route : Route) (replacing : Bool) :
    m.SameButDefaults (m.addDefaultRoute route replacing).1 := by
  unfold addDefaultRoute
  split
  · exact .refl m
  · simp only
    split
    · exact .refl m
    · exact ⟨_, rfl⟩

theorem sameButDefaults_dropRoute
    (m : Model) {route : Route} (isDefault : route.isDefault = true) :
    m.SameButDefaults (m.dropRoute route).1 := by
  simp only [dropRoute, isDefault, Bool.not_true, Bool.false_eq_true, if_false]
  split
  · exact .refl m
  · exact ⟨_, rfl⟩

/-- A default route through an interface that is known, or through none, adds nothing else. -/
theorem sameButDefaults_recordInstalled
    (m : Model) {route : Route} (isDefault : route.isDefault = true)
    (known : ∀ oif ∈ route.oif, m.links.containsKey oif = true) :
    m.SameButDefaults (m.recordInstalled route) := by
  rw [recordInstalled, addRoute, ensureOif_eq_self known, if_pos isDefault]
  exact sameButDefaults_addDefaultRoute m route true

/-- An interface found by its name is known by its index. -/
theorem containsKey_of_linkNamed?
    {m : Model} {name : String} {link : Link}
    (named : m.linkNamed? name = some link) : m.links.containsKey link.index = true :=
  KeyedSet.containsKey_iff.2 ⟨link, List.mem_of_find?_eq_some named, rfl⟩

end Model

namespace Kernel

variable {table : UInt32} {family other : Family} {k after : Kernel}

/-- The default routes of one family are among the routes foreign to the other. -/
theorem managed_eq_of_foreign_eq
    (apart : other ≠ family) (same : after.foreign table family = k.foreign table family) :
    after.managed table other = k.managed table other := by
  have among (k : Kernel) :
      k.managed table other = (k.foreign table family).filter (·.isManaged table other) := by
    rw [foreign, List.filter_filter, managed]
    refine List.filter_congr fun r _ => ?_
    cases ours : r.isManaged table other with
    | false => rfl
    | true =>
        have family : r.isManaged table family = false := by
          rw [← Bool.not_eq_true, Route.isManaged_iff]
          rintro ⟨-, rfl, -⟩
          exact apart (Route.isManaged_iff.1 ours).2.1.symm
        simp [family]
  rw [among after, among k, same]

theorem Orderly.of_managed_eq
    (orderly : k.Orderly table family)
    (same : after.managed table family = k.managed table family) :
    after.Orderly table family where
  canonical := same ▸ orderly.canonical
  stored := same ▸ orderly.stored
  distinct := same ▸ orderly.distinct

end Kernel

namespace Reconciler

/-! ## Reconciliations -/

section Channels

variable {σ : Type} [RouteChannel σ]

omit [RouteChannel σ] in
/-- The interface through which the winner's route goes is known. -/
theorem containsKey_of_winnerOif
    {m : Model} {decision : Decision} {oif : LinkIndex} (wanted : winnerOif m decision = some oif) :
    m.links.containsKey oif = true := by
  obtain ⟨winner, -, mapped⟩ := Option.bind_eq_some_iff.1 wanted
  obtain ⟨link, named, rfl⟩ := Option.map_eq_some_iff.1 mapped
  exact Model.containsKey_of_linkNamed? named

theorem keeps_reconciler_execute (r : Reconciler) (action : Action) :
    Step.Keeps (fun u : Managed σ => u.reconciler = r) (execute action) := by
  have submits (request : Step σ Unit) (record : Model → Model) :
      Step.Keeps (fun u : Managed σ => u.reconciler = r) (Managed.submit request record) := by
    intro u same
    rw [Managed.runFrom_submit]
    cases request.runFrom u.channel with
    | mk outcome channel => cases outcome <;> exact same
  exact
    keeps_execute (fun _ _ => submits _ _) (fun _ _ => submits _ _) fun _ _ => submits _ _

/-- No action makes the model hold anything of an interface that it does not know. -/
theorem keeps_inheritsFrom_execute (m : Model) (action : Action) :
    Step.Keeps (fun u : Managed σ => u.model.InheritsFrom m) (execute action) := by
  have installs (request : Step σ Unit) (route : Route) :
      Step.Keeps (fun u : Managed σ => u.model.InheritsFrom m)
        (Managed.submit request (·.recordInstalled route)) :=
    keeps_submit_of_record request fun n => (Model.inheritsFrom_addRoute n route true).trans
  exact
    keeps_execute (fun _ _ => installs _ _) (fun _ _ => installs _ _) fun route _ =>
      keeps_submit_of_record _ fun n => (Model.inheritsFrom_dropRoute n route).trans

omit [RouteChannel σ] in
/-- The winner's route goes through an interface that is known, so that nothing else is recorded
with it. -/
theorem keeps_submit_target
    (m : Model) (r : Reconciler) (decision : Decision) (winner : Candidate)
    (request : Step σ Unit) :
    Step.Keeps (fun u : Managed σ => m.SameButDefaults u.model)
      (Managed.submit request (·.recordInstalled (r.target winner (winnerOif m decision)))) := by
  refine keeps_submit_of_record request fun n same => same.trans ?_
  refine Model.sameButDefaults_recordInstalled n rfl fun oif through => ?_
  have known : m.links.containsKey oif = true := containsKey_of_winnerOif through
  obtain ⟨_, rfl⟩ := same
  exact known

theorem keeps_withdrawAll_of_isDefault
    (m : Model) {routes : List Route} (isDefault : ∀ route ∈ routes, route.isDefault = true) :
    Step.Keeps (fun u : Managed σ => m.SameButDefaults u.model) (withdrawAll routes) :=
  keeps_withdrawAll fun route listed => keeps_submit_of_record _ fun n same =>
    same.trans (Model.sameButDefaults_dropRoute n (isDefault route listed))

/-- A reconciliation changes no part of the model but the default routes. -/
theorem sameButDefaults_reconcile
    {t : Managed σ} (tidy : t.model.Tidy) (decision : Decision) :
    t.model.SameButDefaults ((reconcile decision).runFrom t).2.model := by
  have known : ∀ route ∈ t.model.defaultRoutes decision.family, route.isDefault = true :=
    fun route listed => (Route.isManaged_iff.1 (tidy decision.family route listed)).1
  have executes :
      Step.Keeps (fun u : Managed σ => t.model.SameButDefaults u.model)
        (execute (planned t decision)) := by
    have shape := planCase_planned t decision
    generalize planned t decision = action at shape ⊢
    cases shape with
    | absent => exact .pure ()
    | unwanted => exact keeps_withdrawAll_of_isDefault t.model known
    | first winner => exact keeps_submit_target t.model t.reconciler decision winner _
    | foreign winner =>
        rw [execute_replace]
        refine .bind (keeps_submit_target t.model t.reconciler decision winner _) fun _ => ?_
        exact keeps_withdrawAll_of_isDefault t.model fun route left =>
          known route (List.mem_of_mem_eraseP left)
    | inPlace => exact .pure ()
    | strays =>
        exact keeps_withdrawAll_of_isDefault t.model fun route stray =>
          known route (List.mem_filter.1 stray).1
  refine reconcile_keeps (P := fun u => t.model.SameButDefaults u.model)
    (executes t (.refl t.model)) ?_ fun u failure same => same
  intro u same
  rw [runFrom_reread]
  cases (RouteChannel.dumpRoutes (some decision.family)).runFrom u.channel with
  | mk outcome channel =>
      cases outcome with
      | ok routes => exact same.trans ⟨_, rfl⟩
      | error error => exact same

end Channels

variable {t : Managed Session} {decision : Decision}

/-- Where nothing fails and the model is in step with the kernel, a reconciliation settles its
family: nothing waits, and the routes suit the decision. -/
theorem settles_reconcile
    (faultFree : t.channel.FaultFree) (sameTable : t.reconciler.table = t.model.table)
    (inStep : t.model.InStep t.channel.kernel decision.family)
    (winnerFamily : ∀ winner ∈ decision.winner, winner.family = decision.family) :
    ∃ report after,
      (reconcile decision).runFrom t = (.ok report, after) ∧
        after.channel.FaultFree ∧
        Abreast t.model t.channel.kernel decision.family after.channel.kernel after.model ∧
        after.model.InheritsFrom t.model ∧
        after.reconciler =
          { t.reconciler with pending := t.reconciler.pending.set decision.family none } ∧
        decision.Suits (winnerOif t.model decision)
          (after.channel.kernel.managed t.model.table decision.family) := by
  obtain ⟨v, executed, suits⟩ :=
    runFrom_execute_planned faultFree sameTable inStep winnerFamily
  have ended := runFrom_reconcile_of_ok executed
  have later := within_reconcile decision t faultFree
  have abreast := abreast_reconcile sameTable inStep winnerFamily
  rw [ended] at later abreast
  have inherits := keeps_inheritsFrom_execute t.model (planned t decision) t (.refl t.model)
  have reconciler := keeps_reconciler_execute t.reconciler (planned t decision) t rfl
  rw [executed] at inherits reconciler
  refine ⟨_, _, ended, later, abreast, inherits, ?_, suits⟩
  rw [Managed.withPending, reconciler]

end Reconciler

/-- What is done for one family leaves model and kernel in step on the other. -/
theorem Abreast.inStep_of_ne
    {m₀ m : Model} {k₀ k : Kernel} {family other : Family}
    (abreast : Abreast m₀ k₀ family k m) (apart : other ≠ family)
    (inStep : m₀.InStep k₀ other) : m.InStep k other := by
  have sameManaged := Kernel.managed_eq_of_foreign_eq apart abreast.foreign
  rw [← abreast.table] at sameManaged
  refine ⟨?_, fun r => ?_⟩
  · rw [abreast.table] at sameManaged ⊢
    exact inStep.orderly.of_managed_eq sameManaged
  · rw [abreast.others other apart, sameManaged, abreast.table]
    exact inStep.mirrors r

namespace Engine

/-! ## Turns -/

variable {start e : Engine Session}

/-- Nothing fails, the model is in step with the kernel, and nothing but default routes has been
changed since the start. -/
structure Aligned (start e : Engine Session) : Prop where
  faultFree : e.channel.FaultFree
  sameTable : e.reconciler.table = e.model.table
  inStep : ∀ family, e.model.InStep e.channel.kernel family
  model : start.model.SameButDefaults e.model
  policy : e.policy = start.policy
  options : e.options = start.options

/-- The decision for a family is the one that the start calls for, nothing waits to be done for it,
and the kernel's default routes suit it. -/
structure Settled (start e : Engine Session) (family : Family) : Prop where
  decided : e.decision family = start.evaluate family
  calm : e.reconciler.pending.get family = none
  suits :
    (start.evaluate family).Suits (Reconciler.winnerOif start.model (start.evaluate family))
      (e.channel.kernel.managed start.model.table family)

/-- The default routes that were known at the start do not matter. -/
theorem Settled.of_sameButDefaults
    {base : Engine Session} {family : Family} (settled : Settled start e family)
    (model : base.model.SameButDefaults start.model) (policy : start.policy = base.policy)
    (options : start.options = base.options) : Settled base e family := by
  have evaluated : start.evaluate family = base.evaluate family := by
    rw [evaluate, evaluate, model.evaluate_eq, policy, options]
  refine ⟨settled.decided.trans evaluated, settled.calm, ?_⟩
  rw [← evaluated, ← model.winnerOif_eq, ← model.table_eq]
  exact settled.suits

/-- The winner's interface is up, and there are default routes, all through the winner. -/
theorem Settled.served
    {family : Family} {winner : Candidate} (settled : Settled start e family)
    (chosen : winner ∈ (start.evaluate family).winner) :
    ∃ link,
      start.model.linkNamed? winner.interface = some link ∧ link.up = true ∧
        e.channel.kernel.managed start.model.table family ≠ [] ∧
        ∀ route ∈ e.channel.kernel.managed start.model.table family,
          route.forwardsVia winner.gateway (some link.index) = true := by
  obtain ⟨-, -, -, link, named, up⟩ := Model.usable_of_mem_evaluate chosen
  have oif :
      Reconciler.winnerOif start.model (start.evaluate family) = some link.index := by
    rw [Reconciler.winnerOif_of_winner _ chosen, named, Option.map_some]
  refine ⟨link, named, up, settled.suits.served winner chosen, ?_⟩
  rw [← oif]
  exact settled.suits.only winner chosen

namespace Aligned

theorem evaluate_eq (aligned : Aligned start e) (family : Family) :
    e.evaluate family = start.evaluate family := by
  rw [evaluate, evaluate, aligned.model.evaluate_eq, aligned.policy, aligned.options]

theorem tidy (aligned : Aligned start e) : e.model.Tidy := fun family route known =>
  (List.mem_filter.1 (((aligned.inStep family).mirrors route).1 known)).2

/-- A turn settles its family, and leaves the other one as it was. -/
theorem outcome
    (turn : Turn Session) (aligned : Aligned start turn.engine) :
    ∃ report after,
      turn.outcome = (.ok report, after) ∧ Aligned start after ∧
        after.model.InheritsFrom turn.engine.model ∧ Settled start after turn.family ∧
        (∀ other, Settled start turn.engine other → Settled start after other) ∧
        ∀ other, other ≠ turn.family →
          after.channel.kernel.managed start.model.table other =
            turn.engine.channel.kernel.managed start.model.table other := by
  have inStep : turn.engine.model.InStep turn.engine.channel.kernel turn.decision.family :=
    aligned.inStep turn.family
  obtain ⟨report, t, ended, faultFree, abreast, inherits, reconciler, suits⟩ :=
    Reconciler.settles_reconcile (t := turn.engine.toManaged) aligned.faultFree aligned.sameTable
      inStep fun winner chosen => (Model.usable_of_mem_evaluate chosen).2.1
  have same := Reconciler.sameButDefaults_reconcile (t := turn.engine.toManaged) aligned.tidy
    turn.decision
  rw [ended] at same
  have decision : turn.decision = start.evaluate turn.family := aligned.evaluate_eq turn.family
  have sameOther (other : Family) (apart : other ≠ turn.family) :
      t.channel.kernel.managed start.model.table other =
        turn.engine.channel.kernel.managed start.model.table other :=
    Kernel.managed_eq_of_foreign_eq apart (aligned.model.table_eq ▸ abreast.foreign)
  have settled :
      Settled start
        { turn.engine with
          toManaged := t
          decisions := turn.engine.decisions.set turn.family turn.decision } turn.family := by
    refine ⟨?_, ?_, ?_⟩
    · exact (PerFamily.get_set_self ..).trans decision
    · rw [reconciler]
      exact PerFamily.get_set_self ..
    · rw [← decision, ← aligned.model.table_eq, ← aligned.model.winnerOif_eq]
      exact suits
  refine ⟨report, _, Turn.outcome_of_reconcile ended, ?_, inherits, settled,
    fun other before => ?_, sameOther⟩
  · refine ⟨faultFree, ?_, fun family => ?_, aligned.model.trans same, aligned.policy,
      aligned.options⟩
    · rw [reconciler, abreast.table]
      exact aligned.sameTable
    · by_cases same : family = turn.family
      · subst same
        exact abreast.inStep
      · exact abreast.inStep_of_ne same (aligned.inStep family)
  · by_cases same : other = turn.family
    · subst same
      exact settled
    · refine ⟨?_, ?_, ?_⟩
      · exact (PerFamily.get_set_of_ne _ same _).trans before.decided
      · rw [reconciler]
        exact (PerFamily.get_set_of_ne _ same _).trans before.calm
      · rw [sameOther other same]
        exact before.suits

/-- When some families have had their turns, they are settled. -/
theorem reevaluate
    (families : List Family) (aligned : Aligned start e) :
    ∃ reports after,
      (reevaluate families).runFrom e = (.ok reports, after) ∧ Aligned start after ∧
        after.model.InheritsFrom e.model ∧
        ∀ family, family ∈ families ∨ Settled start e family → Settled start after family := by
  induction families generalizing e with
  | nil => exact ⟨[], e, rfl, aligned, .refl e.model, by simp⟩
  | cons family rest inductionHypothesis =>
      obtain ⟨report, t, turned, alignedThen, inherits, settled, kept, -⟩ :=
        outcome ⟨family, e⟩ aligned
      obtain ⟨reports, after, ended, alignedAfter, inheritsAfter, settledAfter⟩ :=
        inductionHypothesis alignedThen
      refine ⟨report :: reports, after, ?_, alignedAfter, inheritsAfter.trans inherits,
        fun other due => ?_⟩
      · rw [runFrom_reevaluate_cons, turned]
        exact Step.runFrom_bind_of_ok ended
      · rcases due with listed | before
        · rcases List.mem_cons.1 listed with rfl | later
          · exact settledAfter other (.inr settled)
          · exact settledAfter other (.inl later)
        · exact settledAfter other (.inr (kept other before))

end Aligned

/-- Events that leave the model in step with the kernel as it is by now are handled, and the
families that they concern are settled on what they tell. -/
theorem settled_handleEvents
    {events : List Event} {told : Model} {concerned : List Family}
    (applied : applyEvents e.model events = (told, concerned))
    (faultFree : e.channel.FaultFree) (sameTable : e.reconciler.table = e.model.table)
    (inStep : ∀ family, told.InStep e.channel.kernel family) :
    ∃ reports after,
      (handleEvents events).runFrom e = (.ok reports, after) ∧
        Aligned { e with model := told } after ∧
        ∀ family ∈ concerned, Settled { e with model := told } after family := by
  have table : told.table = e.model.table := by
    have updated := (applyEvents_spec e.model events).1
    rw [applied] at updated
    exact updated.table
  have aligned : Aligned { e with model := told } { e with model := told } :=
    { faultFree := faultFree
      sameTable := sameTable.trans table.symm
      inStep := inStep
      model := .refl told
      policy := rfl
      options := rfl }
  obtain ⟨reports, after, ended, alignedAfter, -, settled⟩ :=
    aligned.reevaluate (Family.all.filter concerned.contains)
  refine ⟨reports, after, ?_, alignedAfter, fun family listed => settled family (.inl ?_)⟩
  · rw [handleEvents, Step.runFrom_bind_of_ok (runFrom_changeModel _ e), applied]
    exact ended
  · exact List.mem_filter.2 ⟨Family.mem_all family, by simpa using listed⟩

end Engine

end DefaultGateway
