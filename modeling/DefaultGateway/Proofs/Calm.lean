import DefaultGateway.Proofs.Renumbering
import DefaultGateway.Proofs.Session
import DefaultGateway.Proofs.Sync

/-!
# Where nothing fails

As long as no failure awaits a request, all that a kernel held in memory can do is refuse one. A
refusal is settled by the reconciliation that meets it, so every turn comes to its end, and with it
whatever the engine is asked. A sync of gateways that the registrar accepts registers them all.
-/

namespace DefaultGateway

open Kernel (Session)

variable {α β : Type}

namespace Step

variable {σ : Type}

/-- From a state with a property the step reaches one with it, and it fails at most in a certain
way. -/
def Within (P : σ → Prop) (failure : Error → Prop) (step : Step σ α) : Prop :=
  ∀ s, P s →
    match step.runFrom s with
    | (.ok _, t) => P t
    | (.error error, t) => P t ∧ failure error

namespace Within

variable {P : σ → Prop} {failure : Error → Prop}

theorem pure (a : α) : Within P failure (pure a : Step σ α) := fun _ held => held

theorem bind
    {step : Step σ α} {next : α → Step σ β} (first : Within P failure step)
    (rest : ∀ a, Within P failure (next a)) : Within P failure (step >>= next) := by
  intro s held
  have between := first s held
  rw [runFrom_bind]
  cases ended : step.runFrom s with
  | mk outcome t =>
      rw [ended] at between
      cases outcome with
      | ok a => exact rest a t between
      | error error => exact between

/-- A step that cannot fail in any way succeeds. -/
theorem succeeds
    {step : Step σ α} (within : Within P (fun _ => False) step) {s : σ} (held : P s) :
    ∃ a t, step.runFrom s = (.ok a, t) ∧ P t := by
  have after := within s held
  cases ended : step.runFrom s with
  | mk outcome t =>
      rw [ended] at after
      cases outcome with
      | ok a => exact ⟨a, t, rfl, after⟩
      | error error => exact after.2.elim

end Within

end Step

def Error.IsRefusal (error : Error) : Prop := error.kernelErrno?.isSome = true

/-- From a state with a property every request leads to one with it. What is to change something
fails only if the kernel refuses it, and a reading at most in a certain way. -/
structure RouteChannel.Connected
    {σ : Type} [RouteChannel σ] (P : σ → Prop) (failure : Error → Prop) : Prop where
  add : ∀ route, Step.Within P Error.IsRefusal (RouteChannel.addRoute route : Step σ Unit)
  replace :
    ∀ route, Step.Within P Error.IsRefusal (RouteChannel.replaceRoute route : Step σ Unit)
  delete : ∀ route, Step.Within P Error.IsRefusal (RouteChannel.deleteRoute route : Step σ Unit)
  read :
    ∀ family, Step.Within P failure (RouteChannel.dumpRoutes (some family) : Step σ (List Route))

/-- All that there is in a kernel. -/
def Kernel.snapshot (k : Kernel) : Snapshot := ⟨k.links, k.addresses, k.routes⟩

namespace Kernel.Session

/-! ## Requests -/

theorem FaultFree.within_mutate
    (request : Request) (operation : Operation) (change : Kernel → Except Errno Kernel) :
    Step.Within FaultFree Error.IsRefusal (mutate request operation change) := by
  intro s faultFree
  have later : (s.afterMutation request).FaultFree :=
    ⟨fun fault member => faultFree.mutations fault (List.mem_of_mem_tail member),
      faultFree.dumps⟩
  rw [runFrom_mutate, join_head?_eq_none faultFree.mutations]
  cases change s.kernel with
  | ok kernel => exact ⟨later.mutations, later.dumps⟩
  | error errno => exact ⟨later, rfl⟩

theorem FaultFree.dump_eq
    {s : Session} (faultFree : s.FaultFree) (request : Request) (answer : Kernel → α) :
    ∃ next, (dump request answer).runFrom s = (.ok (answer s.kernel), next) ∧
      next.kernel = s.kernel ∧ next.FaultFree := by
  rw [runFrom_dump, join_head?_eq_none faultFree.dumps]
  exact
    ⟨_, rfl, rfl, faultFree.mutations,
      fun fault member => faultFree.dumps fault (List.mem_of_mem_tail member)⟩

theorem FaultFree.snapshot_eq {s : Session} (faultFree : s.FaultFree) :
    ∃ next, RouteChannel.snapshot.runFrom s = (.ok s.kernel.snapshot, next) ∧
      next.kernel = s.kernel ∧ next.FaultFree := by
  obtain ⟨t, links, sameLinks, afterLinks⟩ := faultFree.dump_eq .dumpLinks Kernel.links
  obtain ⟨u, addresses, sameAddresses, afterAddresses⟩ :=
    afterLinks.dump_eq .dumpAddresses Kernel.addresses
  obtain ⟨v, routes, sameRoutes, afterRoutes⟩ :=
    afterAddresses.dump_eq (.dumpRoutes none) (·.routesOf none)
  refine ⟨v, ?_, sameRoutes.trans (sameAddresses.trans sameLinks), afterRoutes⟩
  rw [sameLinks] at addresses
  rw [sameAddresses, sameLinks] at routes
  exact
    (Step.runFrom_bind_of_ok links).trans <|
      (Step.runFrom_bind_of_ok addresses).trans (Step.runFrom_bind_of_ok routes)

theorem FaultFree.connected : RouteChannel.Connected FaultFree fun _ => False where
  add _ := within_mutate _ _ _
  replace _ := within_mutate _ _ _
  delete _ := within_mutate _ _ _
  read family s faultFree := by
    obtain ⟨next, read, -, later⟩ :=
      faultFree.dump_eq (.dumpRoutes (some family)) (·.routesOf (some family))
    simp only [RouteChannel.dumpRoutes, read]
    exact later

end Kernel.Session

/-! ## Reconciliations -/

section Connected

open Reconciler

variable {σ : Type} [RouteChannel σ] {P : σ → Prop} {failure : Error → Prop}

omit [RouteChannel σ] in
theorem Managed.within_submit
    {request : Step σ Unit} (within : Step.Within P failure request) (record : Model → Model) :
    Step.Within (fun t : Managed σ => P t.channel) failure (Managed.submit request record) := by
  intro t held
  have later := within t.channel held
  rw [Managed.runFrom_submit]
  cases ended : request.runFrom t.channel with
  | mk outcome channel =>
      rw [ended] at later
      cases outcome with
      | ok _ => exact later
      | error error => exact later

namespace RouteChannel.Connected

variable (connected : Connected P failure)

include connected

theorem within_withdrawAll (routes : List Route) :
    Step.Within (fun t : Managed σ => P t.channel) Error.IsRefusal (withdrawAll routes) := by
  induction routes with
  | nil => exact .pure ()
  | cons route rest inductionHypothesis =>
      rw [withdrawAll_cons]
      exact .bind (Managed.within_submit (connected.delete _) _) fun _ => inductionHypothesis

theorem within_execute (action : Action) :
    Step.Within (fun t : Managed σ => P t.channel) Error.IsRefusal (execute action) := by
  cases action with
  | noOp => exact .pure ()
  | install route => exact Managed.within_submit (connected.add _) _
  | replace old route =>
      rw [execute_replace]
      exact .bind (Managed.within_submit (connected.replace _) _) fun _ =>
        connected.within_withdrawAll _
  | withdraw routes => exact connected.within_withdrawAll routes

/-- A refusal is settled, if need be by reading the routes again. -/
theorem within_settleFailure
    (family : Family) (action : Action) {error : Error} (refused : error.IsRefusal) :
    Step.Within (fun t : Managed σ => P t.channel) failure
      (settleFailure family action error) := by
  obtain ⟨errno, known⟩ := Option.isSome_iff_exists.1 refused
  simp only [settleFailure, known]
  split
  · rw [resynced_eq]
    refine .bind (fun t held => ?_) fun _ => .pure _
    have later := connected.read family t.channel held
    rw [runFrom_reread]
    cases ended : (RouteChannel.dumpRoutes (some family)).runFrom t.channel with
    | mk outcome channel =>
        rw [ended] at later
        cases outcome with
        | ok _ => exact later
        | error error => exact later
  · exact .bind (fun t held => held) fun _ => .pure _

/-- Where no connection is lost, a reconciliation fails at most in reading the routes again. -/
theorem within_reconcile (decision : Decision) :
    Step.Within (fun t : Managed σ => P t.channel) failure (reconcile decision) := by
  intro t held
  have later := connected.within_execute (planned t decision) t held
  rw [runFrom_reconcile]
  by_cases idle : (planned t decision).isNoOp = true
  · rw [if_pos idle]
    exact held
  · rw [if_neg idle]
    cases ended : (execute (planned t decision)).runFrom t with
    | mk outcome u =>
        rw [ended] at later
        cases outcome with
        | ok _ => exact later
        | error error =>
            exact
              (connected.within_settleFailure decision.family (planned t decision) later.2).bind
                (fun _ => .pure _) u later.1

end RouteChannel.Connected

end Connected

namespace Reconciler

/-- No failure awaits a request to the channel. -/
def FaultFree (t : Managed Session) : Prop := t.channel.FaultFree

/-- Where nothing fails, a reconciliation comes to its end. -/
theorem within_reconcile (decision : Decision) :
    Step.Within FaultFree (fun _ => False) (reconcile decision) :=
  Session.FaultFree.connected.within_reconcile decision

end Reconciler

namespace Engine

/-! ## Calls to the engine -/

/-- Nothing is to fail from here on, and since the start only the default routes, the candidates and
the disabled selectors may have changed of what a decision rests on. -/
structure Calm (start e : Engine Session) : Prop where
  faultFree : e.channel.FaultFree
  scene : Model.SameScene start.model e.model
  policy : e.policy = start.policy
  options : e.options = start.options

variable {start e after : Engine Session}

theorem Calm.trans (first : Calm start e) (second : Calm e after) : Calm start after where
  faultFree := second.faultFree
  scene := first.scene.trans second.scene
  policy := second.policy.trans first.policy
  options := second.options.trans first.options

theorem Calm.refl (faultFree : e.channel.FaultFree) : Calm e e :=
  ⟨faultFree, .of_eq rfl rfl rfl, rfl, rfl⟩

/-- It makes no difference if candidates or selectors have been changed before the start. -/
theorem Calm.of_registry
    (calm : Calm start after) (scene : Model.SameScene e.model start.model)
    (policy : start.policy = e.policy) (options : start.options = e.options) : Calm e after where
  faultFree := calm.faultFree
  scene := scene.trans calm.scene
  policy := calm.policy.trans policy
  options := calm.options.trans options

theorem Turn.calm_outcome
    (turn : Turn Session) (faultFree : turn.engine.channel.FaultFree)
    (tidy : turn.engine.model.Tidy) :
    ∃ report after, turn.outcome = (.ok report, after) ∧ Calm turn.engine after ∧
      after.model.Tidy := by
  obtain ⟨report, t, ended, later⟩ :=
    (Reconciler.within_reconcile turn.decision).succeeds (s := turn.engine.toManaged) faultFree
  have undisturbed : Model.Undisturbed turn.engine.model t.model := by
    have reconciled :
        Model.Undisturbed turn.engine.model
          ((Reconciler.reconcile turn.decision).runFrom turn.engine.toManaged).2.model :=
      Reconciler.undisturbed_reconcile fun route =>
        Reconciler.isDefault_of_mem_planned tidy turn.decision
    rwa [ended] at reconciled
  exact
    ⟨report, _, Turn.outcome_of_reconcile ended,
      ⟨later, .of_sameGround undisturbed.ground, rfl, rfl⟩, undisturbed.updated.tidy tidy⟩

theorem calm_reevaluate
    (families : List Family) (faultFree : e.channel.FaultFree) (tidy : e.model.Tidy) :
    ∃ reports after, (reevaluate families).runFrom e = (.ok reports, after) ∧ Calm e after := by
  induction families generalizing e with
  | nil => exact ⟨[], e, rfl, .refl faultFree⟩
  | cons family rest inductionHypothesis =>
      obtain ⟨report, t, turned, calm, tidyAfter⟩ :=
        Turn.calm_outcome ⟨family, e⟩ faultFree tidy
      obtain ⟨reports, after, ended, calmRest⟩ := inductionHypothesis calm.faultFree tidyAfter
      refine ⟨report :: reports, after, ?_, calm.trans calmRest⟩
      rw [runFrom_reevaluate_cons, turned]
      exact Step.runFrom_bind_of_ok ended

/-- The first reading of the kernel succeeds. -/
theorem calm_seed (faultFree : e.channel.FaultFree) (coherent : e.Coherent) :
    ∃ reports after, seed.runFrom e = (.ok reports, after) ∧
      Calm { e with model := (e.model.replaceFacts e.channel.kernel.snapshot).1 } after ∧
      after.Coherent := by
  obtain ⟨channel, read, -, later⟩ := Session.FaultFree.snapshot_eq faultFree
  have tidy : (e.model.replaceFacts e.channel.kernel.snapshot).1.Tidy :=
    (Model.updatesFacts_replaceFacts _ _).tidy coherent.tidy
  obtain ⟨reports, after, ended, calm⟩ :=
    calm_reevaluate (e := { e with
      channel := channel, model := (e.model.replaceFacts e.channel.kernel.snapshot).1 })
      Family.all later tidy
  have whole : seed.runFrom e = (.ok reports, after) := (runFrom_resync read).trans ended
  exact
    ⟨reports, after, whole, ⟨calm.faultFree, calm.scene, calm.policy, calm.options⟩,
      coherent_of_resync coherent whole⟩

theorem calm_putCandidate
    {key : Candidate.Key} {gateway : Address} {source : Option Address}
    (faultFree : e.channel.FaultFree) (coherent : e.Coherent)
    (accepted : Registration.fault? key.family key.interface gateway source = none) :
    ∃ registration after, (putCandidate key gateway source).runFrom e = (.ok registration, after) ∧
      Calm e after ∧ after.Coherent := by
  obtain ⟨reports, after, ended, calm⟩ :=
    calm_reevaluate (e := e.entered (e.freshCandidate key gateway source)) [key.family] faultFree
      coherent.tidy
  have whole :
      (putCandidate key gateway source).runFrom e = (.ok ⟨key, e.lastVersion + 1⟩, after) := by
    rw [runFrom_putCandidate]
    exact Step.runFrom_bind_of_ok ended
  exact
    ⟨_, after, whole, calm.of_registry (.of_eq rfl rfl rfl) rfl rfl,
      coherent_of_putCandidate coherent accepted whole⟩

theorem calm_register
    {key : Candidate.Key} {gateway : Address} {source : Option Address}
    (faultFree : e.channel.FaultFree) (coherent : e.Coherent)
    (accepted : Registration.fault? key.family key.interface gateway source = none) :
    ∃ registration after, (register key gateway source).runFrom e = (.ok registration, after) ∧
      Calm e after ∧ after.Coherent := by
  rw [register, accepted]
  exact calm_putCandidate faultFree coherent accepted

theorem calm_update
    {registration : Registration} {gateway : Address} {source : Option Address}
    (faultFree : e.channel.FaultFree) (coherent : e.Coherent)
    (accepted :
      Registration.fault? registration.key.family registration.key.interface gateway source =
        none)
    (live : (e.model.candidate? registration.key).isSome = true) :
    ∃ renewed after, (update registration gateway source).runFrom e = (.ok renewed, after) ∧
      Calm e after ∧ after.Coherent := by
  rw [runFrom_update_of_live registration accepted live]
  exact calm_putCandidate faultFree coherent accepted

theorem calm_withdraw
    (registration : Registration) (faultFree : e.channel.FaultFree) (coherent : e.Coherent) :
    ∃ outcome after, (withdraw registration).runFrom e = (outcome, after) ∧
      (outcome = .ok () ∨ ∃ key, outcome = .error (.unknownRegistration key)) ∧
      Calm e after ∧ after.Coherent := by
  by_cases gone : (e.model.candidate? registration.key).isNone = true
  -- That the candidate is gone already is an answer too, and leaves the engine as it was.
  · refine
      ⟨.error (.unknownRegistration (toString registration.key)), e, ?_, .inr ⟨_, rfl⟩,
        .refl faultFree, coherent⟩
    rw [withdraw, Step.runFrom_bind_of_ok (Step.runFrom_get e), if_pos gone]
    rfl
  · obtain ⟨reports, after, ended, calm⟩ :=
      calm_reevaluate (e := { e with model := (e.model.withdraw registration.key).1 })
        [registration.key.family] faultFree coherent.tidy
    have withdrawn :
        (withdrawCandidate registration.key).runFrom e =
          (.ok ((e.model.withdraw registration.key).2, reports), after) := by
      rw [withdrawCandidate, Step.runFrom_bind_of_ok (runFrom_changeModel _ e),
        Step.runFrom_bind_of_ok ended]
      rfl
    refine ⟨_, after, ?_, .inl rfl, calm.of_registry (.of_eq rfl rfl rfl) rfl rfl,
      coherent_of_withdrawCandidate coherent withdrawn⟩
    rw [runFrom_withdraw_of_live registration (by simpa [Option.isSome_iff_ne_none] using gone),
      Step.runFrom_bind_of_ok withdrawn]
    rfl

theorem calm_setDisabled
    (disabled : SortedSet Selector) (faultFree : e.channel.FaultFree) (coherent : e.Coherent) :
    ∃ reports after, (setDisabled disabled).runFrom e = (.ok reports, after) ∧
      Calm e after ∧ after.Coherent := by
  obtain ⟨reports, after, ended, calm⟩ :=
    calm_reevaluate (e := { e with model := (e.model.setDisabled disabled).1 })
      (if (e.model.setDisabled disabled).2 then Family.all else []) faultFree coherent.tidy
  rw [← runFrom_setDisabled] at ended
  exact
    ⟨reports, after, ended, calm.of_registry (.of_eq rfl rfl rfl) rfl rfl,
      coherent_of_setDisabled coherent ended⟩

end Engine

/-- Whether the registrar accepts a gateway. -/
def StoredGateway.Accepted (g : StoredGateway) : Prop :=
  Registration.fault? g.family g.link g.address g.source = none

instance : DecidablePred StoredGateway.Accepted := fun g =>
  inferInstanceAs (Decidable (Registration.fault? g.family g.link g.address g.source = none))

namespace Synced

/-! ## Syncs -/

/-- A sync can count on the engine, and on what is remembered of the engine. -/
structure Ready (start : Engine Session) (s : Synced Session) : Prop where
  calm : start.Calm s.engine
  coherent : s.engine.Coherent
  faithful : s.Faithful

variable {start : Engine Session} {s : Synced Session}

theorem Ready.admission
    (ready : s.Ready start) {g : StoredGateway} (accepted : g.Accepted) :
    ∃ registration after, (s.admission g).runFrom s.engine = (.ok registration, after) ∧
      s.engine.Calm after ∧ after.Coherent := by
  rw [Synced.admission]
  cases known : s.applied.find? g.key with
  | none => exact Engine.calm_register ready.calm.faultFree ready.coherent accepted
  | some a =>
      obtain ⟨member, sameKey⟩ := KeyedSet.find?_eq_some_iff_key_eq.1 known
      have registered : a.registration.key = g.key :=
        (ready.faithful.keyed a member).trans sameKey
      refine Engine.calm_update ready.calm.faultFree ready.coherent ?_ ?_
      · rw [registered]
        exact accepted
      · rw [registered, ready.faithful.candidates, known]
        rfl

theorem Ready.registerChanged
    (ready : s.Ready start) {g : StoredGateway} (accepted : g.Accepted) :
    ∃ counted t, (registerChanged g).runFrom s = (.ok counted, t) ∧ counted ≠ .rejected ∧
      t.Ready start := by
  obtain ⟨registration, after, admitted, calm, coherent⟩ := ready.admission accepted
  have ended := runFrom_registerChanged g s
  rw [admitted] at ended
  have counted :
      (if (s.applied.find? g.key).isSome then SyncSummary.Outcome.updated else .registered) ≠
        .rejected := by
    split <;> exact SyncSummary.Outcome.noConfusion
  rcases registerChanged_cases ready.faithful.keyed ended with ⟨takes, -⟩ | ⟨-, rejected⟩
  · exact
      ⟨_, _, ended, counted, ready.calm.trans calm, coherent, takes.faithful ready.faithful⟩
  · exact absurd (rejected _ rfl) counted

theorem Ready.withdrawVanished
    (ready : s.Ready start) {a : Applied} (keyed : a.registration.key = a.gateway.key) :
    ∃ counted t, (withdrawVanished a).runFrom s = (.ok counted, t) ∧ counted ≠ .rejected ∧
      t.Ready start := by
  obtain ⟨outcome, after, withdrawn, answer, calm, coherent⟩ :=
    Engine.calm_withdraw a.registration ready.calm.faultFree ready.coherent
  have ended :
      (Synced.withdrawVanished a).runFrom s =
        (.ok .withdrawn, ⟨after, s.applied.erase a.gateway.key⟩) := by
    have attempted :
        ((onEngine (Engine.withdraw a.registration)).attempt).runFrom
            { s with applied := s.applied.erase a.gateway.key } =
          (.ok outcome, ⟨after, s.applied.erase a.gateway.key⟩) := by
      rw [Step.runFrom_attempt, onEngine, Step.runFrom_on, withdrawn]
    rw [Synced.withdrawVanished, forget, Step.runFrom_bind_of_ok (Step.runFrom_modify _ s),
      Step.runFrom_bind_of_ok attempted]
    rcases answer with rfl | ⟨key, rfl⟩
    · rfl
    · rfl
  obtain ⟨clears, -⟩ := clears_withdrawVanished keyed ended
  exact
    ⟨_, _, ended, SyncSummary.Outcome.noConfusion, ready.calm.trans calm, coherent,
      clears.faithful ready.faithful⟩

theorem Ready.countAll
    {β : Type} {step : β → Step (Synced Session) SyncSummary.Outcome} {l : List β}
    (each :
      ∀ b ∈ l, ∀ s : Synced Session, s.Ready start →
        ∃ counted t, (step b).runFrom s = (.ok counted, t) ∧ counted ≠ .rejected ∧
          t.Ready start)
    (ready : s.Ready start) (summary : SyncSummary) :
    ∃ final t, (countAll step summary l).runFrom s = (.ok final, t) ∧
      final.rejected = summary.rejected ∧ t.Ready start := by
  induction l generalizing s summary with
  | nil => exact ⟨summary, s, rfl, rfl, ready⟩
  | cons b rest inductionHypothesis =>
      -- The state between is ready again, so the rest is in the same position as the whole.
      obtain ⟨first, others⟩ := List.forall_mem_cons.1 each
      obtain ⟨counted, t, done, accepted, readyThen⟩ := first s ready
      obtain ⟨final, u, ended, same, readyAfter⟩ :=
        inductionHypothesis others readyThen (summary.add counted)
      refine ⟨final, u, (Step.runFrom_bind_of_ok done).trans ended, same.trans ?_, readyAfter⟩
      cases counted with
      | registered => rfl
      | updated => rfl
      | withdrawn => rfl
      | rejected => exact absurd rfl accepted

/-- Where nothing fails, a sync of gateways that the registrar accepts succeeds and rejects none. -/
theorem Ready.apply
    (ready : s.Ready start) {store : Store} (accepted : ∀ g ∈ store.gateways, g.Accepted) :
    ∃ summary t, (apply store).runFrom s = (.ok summary, t) ∧ summary.rejected = 0 ∧
      t.Ready start := by
  have keyed : ∀ a ∈ s.vanished store, a.registration.key = a.gateway.key :=
    fun a member => ready.faithful.keyed a (mem_vanished.1 member).1
  obtain ⟨withdrawn, t, withdrawal, noneYet, readyThen⟩ :=
    ready.countAll (fun a member _ ready => ready.withdrawVanished (keyed a member)) {}
  have acceptedChanged : ∀ g ∈ t.changed store, g.Accepted :=
    fun g member => accepted g (mem_gateways_of_changed member)
  obtain ⟨registered, u, registration, noneStill, readyAfter⟩ :=
    readyThen.countAll
      (fun g member _ ready => ready.registerChanged (acceptedChanged g member)) withdrawn
  obtain ⟨reports, after, disabling, calm, coherent⟩ :=
    Engine.calm_setDisabled store.disabled readyAfter.calm.faultFree readyAfter.coherent
  obtain ⟨-, candidates, -, -⟩ := state_disabling store.disabled u
  have last :
      (onEngine (Engine.setDisabled store.disabled)).runFrom u =
        (.ok reports, { u with engine := after }) := by
    rw [onEngine, Step.runFrom_on, disabling]
  rw [last] at candidates
  have readyAtEnd : Ready start { u with engine := after } :=
    ⟨readyAfter.calm.trans calm, coherent, readyAfter.faithful.of_eq rfl candidates⟩
  refine ⟨registered, _, ?_, noneStill.trans noneYet, readyAtEnd⟩
  rw [Synced.apply, Step.runFrom_bind_of_ok (Step.runFrom_get s),
    Step.runFrom_bind_of_ok withdrawal, Step.runFrom_bind_of_ok (Step.runFrom_get t),
    Step.runFrom_bind_of_ok registration, Step.runFrom_bind_of_ok last]
  rfl

end Synced

end DefaultGateway
