import DefaultGateway.Proofs.Backstop
import DefaultGateway.Proofs.Continuity

/-!
# The courses of turns

What a watched channel goes through in the turns that an engine gives the families. Only the turn of
a family for which nobody can be chosen takes the last of its default routes away; where it had none
to begin with, no request leaves a family without a default route that it had before.
-/

namespace DefaultGateway

open Kernel (Session)

/-! ## Single requests -/

namespace Kernel.Session

variable {table : UInt32} {family other : Family} {s next : Session} {α : Type}

/-- From one session to the next a single request has been made. -/
def Asks (s next : Session) : Prop := ∃ request, next.requests = s.requests ++ [request]

/-- The request has not taken away the last default route of a family. -/
structure Holds (table : UInt32) (family : Family) (s next : Session) : Prop where
  asked : s.Asks next
  occupied : s.kernel.managed table family ≠ [] → next.kernel.managed table family ≠ []

/-- The request has touched nothing but default routes of a family. -/
structure Spares (table : UInt32) (family : Family) (s next : Session) : Prop where
  asked : s.Asks next
  foreign : next.kernel.foreign table family = s.kernel.foreign table family

theorem Spares.holds (spares : s.Spares table family next) (apart : other ≠ family) :
    s.Holds table other next where
  asked := spares.asked
  occupied something := by
    rwa [Kernel.managed_eq_of_foreign_eq apart spares.foreign]

/-- Where no request has taken away the last default route, none of a series has. -/
theorem Holds.pairwise
    {course : List Session} (holds : course.IsChain (Holds table family)) :
    course.Pairwise fun earlier later =>
      earlier.kernel.managed table family ≠ [] → later.kernel.managed table family ≠ [] := by
  let Lasts (s next : Session) : Prop :=
    s.kernel.managed table family ≠ [] → next.kernel.managed table family ≠ []
  let transitive : Trans Lasts Lasts Lasts :=
    ⟨fun first second something => second (first something)⟩
  exact List.isChain_iff_pairwise.1 (holds.imp fun _ _ each => each.occupied)

theorem asks_mutate
    (request : Request) (operation : Operation) (change : Kernel → Except Errno Kernel)
    (s : Session) : s.Asks ((mutate request operation change).runFrom s).2 :=
  ⟨request, requests_of_mutate request operation change s⟩

theorem asks_dump (request : Request) (answer : Kernel → α) (s : Session) :
    s.Asks ((dump request answer).runFrom s).2 := by
  rw [afterDump_of_dump]
  exact ⟨request, rfl⟩

theorem holds_dump (request : Request) (answer : Kernel → α) (s : Session) :
    s.Holds table family ((dump request answer).runFrom s).2 where
  asked := asks_dump request answer s
  occupied something := by
    rw [afterDump_of_dump]
    exact something

theorem spares_dump (request : Request) (answer : Kernel → α) (s : Session) :
    s.Spares table family ((dump request answer).runFrom s).2 where
  asked := asks_dump request answer s
  foreign := by rw [afterDump_of_dump, afterDump]

theorem spares_mutate
    {request : Request} {operation : Operation} {change : Kernel → Except Errno Kernel}
    {s : Session}
    (granted :
      ∀ after, change s.kernel = .ok after →
        after.foreign table family = s.kernel.foreign table family) :
    s.Spares table family ((mutate request operation change).runFrom s).2 where
  asked := asks_mutate request operation change s
  foreign := by
    rcases mutate_cases request operation change s with
      ⟨error, after, failed, same⟩ | ⟨after, succeeded, changed⟩
    · rw [failed, same]
    · rw [succeeded]
      exact granted after.kernel changed

end Kernel.Session

namespace Reconciler

/-! ## Reconciliations -/

variable {t : Managed Session} {decision : Decision} {R : Session → Session → Prop}

/-- What every request that is planned does to the channel, happens all along the course. -/
theorem proceeds_reconcile
    (adds :
      ∀ route ∈ (planned t decision).sent, ∀ s : Session,
        R s ((RouteChannel.addRoute route).runFrom s).2)
    (replaces :
      ∀ route ∈ (planned t decision).sent, ∀ s : Session,
        R s ((RouteChannel.replaceRoute route).runFrom s).2)
    (deletes :
      ∀ route ∈ (planned t decision).sent, ∀ s : Session,
        R s ((RouteChannel.deleteRoute route).runFrom s).2)
    (reads :
      ∀ s : Session, R s ((RouteChannel.dumpRoutes (some decision.family)).runFrom s).2) :
    ((reconcile decision).runFrom t.watched).2.channel.Proceeds R t.channel := by
  let Proceeding (u : Managed (Watched Session)) : Prop := u.channel.Proceeds R t.channel
  have submits {request : Step Session Unit} {record : Model → Model}
      (each : ∀ s : Session, R s (request.runFrom s).2) :
      Step.Keeps Proceeding (Managed.submit (Watched.ask request) record) := by
    intro u proceeds
    change Watched.Proceeds R t.channel _
    rw [Managed.channel_of_submit]
    exact proceeds.ask (each u.channel.channel)
  have executes : Step.Keeps Proceeding (execute (planned t decision)) :=
    keeps_execute (fun route member => submits (adds route member))
      (fun route member => submits (replaces route member))
      fun route member => submits (deletes route member)
  refine
    reconcile_keeps (P := Proceeding) (executes t.watched (Watched.proceeds_fresh R t.channel))
      (fun u proceeds => ?_) fun _ _ proceeds => proceeds
  change Watched.Proceeds R t.channel _
  rw [channel_of_reread]
  exact proceeds.ask (reads u.channel.channel)

theorem asks_reconcile (t : Managed Session) (decision : Decision) :
    ((reconcile decision).runFrom t.watched).2.channel.Proceeds Session.Asks t.channel :=
  proceeds_reconcile (fun _ _ => Session.asks_mutate _ _ _) (fun _ _ => Session.asks_mutate _ _ _)
    (fun _ _ => Session.asks_mutate _ _ _) (Session.asks_dump _ _)

theorem spares_reconcile
    (sameTable : t.reconciler.table = t.model.table)
    (inStep : t.model.InStep t.channel.kernel decision.family)
    (winnerFamily : ∀ winner ∈ decision.winner, winner.family = decision.family) :
    ((reconcile decision).runFrom t.watched).2.channel.Proceeds
      (Session.Spares t.model.table decision.family) t.channel := by
  have standard (route : Route) (member : route ∈ (planned t decision).sent) :=
    standard_of_mem_planned sameTable inStep winnerFamily member
  refine proceeds_reconcile (fun route member s => ?_) (fun route member s => ?_)
    (fun route member s => ?_) (Session.spares_dump _ _)
  · refine Session.spares_mutate fun after granted => ?_
    obtain ⟨-, rfl⟩ := (Kernel.add_eq_ok_iff (standard route member)).1 granted
    exact Kernel.foreign_replace (standard route member)
  · refine Session.spares_mutate fun after granted => ?_
    cases granted
    exact Kernel.foreign_replace (standard route member)
  · exact Session.spares_mutate fun after granted =>
      Kernel.foreign_delete (standard route member) granted

/-- A family that has a default route keeps one unless it is the one decided for, and nobody has
been chosen. -/
theorem holds_reconcile
    (sameTable : t.reconciler.table = t.model.table)
    (inStep : t.model.InStep t.channel.kernel decision.family)
    (winnerFamily : ∀ winner ∈ decision.winner, winner.family = decision.family)
    {family : Family}
    (cleared :
      decision.family = family → decision.winner = none →
        t.channel.kernel.managed t.model.table family = []) :
    ((reconcile decision).runFrom t.watched).2.channel.Proceeds
      (Session.Holds t.model.table family) t.channel := by
  by_cases same : decision.family = family
  · subst same
    cases chosen : decision.winner with
    | some winner =>
        have sustained :=
          reconcile_keeps (sustained_execute_planned chosen sameTable inStep winnerFamily)
            keeps_sustained_reread fun _ _ held => held
        exact Watched.Proceeds.imp sustained fun _ _ advances =>
          ⟨advances.asked, advances.sustains.occupied⟩
    | none =>
        have nothing : t.model.defaultRoutes decision.family = [] := by
          refine List.eq_nil_iff_forall_not_mem.2 fun route known => ?_
          have there := (inStep.mirrors route).1 known
          rw [cleared rfl chosen] at there
          cases there
        have idle : planned t decision = .noOp := by
          simp [planned, plan, chosen, nothing]
        refine proceeds_reconcile ?_ ?_ ?_ (Session.holds_dump _ _)
        all_goals
          intro route member
          rw [idle] at member
          cases member
  · exact (spares_reconcile sameTable inStep winnerFamily).imp fun _ _ spares =>
      spares.holds fun other => same other.symm

end Reconciler

namespace Engine

/-! ## Turns -/

/-- The engine on the channel that is being watched. -/
def unwatched {σ : Type} (e : Engine (Watched σ)) : Engine σ := e.seen Watched.channel

/-- What a reconciliation does to a channel watched from then on, a turn does to one watched
before. -/
theorem leads_outcome
    {R : Session → Session → Prop} {turn : Turn (Watched Session)}
    (proceeds :
      ((Reconciler.reconcile turn.decision).runFrom
        turn.engine.unwatched.toManaged.watched).2.channel.Proceeds R
          turn.engine.channel.channel) :
    turn.engine.channel.Leads R turn.outcome.2.channel := by
  obtain ⟨family, e⟩ := turn
  have same : e = (e.unwatched.seen Watched.fresh).seen (Watched.onto e.channel.past) := by
    change e = { e with channel := (Watched.fresh e.channel.channel).onto e.channel.past }
    rw [Watched.onto_fresh]
  have moved :=
    follows_outcome (Watched.follows_onto e.channel.past) family (e.unwatched.seen Watched.fresh)
  rw [← same] at moved
  refine ⟨_, proceeds, ?_⟩
  rw [moved]
  rfl

theorem asks_outcome (turn : Turn (Watched Session)) :
    turn.engine.channel.Leads Session.Asks turn.outcome.2.channel :=
  leads_outcome (Reconciler.asks_reconcile turn.engine.unwatched.toManaged turn.decision)

/-- The requests of a task are made one after another. -/
theorem asks_reevaluate (families : List Family) (e : Engine (Watched Session)) :
    e.channel.Leads Session.Asks ((reevaluate families).runFrom e).2.channel :=
  (forall_turnsOf (P := fun after => e.channel.Leads Session.Asks after.channel)
    (fun turn leads => leads.trans (asks_outcome turn)) families (.refl e.channel)).2

theorem asks_resync (e : Engine (Watched Session)) :
    e.channel.Leads Session.Asks (resync.runFrom e).2.channel := by
  have reads :
      Step.Keeps (fun w : Watched Session => e.channel.Leads Session.Asks w)
        RouteChannel.snapshot :=
    .bind (fun _ leads => leads.ask (Session.asks_dump ..)) fun _ =>
      .bind (fun _ leads => leads.ask (Session.asks_dump ..)) fun _ =>
        .bind (fun _ leads => leads.ask (Session.asks_dump ..)) fun _ => .pure _
  have asks :
      Step.Keeps (fun after : Engine (Watched Session) => e.channel.Leads Session.Asks after.channel)
        resync :=
    .bind (fun after leads => reads after.channel leads) fun _ =>
      .bind (fun _ leads => leads) fun _ after leads =>
        leads.trans (asks_reevaluate Family.all after)
  exact asks e (.refl e.channel)

variable {start e : Engine Session} {family : Family}

/-- If there is nobody to be chosen for a family, it has no default route. -/
def Cleared (e : Engine Session) (family : Family) : Prop :=
  (e.evaluate family).winner = none → e.channel.kernel.managed e.model.table family = []

theorem Settled.cleared (settled : Settled start e family) (steady : Steady start e) :
    e.Cleared family := by
  intro nobody
  rw [steady.evaluate_eq] at nobody
  rw [steady.table_eq]
  exact settled.suits.cleared nobody

theorem Steady.self (steady : Steady start e) : Steady e e where
  faultFree := steady.faultFree
  sameTable := steady.sameTable
  rerouted := .refl steady.rerouted.anchored
  inStep := steady.inStep
  policy := rfl
  options := rfl

theorem Settled.self (settled : Settled start e family) (steady : Steady start e) :
    Settled e e family :=
  settled.of_sameButDefaults steady.aligned.model.symm steady.policy.symm steady.options.symm

/-- In a turn no family loses its last default route for which somebody could be chosen. -/
theorem Steady.holds_outcome
    (turn : Turn (Watched Session)) (steady : Steady start turn.engine.unwatched)
    (cleared : turn.engine.unwatched.Cleared family) :
    turn.engine.channel.Leads (Session.Holds start.model.table family)
        turn.outcome.2.channel ∧
      turn.outcome.2.unwatched.Cleared family := by
  have table := steady.table_eq
  constructor
  · refine leads_outcome ?_
    rw [← table]
    refine
      Reconciler.holds_reconcile (t := turn.engine.unwatched.toManaged) steady.sameTable
        (steady.inStep turn.family)
        (fun winner chosen => (Model.usable_of_mem_evaluate chosen).2.1) fun same nobody => ?_
    subst same
    exact cleared nobody
  · obtain ⟨report, after, outcome, steadyAfter, settled, -, others⟩ :=
      Steady.outcome ⟨turn.family, turn.engine.unwatched⟩ steady
    have seen := follows_outcome Watched.follows turn.family turn.engine
    have state : turn.outcome.2.unwatched = after :=
      congrArg Prod.snd (seen.symm.trans outcome)
    rw [state]
    by_cases ours : family = turn.family
    · subst ours
      exact settled.cleared steadyAfter
    · intro nobody
      rw [steadyAfter.evaluate_eq, ← steady.evaluate_eq] at nobody
      rw [steadyAfter.table_eq, others family ours, ← table]
      exact cleared nobody

theorem Steady.holds_reevaluate
    (families : List Family) {e : Engine (Watched Session)} (steady : Steady start e.unwatched)
    (cleared : e.unwatched.Cleared family) :
    e.channel.Leads (Session.Holds start.model.table family)
      ((Engine.reevaluate families).runFrom e).2.channel := by
  induction families generalizing e with
  | nil => exact .refl e.channel
  | cons next rest inductionHypothesis =>
      obtain ⟨leads, clearedThen⟩ := Steady.holds_outcome ⟨next, e⟩ steady cleared
      obtain ⟨report, after, outcome, steadyThen, -⟩ :=
        Steady.outcome ⟨next, e.unwatched⟩ steady
      rw [unwatched, follows_outcome Watched.follows] at outcome
      rw [state_reevaluate_cons]
      cases ended : (Turn.mk next e).outcome with
      | mk answer between =>
          rw [ended] at leads clearedThen outcome
          obtain ⟨rfl, rfl⟩ := Prod.mk.inj outcome
          exact leads.trans (inductionHypothesis steadyThen clearedThen)

/-- When some families have had their turns on a watched channel, these are settled, and so are
those that were; what would be decided is the same as before. -/
theorem Steady.settles_reevaluate
    (families : List Family) {e : Engine (Watched Session)}
    (steady : Steady e.unwatched e.unwatched) :
    ∃ reports after, (Engine.reevaluate families).runFrom e = (.ok reports, after) ∧
      Steady after.unwatched after.unwatched ∧ after.model.table = e.model.table ∧
      (∀ family, after.evaluate family = e.evaluate family) ∧
      (∀ family, family ∈ families ∨ Settled e.unwatched e.unwatched family →
        Settled after.unwatched after.unwatched family) ∧
      ∀ family, e.unwatched.Cleared family →
        e.channel.Leads (Session.Holds e.model.table family) after.channel := by
  obtain ⟨reports, seen, ended, steadyAfter, settled⟩ := steady.reevaluate families
  obtain ⟨after, reevaluated, rfl⟩ :=
    (follows_reevaluate Watched.follows families).of_ended (t := e) ended
  refine
    ⟨reports, after, reevaluated, steadyAfter.self, steadyAfter.table_eq,
      steadyAfter.evaluate_eq, fun family due => (settled family due).self steadyAfter,
      fun family cleared => ?_⟩
  have holds := steady.holds_reevaluate families cleared
  rwa [reevaluated] at holds

end Engine

end DefaultGateway
