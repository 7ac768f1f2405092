import DefaultGateway.Proofs.Turns

/-!
# What is asked of the kernel

An engine touches nothing but the default routes of the table it was set up for. Whatever the
channel answers and the events report, each change that it asks for in a family's turn is to such a
route of that family: a new one leads through the gateway of a candidate that is registered,
enabled and on an interface that is up, and one to be deleted was known when the turn came.
-/

namespace DefaultGateway

open Kernel (Request)

variable {σ α : Type}

namespace Reconciler

/-! ## What a plan asks for -/

/-- A plan asks for a new route only first, and for the one that the winner calls for; what it asks
to delete is there. -/
theorem requests_planned [RouteChannel σ] (t : Managed σ) (decision : Decision) :
    (∀ i route,
      (planned t decision).requests[i]? = some (.add route) ∨
          (planned t decision).requests[i]? = some (.replace route) →
        i = 0 ∧ ∃ winner, decision.winner = some winner ∧
          route = t.reconciler.target winner (winnerOif t.model decision)) ∧
      ∀ route, Request.delete route ∈ (planned t decision).requests →
        route ∈ t.model.defaultRoutes decision.family := by
  have onlyDeletions (routes : List Route) (i : Nat) (route : Route)
      (asked :
        (routes.map Request.delete)[i]? = some (.add route) ∨
          (routes.map Request.delete)[i]? = some (.replace route)) : False := by
    rcases asked with asked | asked
    · obtain ⟨other, _, same⟩ := List.mem_map.1 (List.mem_of_getElem? asked)
      cases same
    · obtain ⟨other, _, same⟩ := List.mem_map.1 (List.mem_of_getElem? asked)
      cases same
  have shape := planCase_planned t decision
  generalize planned t decision = action at shape ⊢
  cases shape with
  | absent => simp [Action.requests]
  | inPlace => simp [Action.requests]
  | unwanted =>
      refine ⟨fun i route asked => (onlyDeletions _ i route asked).elim, fun route asked => ?_⟩
      simpa [Action.requests] using asked
  | strays =>
      refine ⟨fun i route asked => (onlyDeletions _ i route asked).elim, fun route asked => ?_⟩
      obtain ⟨other, stray, same⟩ := List.mem_map.1 asked
      cases same
      exact (List.mem_filter.1 stray).1
  | first winner chosen =>
      refine ⟨fun i route asked => ?_, by simp [Action.requests]⟩
      cases i with
      | zero => exact ⟨rfl, winner, chosen, by simpa [Action.requests, eq_comm] using asked⟩
      | succ i => simp [Action.requests] at asked
  | foreign winner chosen =>
      refine ⟨fun i route asked => ?_, fun route asked => ?_⟩
      · cases i with
        | zero => exact ⟨rfl, winner, chosen, by simpa [Action.requests, eq_comm] using asked⟩
        | succ i =>
            simp only [Action.requests, List.getElem?_cons_succ] at asked
            exact (onlyDeletions _ i route asked).elim
      · rcases List.mem_cons.1 asked with same | listed
        · cases same
        · obtain ⟨other, left, same⟩ := List.mem_map.1 listed
          cases same
          exact List.mem_of_mem_eraseP left

end Reconciler

namespace Engine

/-- The engine manages the table, with the metric, that it was set up for, and knows nothing but
default routes of this table as the ones to manage. -/
structure SetUp (settings : EngineSettings) (e : Engine σ) : Prop where
  modelTable : e.model.table = settings.table
  table : e.reconciler.table = settings.table
  metric : e.reconciler.metric = settings.metric
  tidy : e.model.Tidy

variable {settings : EngineSettings}

theorem setUp_new (channel : σ) (settings : EngineSettings) (policy : Policy) :
    (new channel settings policy).SetUp settings where
  modelTable := rfl
  table := rfl
  metric := rfl
  tidy := Model.tidy_empty settings.table

theorem SetUp.updated
    {e : Engine σ} (setUp : e.SetUp settings) {m : Model}
    (updated : Model.UpdatesFacts e.model m) : SetUp settings { e with model := m } where
  modelTable := updated.table.trans setUp.modelTable
  table := setUp.table
  metric := setUp.metric
  tidy := updated.tidy setUp.tidy

variable [RouteChannel σ]

theorem keeps_setUp_prepare (task : Task) :
    Step.Keeps (SetUp (σ := σ) settings) task.prepare :=
  task.keeps_prepare
    (fun _ setUp => ⟨setUp.modelTable, setUp.table, setUp.metric, setUp.tidy⟩)
    (fun _ setUp => ⟨setUp.modelTable, setUp.table, setUp.metric, setUp.tidy⟩)
    (fun _ _ setUp updated => setUp.updated updated)
    (fun _ _ setUp => ⟨setUp.modelTable, setUp.table, setUp.metric, setUp.tidy⟩)
    (fun _ _ _ setUp => ⟨setUp.modelTable, setUp.table, setUp.metric, setUp.tidy⟩)
    (fun _ _ _ setUp => ⟨setUp.modelTable, setUp.table, setUp.metric, setUp.tidy⟩)
    (fun _ _ _ setUp => ⟨setUp.modelTable, setUp.table, setUp.metric, setUp.tidy⟩)
    (fun _ _ setUp => ⟨setUp.modelTable, setUp.table, setUp.metric, setUp.tidy⟩)

theorem SetUp.outcome
    {turn : Turn σ} (setUp : turn.engine.SetUp settings) : turn.outcome.2.SetUp settings := by
  have continues := Reconciler.continues_reconcile turn.engine.toManaged turn.decision
  exact
    ⟨continues.updated.table.trans setUp.modelTable, continues.table.trans setUp.table,
      continues.metric.trans setUp.metric, continues.updated.tidy setUp.tidy⟩

omit [RouteChannel σ] in
/-- The route that a turn's winner calls for is a default route of its family as it was set up to
be, through a candidate that can be used. -/
theorem SetUp.target
    {turn : Turn σ} (setUp : turn.engine.SetUp settings) {winner : Candidate}
    (chosen : turn.decision.winner = some winner) :
    let route := turn.engine.reconciler.target winner
      (Reconciler.winnerOif turn.engine.model turn.decision)
    route.destination.length = 0 ∧ route.family = turn.family ∧
      route.table = settings.table ∧
      route.metric = Route.storedMetric turn.family settings.metric ∧
      ∃ c ∈ turn.engine.model.candidates,
        c.family = turn.family ∧ route.gateway = some c.gateway ∧
          (∀ selector ∈ turn.engine.model.disabled, selector.accepts c = false) ∧
          ∃ link ∈ turn.engine.model.links,
            link.up = true ∧ link.name = some c.interface ∧ route.oif = some link.index := by
  intro route
  obtain ⟨known, ours, enabled, link, named, up⟩ := Model.usable_of_mem_evaluate chosen
  have listed : link ∈ turn.engine.model.links := List.mem_of_find?_eq_some named
  have itsName : link.name = some winner.interface := by
    simpa using List.find?_some named
  have oif :
      Reconciler.winnerOif turn.engine.model turn.decision = some link.index := by
    rw [Reconciler.winnerOif, chosen, Option.bind_some, named, Option.map_some]
  have unmatched : ∀ selector ∈ turn.engine.model.disabled, selector.accepts winner = false := by
    simpa [Model.isDisabled, KeyedSet.any, KeyedSet.mem_rows] using enabled
  have metric : route.metric = Route.storedMetric turn.family settings.metric := by
    rw [← ours, ← setUp.metric]
    rfl
  have family : route.family = turn.family :=
    (Route.family_defaultVia ..).trans ours
  exact
    ⟨rfl, family, setUp.table, metric, winner, known, ours, rfl, unmatched, link, listed, up,
      itsName, oif⟩

omit [RouteChannel σ] in
theorem SetUp.of_mem_defaultRoutes
    {e : Engine σ} (setUp : e.SetUp settings) {family : Family} {route : Route}
    (known : route ∈ e.model.defaultRoutes family) :
    route.destination.length = 0 ∧ route.family = family ∧ route.table = settings.table := by
  obtain ⟨isDefault, ours, inTable⟩ := Route.isManaged_iff.1 (setUp.tidy family route known)
  exact
    ⟨by simpa [Route.isDefault, Prefix.isDefault] using isDefault, ours,
      inTable.trans setUp.modelTable⟩

/-! ## The log of a run -/

def changes (e : Engine (Recorded σ)) : List Request :=
  e.channel.log.filter Request.changesRoutes

def Turn.requests (turn : Turn (Recorded σ)) : List Request :=
  turn.outcome.2.channel.log.drop turn.engine.channel.log.length

theorem Turn.log_outcome (turn : Turn (Recorded σ)) :
    turn.outcome.2.channel.log = turn.engine.channel.log ++ turn.requests ∧
      ∃ issued reread,
        turn.requests = issued ++ reread ∧
          issued <+:
            (Reconciler.planned turn.engine.toManaged turn.decision).requests ∧
          reread <+: [.dumpRoutes (some turn.family)] := by
  obtain ⟨issued, reread, first, read, logged⟩ :=
    Reconciler.log_reconcile (t := turn.engine.toManaged) turn.decision
  have ended : turn.outcome.2.channel.log = turn.engine.channel.log ++ (issued ++ reread) :=
    logged
  have requests : turn.requests = issued ++ reread := by
    rw [Turn.requests, ended, List.drop_left]
  exact ⟨ended.trans (by rw [requests]), issued, reread, requests, first, read⟩

/-- A preparation asks for no change. -/
theorem keeps_changes_prepare (requests : List Request) (task : Task) :
    Step.Keeps (fun e : Engine (Recorded σ) => e.changes = requests) task.prepare := by
  have asks {β : Type} (request : Request) (reads : request.changesRoutes = false)
      (step : Step σ β) :
      Step.Keeps (fun r : Recorded σ => r.log.filter Request.changesRoutes = requests)
        (Recorded.ask request step) := by
    intro r held
    have asked : ((Recorded.ask request step).runFrom r).2.log = r.log ++ [request] := rfl
    rw [asked, List.filter_append, held]
    simp [reads]
  have reads :
      Step.Keeps (fun r : Recorded σ => r.log.filter Request.changesRoutes = requests)
        RouteChannel.snapshot :=
    .bind (asks .dumpLinks rfl _) fun _ => .bind (asks .dumpAddresses rfl _) fun _ =>
      .bind (asks (.dumpRoutes none) rfl _) fun _ => .pure _
  have reopens := asks .reopen rfl (RouteChannel.reopen (σ := σ))
  exact
    task.keeps_prepare (fun e held => reads e.channel held)
      (fun e held => reopens e.channel held) (fun _ _ held _ => held) (fun _ _ held => held)
      (fun _ _ _ held => held) (fun _ _ _ held => held) (fun _ _ _ held => held)
      fun _ _ held => held

theorem Turn.changes_outcome (turn : Turn (Recorded σ)) :
    turn.outcome.2.changes =
      turn.engine.changes ++ turn.requests.filter Request.changesRoutes := by
  rw [changes, turn.log_outcome.1, List.filter_append, changes]

/-- The changes that a run asks for are those asked for in its turns. -/
theorem changes_run (e : Engine (Recorded σ)) (tasks : List Task) :
    (e.run tasks).changes =
      e.changes ++
        (e.turns tasks).flatMap fun turn => turn.requests.filter Request.changesRoutes :=
  accrued_run (P := fun past after => after.changes = past) keeps_changes_prepare
    (fun _ turn same => by rw [turn.changes_outcome, same]) tasks rfl

/-! ## Main result -/

/-- The changes a run asks for, of any channel and however its tasks end, are those asked for in
the turns of the families. In a turn, a new route is asked for with the first request at most. It
is a default route of the family in the table and with the metric that were set up, through the
gateway of a candidate of the family that is then registered and matched by no disabled selector,
and through the interface of its name, which is up. Only default routes of the family in the table
are deleted, and only such as were known when the turn came. -/
theorem changes_confined
    (channel : σ) (settings : EngineSettings) (policy : Policy) (tasks : List Task) :
    let start : Engine (Recorded σ) := new (.fresh channel) settings policy
    (start.run tasks).seen Recorded.channel = (new channel settings policy).run tasks ∧
      (start.run tasks).channel.log.filter Request.changesRoutes =
        ((start.turns tasks).flatMap fun turn => turn.requests.filter Request.changesRoutes) ∧
      ∀ turn ∈ start.turns tasks,
        (∀ i route,
          turn.requests[i]? = some (.add route) ∨
              turn.requests[i]? = some (.replace route) →
            i = 0 ∧ route.destination.length = 0 ∧ route.family = turn.family ∧
              route.table = settings.table ∧
              route.metric = Route.storedMetric turn.family settings.metric ∧
              ∃ c ∈ turn.engine.model.candidates,
                c.family = turn.family ∧ route.gateway = some c.gateway ∧
                  (∀ selector ∈ turn.engine.model.disabled, selector.accepts c = false) ∧
                  ∃ link ∈ turn.engine.model.links,
                    link.up = true ∧ link.name = some c.interface ∧
                      route.oif = some link.index) ∧
          ∀ route, Request.delete route ∈ turn.requests →
            route.destination.length = 0 ∧ route.family = turn.family ∧
              route.table = settings.table ∧
              route ∈ turn.engine.model.defaultRoutes turn.family := by
  intro start
  refine ⟨seen_run Recorded.follows start tasks, ?_, fun turn member => ?_⟩
  · have asked := changes_run start tasks
    simpa [changes, start, new, Recorded.fresh] using asked
  · have setUp : turn.engine.SetUp settings :=
      forall_turns keeps_setUp_prepare (fun _ setUp => setUp.outcome)
        (setUp_new (Recorded.fresh channel) settings policy) turn member
    obtain ⟨-, issued, reread, requests, first, read⟩ := turn.log_outcome
    obtain ⟨news, deletions⟩ := Reconciler.requests_planned turn.engine.toManaged turn.decision
    -- What is read again changes nothing, so a change that is asked for is one of the plan's.
    have ofPlan (request : Request) (changing : request.changesRoutes = true) (i : Nat)
        (asked : turn.requests[i]? = some request) :
        (Reconciler.planned turn.engine.toManaged turn.decision).requests[i]? =
          some request := by
      rw [requests] at asked
      rcases Nat.lt_or_ge i issued.length with early | late
      · rw [List.getElem?_append_left early] at asked
        obtain ⟨unissued, whole⟩ := first
        rwa [← whole, List.getElem?_append_left early]
      · rw [List.getElem?_append_right late] at asked
        have rereading := read.subset (List.mem_of_getElem? asked)
        rw [List.mem_singleton.1 rereading] at changing
        cases changing
    refine ⟨fun i route asked => ?_, fun route asked => ?_⟩
    · obtain ⟨atFirst, winner, chosen, rfl⟩ :=
        news i route (asked.imp (ofPlan (.add route) rfl i) (ofPlan (.replace route) rfl i))
      exact ⟨atFirst, setUp.target chosen⟩
    · obtain ⟨i, asked⟩ := List.getElem?_of_mem asked
      have known := deletions route (List.mem_of_getElem? (ofPlan (.delete route) rfl i asked))
      obtain ⟨isDefault, ours, inTable⟩ := setUp.of_mem_defaultRoutes known
      exact ⟨isDefault, ours, inTable, known⟩

/-- Whether a request replaces a route by one through the second uplink. -/
def movesToSecond : Request → Bool
  | .replace route => route.oif == some 3
  | _ => false

/-- When the second gateway is registered, the route is moved to its interface, which is up. -/
theorem changes_confined_failover :
    ∃ turn ∈ (new (.fresh twoUplinks) {} {} : Engine (Recorded Kernel.Session)).turns
        (failover.map .call),
      ∃ route, .replace route ∈ turn.requests ∧ route.family = turn.family ∧
        ∃ link ∈ turn.engine.model.links, link.up = true ∧ link.index = 3 := by
  have moved :
      ((new (.fresh twoUplinks) {} {} : Engine (Recorded Kernel.Session)).turns
        (failover.map .call)).any (fun turn => turn.requests.any movesToSecond) = true := by
    decide +kernel
  obtain ⟨turn, member, asks⟩ := List.any_eq_true.1 moved
  obtain ⟨request, asked, moves⟩ := List.any_eq_true.1 asks
  cases request with
  | replace route =>
      obtain ⟨-, -, confined⟩ := changes_confined twoUplinks {} {} (failover.map .call)
      obtain ⟨i, place⟩ := List.getElem?_of_mem asked
      obtain ⟨-, -, family, -, -, c, -, -, -, -, link, known, up, -, oif⟩ :=
        (confined turn member).1 i route (.inr place)
      have outgoing : route.oif = some 3 := by simpa [movesToSecond] using moves
      exact
        ⟨turn, member, route, asked, family, link, known, up,
          Option.some.inj (oif.symm.trans outgoing)⟩
  | _ => cases moves

end Engine

end DefaultGateway
