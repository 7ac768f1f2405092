import DefaultGateway.Proofs.Confinement
import DefaultGateway.Proofs.Sync

/-!
# What a sync asks of the kernel

A sync calls on the engine to withdraw, to update and to register, and in the end to disable. The
selectors of the store are in force from that last call on; until then those are in force that the
engine had before. So a new route is asked for a gateway that the store disables only if the engine
did not disable it already.
-/

namespace DefaultGateway

open Kernel (Request)

variable {σ α β : Type}

namespace Engine

section Tasks

variable [RouteChannel σ]

theorem run_append (e : Engine σ) (tasks more : List Task) :
    e.run (tasks ++ more) = (e.run tasks).run more := by
  induction tasks generalizing e with
  | nil => rfl
  | cons task rest inductionHypothesis => exact inductionHypothesis _

theorem turns_append (e : Engine σ) (tasks more : List Task) :
    e.turns (tasks ++ more) = e.turns tasks ++ (e.run tasks).turns more := by
  induction tasks generalizing e with
  | nil => rfl
  | cons task rest inductionHypothesis =>
      rw [List.cons_append, turns, inductionHypothesis, ← List.append_assoc]
      rfl

/-- Registering and withdrawing leaves the disabled selectors alone. -/
theorem keeps_disabled_prepare
    {task : Task} (registers : task.registers = true) (disabled : SortedSet Selector) :
    Step.Keeps (fun e : Engine σ => e.model.disabled = disabled) task.prepare := by
  have enters (c : Candidate) :
      Step.Keeps (fun e : Engine σ => e.model.disabled = disabled) (enter c) :=
    .bind (fun _ same => same) fun _ => .bind (fun _ same => same) fun _ => .pure _
  have entersNext (key : Candidate.Key) (gateway : Address) (source : Option Address) :
      Step.Keeps (fun e : Engine σ => e.model.disabled = disabled)
        (enterNext key gateway source) :=
    .bind (fun _ same => same) fun _ => enters _
  have leaves (key : Candidate.Key) :
      Step.Keeps (fun e : Engine σ => e.model.disabled = disabled) (leave key) :=
    .bind (fun _ same => same) fun _ => .pure _
  cases task with
  | registerCandidate c => exact enters c
  | withdrawCandidate key => exact leaves key
  | reevaluate families => cases registers
  | nextVersion => cases registers
  | call ordinary =>
      cases ordinary with
      | register key gateway source =>
          simp only [Task.prepare, Call.prepare]
          split
          · exact .throw _
          · exact entersNext key gateway source
      | update registration gateway source =>
          simp only [Task.prepare, Call.prepare]
          split
          · exact .throw _
          · refine .bind (fun _ same => same) fun e => ?_
            split
            · exact .throw _
            · exact entersNext registration.key gateway source
      | withdraw registration =>
          refine .bind (fun _ same => same) fun e => ?_
          split
          · exact .throw _
          · exact leaves registration.key
      | _ => cases registers

/-- As long as candidates are registered and withdrawn, the same selectors are in force. -/
theorem disabled_turns
    {tasks : List Task} (registering : ∀ task ∈ tasks, task.registers = true) (e : Engine σ) :
    ∀ turn ∈ e.turns tasks, turn.engine.model.disabled = e.model.disabled := by
  induction tasks generalizing e with
  | nil => simp [turns]
  | cons task rest inductionHypothesis =>
      obtain ⟨first, others⟩ := List.forall_mem_cons.1 registering
      obtain ⟨now, after⟩ :=
        Task.forall_turns (keeps_disabled_prepare first e.model.disabled)
          (fun turn same => (sameRegistry_outcome turn).disabled.trans same) rfl
      intro turn member
      rcases List.mem_append.1 member with early | later
      · exact now turn early
      · exact (inductionHypothesis others _ turn later).trans after

/-- When selectors are being disabled, they are in force in every turn. -/
theorem disabled_turns_setDisabled (disabled : SortedSet Selector) (e : Engine σ) :
    ∀ turn ∈ (Task.call (.setDisabled disabled)).turns e,
      turn.engine.model.disabled = disabled := by
  have prepared :
      (Task.call (.setDisabled disabled)).prepare.runFrom e =
        (.ok (if (e.model.setDisabled disabled).2 then Family.all else []),
          { e with model := (e.model.setDisabled disabled).1 }) := by
    simp only [Task.prepare, Call.prepare]
    rw [Step.runFrom_bind_of_ok (runFrom_changeModel _ e)]
    split
    · rfl
    · rfl
  rw [Task.turns, prepared]
  exact
    (forall_turnsOf (fun turn same => (sameRegistry_outcome turn).disabled.trans same) _
      (P := fun e => e.model.disabled = disabled) rfl).1

end Tasks

/-- A new route is asked for only for the winner of the turn. -/
theorem Turn.winner_of_asked
    [RouteChannel σ] {turn : Turn (Recorded σ)} {route : Route}
    (asked : .add route ∈ turn.requests ∨ .replace route ∈ turn.requests) :
    ∃ winner ∈ turn.decision.winner,
      route = turn.engine.reconciler.target winner
        (Reconciler.winnerOif turn.engine.model turn.decision) := by
  obtain ⟨-, issued, reread, requests, first, read⟩ := turn.log_outcome
  have ofPlan (request : Request) (changing : request.changesRoutes = true)
      (asked : request ∈ turn.requests) :
      request ∈ (Reconciler.planned turn.engine.toManaged turn.decision).requests := by
    rw [requests] at asked
    rcases List.mem_append.1 asked with early | late
    · exact first.subset early
    · rw [List.mem_singleton.1 (read.subset late)] at changing
      cases changing
  obtain ⟨news, -⟩ := Reconciler.requests_planned turn.engine.toManaged turn.decision
  have planned :=
    asked.imp (ofPlan (.add route) rfl) (ofPlan (.replace route) rfl)
  rcases planned with listed | listed
  · obtain ⟨i, place⟩ := List.getElem?_of_mem listed
    exact (news i route (.inl place)).2
  · obtain ⟨i, place⟩ := List.getElem?_of_mem listed
    exact (news i route (.inr place)).2

end Engine

namespace Synced

open Engine (Task)

variable [RouteChannel σ]

/-! ## A sync as calls to the engine -/

/-- Whatever a step does to the engine, it does by registering and withdrawing. -/
def Registers (step : Step (Synced σ) α) : Prop :=
  ∀ s, ∃ tasks : List Task,
    (∀ task ∈ tasks, task.registers = true) ∧ (step.runFrom s).2.engine = s.engine.run tasks

theorem Registers.bind
    {step : Step (Synced σ) α} {next : α → Step (Synced σ) β}
    (first : Registers step) (rest : ∀ a, Registers (next a)) : Registers (step >>= next) := by
  intro s
  obtain ⟨tasks, registering, reached⟩ := first s
  rw [Step.runFrom_bind]
  cases ended : step.runFrom s with
  | mk outcome t =>
      rw [ended] at reached
      cases outcome with
      | error error => exact ⟨tasks, registering, reached⟩
      | ok a =>
          obtain ⟨more, registeringToo, last⟩ := rest a t
          refine ⟨tasks ++ more, ?_, ?_⟩
          · exact fun task member =>
              (List.mem_append.1 member).elim (registering task) (registeringToo task)
          · dsimp only at reached ⊢
            rw [last, reached, Engine.run_append]

theorem registers_pure (a : α) : Registers (pure a : Step (Synced σ) α) :=
  fun _ => ⟨[], by simp, rfl⟩

theorem registers_withdrawVanished (a : Applied) :
    Registers (withdrawVanished a : Step (Synced σ) SyncSummary.Outcome) := by
  refine fun s => ⟨[.call (.withdraw a.registration)], by simp [Task.registers], ?_⟩
  rw [withdrawVanished, forget, Step.runFrom_bind_of_ok (Step.runFrom_modify _ s),
    Step.runFrom_bind_of_ok (Step.runFrom_attempt _ _)]
  split
  · rfl
  · rfl
  · rfl

theorem registers_registerChanged (g : StoredGateway) :
    Registers (registerChanged g : Step (Synced σ) SyncSummary.Outcome) := by
  intro s
  have reached :
      ((registerChanged g).runFrom s).2.engine = ((s.admission g).runFrom s.engine).2 := by
    rw [runFrom_registerChanged]
    cases (s.admission g).runFrom s.engine with
    | mk outcome after =>
        cases outcome with
        | ok registration => rfl
        | error error => rfl
  rw [admission] at reached
  cases known : s.applied.find? g.key with
  | some a =>
      rw [known] at reached
      refine ⟨[.call (.update a.registration g.address g.source)], by simp [Task.registers], ?_⟩
      exact reached.trans (Step.state_bind_pure ..).symm
  | none =>
      rw [known] at reached
      refine ⟨[.call (.register g.key g.address g.source)], by simp [Task.registers], ?_⟩
      exact reached.trans (Step.state_bind_pure ..).symm

theorem registers_countAll
    {step : β → Step (Synced σ) SyncSummary.Outcome} (each : ∀ b, Registers (step b))
    (summary : SyncSummary) (l : List β) : Registers (countAll step summary l) := by
  induction l generalizing summary with
  | nil => exact registers_pure summary
  | cons b rest inductionHypothesis =>
      exact (each b).bind fun outcome => inductionHypothesis (summary.add outcome)

/-- A sync but for what is disabled in the end. -/
def carryOver (store : Store) : Step (Synced σ) SyncSummary := do
  let summary ← countAll withdrawVanished {} ((← get).vanished store)
  countAll registerChanged summary ((← get).changed store)

theorem apply_eq (store : Store) :
    (apply store : Step (Synced σ) SyncSummary) =
      carryOver store >>= fun summary => do
        let _ ← onEngine (Engine.setDisabled store.disabled)
        return summary := by
  simp only [apply, carryOver, bind_assoc]

theorem registers_carryOver (store : Store) :
    Registers (carryOver store : Step (Synced σ) SyncSummary) := by
  have looks : Registers (get : Step (Synced σ) (Synced σ)) := fun _ => ⟨[], by simp, rfl⟩
  refine looks.bind fun before => ?_
  refine (registers_countAll registers_withdrawVanished {} _).bind fun summary => ?_
  exact looks.bind fun between => registers_countAll registers_registerChanged summary _

/-- A sync registers and withdraws, and then disables unless it has failed before. -/
theorem run_of_apply (store : Store) (s : Synced σ) :
    ∃ tasks last : List Task,
      (∀ task ∈ tasks, task.registers = true) ∧
        last <+: [.call (.setDisabled store.disabled)] ∧
        ((apply store).runFrom s).2.engine = s.engine.run (tasks ++ last) := by
  obtain ⟨tasks, registering, reached⟩ := registers_carryOver store s
  rw [apply_eq, Step.runFrom_bind]
  cases carried : (carryOver store).runFrom s with
  | mk outcome t =>
      rw [carried] at reached
      cases outcome with
      | error error => exact ⟨tasks, [], registering, List.nil_prefix, by simpa using reached⟩
      | ok summary =>
          refine ⟨tasks, [.call (.setDisabled store.disabled)], registering,
            List.prefix_refl _, ?_⟩
          have disabling :
              ((onEngine (Engine.setDisabled store.disabled)).runFrom t).2.engine =
                ((Task.call (.setDisabled store.disabled)).perform.runFrom t.engine).2 :=
            (Step.state_bind_pure ..).symm
          dsimp only at reached ⊢
          rw [Step.state_bind_pure, disabling, reached, Engine.run_append]
          rfl

/-! ## Main result -/

/-- Whatever the channel answers, all the changes that a sync asks for are asked for in the turns of
the calls that it makes. A new route is asked for in a turn only for the winner of that turn, which
is disabled neither by any selector then in force nor by any in the store if the engine disabled
before all that the store does. In force are the selectors that the engine had before, or those of
the store. -/
theorem winners_enabled (s : Synced (Recorded σ)) (store : Store) :
    ∃ tasks : List Task,
      ((apply store).runFrom s).2.engine = s.engine.run tasks ∧
        ((apply store).runFrom s).2.engine.changes =
          s.engine.changes ++
            ((s.engine.turns tasks).flatMap fun turn =>
              turn.requests.filter Request.changesRoutes) ∧
        ∀ turn ∈ s.engine.turns tasks,
          (turn.engine.model.disabled = s.engine.model.disabled ∨
              turn.engine.model.disabled = store.disabled) ∧
            ∀ route, .add route ∈ turn.requests ∨ .replace route ∈ turn.requests →
              ∃ winner ∈ turn.decision.winner,
                route = turn.engine.reconciler.target winner
                    (Reconciler.winnerOif turn.engine.model turn.decision) ∧
                  turn.engine.model.isDisabled winner = false ∧
                  ((∀ c, store.disabled.any (·.accepts c) = true →
                      s.engine.model.isDisabled c = true) →
                    ∀ selector ∈ store.disabled, selector.accepts winner = false) := by
  obtain ⟨tasks, last, registering, atMost, reached⟩ := run_of_apply store s
  refine ⟨tasks ++ last, reached, by rw [reached, Engine.changes_run], fun turn member => ?_⟩
  have inForce :
      turn.engine.model.disabled = s.engine.model.disabled ∨
        turn.engine.model.disabled = store.disabled := by
    rw [Engine.turns_append] at member
    rcases List.mem_append.1 member with early | late
    · exact .inl (Engine.disabled_turns registering s.engine turn early)
    · right
      -- The call that disables is missing only if the sync has failed before it.
      rcases List.prefix_cons_iff.1 atMost with rfl | ⟨rest, rfl, nothing⟩
      · cases late
      · rw [List.prefix_nil.1 nothing] at late
        refine Engine.disabled_turns_setDisabled store.disabled (s.engine.run tasks) turn ?_
        simpa [Engine.turns] using late
  refine ⟨inForce, fun route asked => ?_⟩
  obtain ⟨winner, chosen, leads⟩ := Engine.Turn.winner_of_asked asked
  obtain ⟨-, -, enabled, -⟩ := Model.usable_of_mem_evaluate chosen
  refine ⟨winner, chosen, leads, enabled, fun covered selector listed => ?_⟩
  have unmatched : store.disabled.any (·.accepts winner) = false := by
    rw [Model.isDisabled] at enabled
    rcases inForce with old | new
    · rw [old] at enabled
      exact Bool.eq_false_iff.2 fun stored => by
        rw [← Model.isDisabled, covered winner stored] at enabled
        cases enabled
    · rwa [new] at enabled
  exact Bool.eq_false_iff.2 fun accepts => by
    rw [KeyedSet.any, List.any_eq_false] at unmatched
    exact unmatched selector listed accepts

/-- Each of two interfaces has a gateway, and those on the first are disabled. -/
def firstDisabled : Store where
  gateways := [
    ⟨.inet, "eth0", .dhcp, .v4 0x0a000001#32, none, 1, default⟩,
    ⟨.inet, "wlan0", .dhcp, .v4 0x0a010001#32, none, 2, default⟩]
  disabled := .ofList [{ link := some "eth0" }]

/-- An engine on two interfaces that has been seeded and given some selectors to disable. -/
def started (disabled : SortedSet Selector) : Synced (Recorded Kernel.Session) :=
  new ((Engine.new (.fresh Engine.twoUplinks) {} {}).run
    [.call .seed, .call (.setDisabled disabled)])

theorem changes_started :
    ((apply firstDisabled).runFrom (started firstDisabled.disabled)).2.engine.changes =
      [.add (.defaultVia .inet (.v4 0x0a010001#32) (some 3) 254 0)] := by
  simp only [apply, changed_eq_insertionSort]
  decide +kernel

/-- Where the first interface is disabled from the start, the second gets the route at once. -/
theorem winners_enabled_firstDisabled :
    ∃ winner : Candidate,
      .add (.defaultVia .inet winner.gateway (some 3) 254 0) ∈
          ((apply firstDisabled).runFrom (started firstDisabled.disabled)).2.engine.changes ∧
        ∀ selector ∈ firstDisabled.disabled, selector.accepts winner = false := by
  have nothing : (started firstDisabled.disabled).engine.changes = [] := by decide +kernel
  have sameSelectors :
      (started firstDisabled.disabled).engine.model.disabled = firstDisabled.disabled := by
    decide +kernel
  obtain ⟨tasks, -, changes, turns⟩ :=
    winners_enabled (started firstDisabled.disabled) firstDisabled
  have added :
      .add (.defaultVia .inet (.v4 0x0a010001#32) (some 3) 254 0) ∈
        ((apply firstDisabled).runFrom (started firstDisabled.disabled)).2.engine.changes := by
    rw [changes_started]
    exact List.mem_cons_self
  rw [changes, nothing, List.nil_append] at added
  obtain ⟨turn, member, asked⟩ := List.mem_flatMap.1 added
  obtain ⟨winner, -, leads, -, enabled⟩ :=
    (turns turn member).2 _ (.inl (List.mem_filter.1 asked).1)
  have gateway : Address.v4 0x0a010001#32 = winner.gateway :=
    Option.some.inj (congrArg Route.gateway leads)
  refine ⟨winner, ?_, enabled fun c disabled => ?_⟩
  · rw [changes_started, ← gateway]
    exact List.mem_cons_self
  · rw [Model.isDisabled, sameSelectors]
    exact disabled

/-- The first sync of a new engine installs a route through a gateway that the store disables: the
gateway is registered before it is disabled. -/
theorem disabled_installed :
    (∀ g ∈ firstDisabled.gateways, g.address = .v4 0x0a000001#32 →
        firstDisabled.disabled.any (·.accepts g.candidate) = true) ∧
      (started ∅).engine.changes = [] ∧
      ((apply firstDisabled).runFrom (started ∅)).2.engine.changes = [
        .add (.defaultVia .inet (.v4 0x0a000001#32) (some 2) 254 0),
        .replace (.defaultVia .inet (.v4 0x0a010001#32) (some 3) 254 0)] := by
  simp only [apply, changed_eq_insertionSort]
  decide +kernel

end Synced

end DefaultGateway
