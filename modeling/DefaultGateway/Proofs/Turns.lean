import DefaultGateway.Proofs.Coherence
import DefaultGateway.Proofs.Recorded

/-!
# Turns

Whatever is asked of an engine, it first prepares and then gives each of some families its turn:
the turn decides for the family and reconciles. Preparing changes no route of the kernel, so all
requests for changes are put in the turns.
-/

namespace DefaultGateway.Engine

variable {σ τ α : Type}

/-- Whatever may be asked of an engine, by the daemon, by the handlers or past them. -/
inductive Task
  | call (call : Call)
  | registerCandidate (c : Candidate)
  | withdrawCandidate (key : Candidate.Key)
  | reevaluate (families : List Family)
  | nextVersion

/-- A family's turn, and the engine as the turn finds it. -/
structure Turn (σ : Type) where
  family : Family
  engine : Engine σ

section Definitions

variable [RouteChannel σ]

/-! ## Preparations -/

/-- Reads everything; both families are due. -/
def gather : Step (Engine σ) (List Family) := do
  let snapshot ← onChannel RouteChannel.snapshot
  let _ ← changeModel (·.replaceFacts snapshot)
  return Family.all

omit [RouteChannel σ] in
def heed (events : List Event) : Step (Engine σ) (List Family) := do
  let concerned ← changeModel (applyEvents · events)
  return Family.all.filter concerned.contains

omit [RouteChannel σ] in
def enter (c : Candidate) : Step (Engine σ) (List Family) := do
  modify fun e => { e with lastVersion := max e.lastVersion c.version }
  let _ ← changeModel (·.register c)
  return [c.family]

omit [RouteChannel σ] in
def enterNext (key : Candidate.Key) (gateway : Address) (source : Option Address) :
    Step (Engine σ) (List Family) := do
  let version ← Engine.nextVersion
  enter ⟨key.protocol, key.family, key.interface, gateway, source, version⟩

omit [RouteChannel σ] in
def leave (key : Candidate.Key) : Step (Engine σ) (List Family) := do
  let _ ← changeModel (·.withdraw key)
  return [key.family]

namespace Call

/-- What a call does before any turn, and the families whose turns it calls for. -/
def prepare : Call → Step (Engine σ) (List Family)
  | .seed => gather
  | .resync => gather
  | .recover => do
      onChannel RouteChannel.reopen
      gather
  | .handleEvent event => heed [event]
  | .handleEvents events => heed events
  | .register key gateway source =>
      match Registration.fault? key.family key.interface gateway source with
      | some fault => throw fault.toError
      | none => enterNext key gateway source
  | .update registration gateway source =>
      match Registration.fault? registration.key.family registration.key.interface
        gateway source with
      | some fault => throw fault.toError
      | none => do
          if ((← get).model.candidate? registration.key).isNone then
            throw (.unknownRegistration (toString registration.key))
          else enterNext registration.key gateway source
  | .withdraw registration => do
      if ((← get).model.candidate? registration.key).isNone then
        throw (.unknownRegistration (toString registration.key))
      else leave registration.key
  | .setDisabled disabled => do
      if ← changeModel (·.setDisabled disabled) then return Family.all else return []
  | .reloadPolicy policy => do
      let engine ← get
      if policy = engine.policy then return []
      else
        set { engine with policy := policy }
        return Family.all

end Call

namespace Task

def perform : Task → Step (Engine σ) Unit
  | .call ordinary => ordinary.perform
  | .registerCandidate c => do let _ ← Engine.registerCandidate c
  | .withdrawCandidate key => do let _ ← Engine.withdrawCandidate key
  | .reevaluate families => do let _ ← Engine.reevaluate families
  | .nextVersion => do let _ ← Engine.nextVersion

def prepare : Task → Step (Engine σ) (List Family)
  | .call ordinary => ordinary.prepare
  | .registerCandidate c => enter c
  | .withdrawCandidate key => leave key
  | .reevaluate families => return families
  | .nextVersion => do
      let _ ← Engine.nextVersion
      return []

end Task

/-- Whether a task registers or withdraws candidates. -/
def Task.registers : Task → Bool
  | .call (.register ..) | .call (.update ..) | .call (.withdraw _) => true
  | .registerCandidate _ | .withdrawCandidate _ => true
  | _ => false

/-! ## Turns and runs -/

namespace Turn

def decision (turn : Turn σ) : Decision := turn.engine.evaluate turn.family

/-- How the turn ends: its decision is taken down, and reconciled with. -/
def outcome (turn : Turn σ) : Except Error Report × Engine σ :=
  (onManaged (Reconciler.reconcile turn.decision)).runFrom
    { turn.engine with
      decisions := turn.engine.decisions.set turn.family turn.decision }

end Turn

/-- The turns of some families; one that fails is the last. -/
def turnsOf : List Family → Engine σ → List (Turn σ)
  | [], _ => []
  | family :: rest, e =>
    ⟨family, e⟩ ::
      match (Turn.mk family e).outcome with
      | (.ok _, after) => turnsOf rest after
      | (.error _, _) => []

def Task.turns (task : Task) (e : Engine σ) : List (Turn σ) :=
  match task.prepare.runFrom e with
  | (.ok families, ready) => turnsOf families ready
  | (.error _, _) => []

/-- The engine after some tasks, however each of them ends. -/
def run (e : Engine σ) : List Task → Engine σ
  | [] => e
  | task :: rest => (task.perform.runFrom e).2.run rest

/-- The turns that a run comes to. -/
def turns (e : Engine σ) : List Task → List (Turn σ)
  | [] => []
  | task :: rest => task.turns e ++ (task.perform.runFrom e).2.turns rest

end Definitions

/-! ## Every task prepares and gives turns -/

section Shape

variable [RouteChannel σ]

theorem putCandidate_eq (key : Candidate.Key) (gateway : Address) (source : Option Address) :
    (do let _ ← putCandidate key gateway source : Step (Engine σ) Unit) = (do
      let families ← enterNext key gateway source
      let _ ← Engine.reevaluate families) := by
  simp only [putCandidate, Engine.registerCandidate, enterNext, enter, bind_assoc, pure_bind]

theorem Call.perform_eq (call : Call) :
    (call.perform : Step (Engine σ) Unit) = (do
      let families ← call.prepare
      let _ ← Engine.reevaluate families) := by
  cases call with
  | seed => simp only [perform, prepare, Engine.seed, Engine.resync, gather, bind_assoc, pure_bind]
  | resync => simp only [perform, prepare, Engine.resync, gather, bind_assoc, pure_bind]
  | recover =>
      simp only [perform, prepare, Engine.recover, Engine.resync, gather, bind_assoc, pure_bind]
  | handleEvent event =>
      simp only [perform, prepare, Engine.handleEvents, heed, bind_assoc, pure_bind]
  | handleEvents events =>
      simp only [perform, prepare, Engine.handleEvents, heed, bind_assoc, pure_bind]
  | register key gateway source =>
      cases checked : Registration.fault? key.family key.interface gateway source with
      | some fault =>
          simp only [perform, prepare, Engine.register, checked]
          rfl
      | none =>
          simp only [perform, prepare, Engine.register, checked]
          exact putCandidate_eq key gateway source
  | update registration gateway source =>
      cases checked : Registration.fault? registration.key.family registration.key.interface
        gateway source with
      | some fault =>
          simp only [perform, prepare, Engine.update, checked]
          rfl
      | none =>
          simp only [perform, prepare, Engine.update, checked, bind_assoc]
          refine bind_congr fun e => ?_
          split
          · rfl
          · exact putCandidate_eq registration.key gateway source
  | withdraw registration =>
      simp only [perform, prepare, Engine.withdraw, bind_assoc]
      refine bind_congr fun e => ?_
      split
      · rfl
      · simp only [Engine.withdrawCandidate, leave, bind_assoc, pure_bind]
  | setDisabled disabled =>
      simp only [perform, prepare, Engine.setDisabled, bind_assoc]
      refine bind_congr fun changed => ?_
      cases changed <;> rfl
  | reloadPolicy policy =>
      simp only [perform, prepare, Engine.reloadPolicy, bind_assoc]
      refine bind_congr fun e => ?_
      split
      · rfl
      · simp only [bind_assoc, pure_bind]

theorem Task.perform_eq (task : Task) :
    (task.perform : Step (Engine σ) Unit) = (do
      let families ← task.prepare
      let _ ← Engine.reevaluate families) := by
  cases task with
  | call ordinary => exact ordinary.perform_eq
  | registerCandidate c =>
      simp only [perform, prepare, Engine.registerCandidate, enter, bind_assoc, pure_bind]
  | withdrawCandidate key =>
      simp only [perform, prepare, Engine.withdrawCandidate, leave, bind_assoc, pure_bind]
  | reevaluate families => simp only [perform, prepare, pure_bind]
  | nextVersion => simp only [perform, prepare, Engine.reevaluate, bind_assoc, pure_bind]

/-- A turn ends as its reconciliation does, with the decision taken down. -/
theorem Turn.outcome_of_reconcile
    {turn : Turn σ} {answer : Except Error Report} {t : Managed σ}
    (ended :
      (Reconciler.reconcile turn.decision).runFrom turn.engine.toManaged = (answer, t)) :
    turn.outcome =
      (answer, { turn.engine with
        toManaged := t
        decisions := turn.engine.decisions.set turn.family turn.decision }) := by
  rw [Turn.outcome, runFrom_onManaged, ended]

theorem runFrom_reevaluate_cons (family : Family) (rest : List Family) (e : Engine σ) :
    (reevaluate (family :: rest)).runFrom e =
      match (Turn.mk family e).outcome with
      | (.ok report, after) =>
          ((reevaluate rest) >>= fun reports => pure (report :: reports)).runFrom after
      | (.error error, after) => (.error error, after) := by
  rw [reevaluate, Step.runFrom_bind_of_ok (Step.runFrom_get e),
    Step.runFrom_bind_of_ok (Step.runFrom_set e _), Step.runFrom_bind]
  have taken :
      (onManaged (Reconciler.reconcile (e.evaluate family))).runFrom
          { e with decisions := e.decisions.set family (e.evaluate family) } =
        (Turn.mk family e).outcome := rfl
  rw [taken]
  cases (Turn.mk family e).outcome with
  | mk outcome after =>
      cases outcome with
      | ok report => rfl
      | error error => rfl

theorem state_reevaluate_cons (family : Family) (rest : List Family) (e : Engine σ) :
    ((reevaluate (family :: rest)).runFrom e).2 =
      match (Turn.mk family e).outcome with
      | (.ok _, after) => ((reevaluate rest).runFrom after).2
      | (.error _, after) => after := by
  rw [runFrom_reevaluate_cons]
  cases (Turn.mk family e).outcome with
  | mk outcome after =>
      cases outcome with
      | ok report => exact Step.state_bind_pure ..
      | error error => rfl

theorem state_perform (task : Task) (e : Engine σ) :
    (task.perform.runFrom e).2 =
      match task.prepare.runFrom e with
      | (.ok families, ready) => ((reevaluate families).runFrom ready).2
      | (.error _, ended) => ended := by
  rw [task.perform_eq, Step.runFrom_bind]
  cases task.prepare.runFrom e with
  | mk outcome ready =>
      cases outcome with
      | ok families => exact Step.state_bind_pure ..
      | error error => rfl

end Shape

/-! ## What is kept throughout -/

section Kept

variable [RouteChannel σ] {P : Engine σ → Prop}

/-- A property is kept by a preparation if it survives the reading of the kernel and each change
that a preparation may make. -/
theorem Task.keeps_prepare
    (task : Task)
    (read : Step.Keeps P (onChannel RouteChannel.snapshot))
    (reopened : Step.Keeps P (onChannel RouteChannel.reopen))
    (updated :
      ∀ e m, P e → Model.UpdatesFacts e.model m → P { e with model := m })
    (disabled :
      ∀ e selectors, P e → P { e with model := (e.model.setDisabled selectors).1 })
    (registered :
      task.registers = true →
        ∀ e c, P e → P { e with model := (e.model.register c).1 })
    (withdrawn :
      task.registers = true →
        ∀ e key, P e → P { e with model := (e.model.withdraw key).1 })
    (counted :
      task.registers = true ∨ task = .nextVersion →
        ∀ e version, P e → P { e with lastVersion := version })
    (ruled : ∀ e policy, P e → P { e with policy := policy }) :
    Step.Keeps P task.prepare := by
  have gathers : Step.Keeps P gather :=
    .bind read fun snapshot => .bind
      (fun e held => updated e _ held (Model.updatesFacts_replaceFacts e.model snapshot))
      fun _ => .pure _
  have heeds (events : List Event) : Step.Keeps P (heed events) :=
    .bind (fun e held => updated e _ held (applyEvents_spec e.model events).1) fun _ => .pure _
  have enters (registers : task.registers = true) (c : Candidate) : Step.Keeps P (enter c) :=
    .bind (fun e held => counted (.inl registers) e _ held) fun _ =>
      .bind (fun e held => registered registers e c held) fun _ => .pure _
  have entersNext (registers : task.registers = true)
      (key : Candidate.Key) (gateway : Address) (source : Option Address) :
      Step.Keeps P (enterNext key gateway source) :=
    .bind (fun e held => counted (.inl registers) e _ held) fun _ => enters registers _
  have leaves (registers : task.registers = true) (key : Candidate.Key) :
      Step.Keeps P (leave key) :=
    .bind (fun e held => withdrawn registers e key held) fun _ => .pure _
  cases task with
  | registerCandidate c => exact enters rfl c
  | withdrawCandidate key => exact leaves rfl key
  | reevaluate families => exact .pure _
  | nextVersion => exact .bind (fun e held => counted (.inr rfl) e _ held) fun _ => .pure _
  | call ordinary =>
      cases ordinary with
      | seed => exact gathers
      | resync => exact gathers
      | recover => exact .bind reopened fun _ => gathers
      | handleEvent event => exact heeds [event]
      | handleEvents events => exact heeds events
      | register key gateway source =>
          simp only [prepare, Call.prepare]
          split
          · exact .throw _
          · exact entersNext rfl key gateway source
      | update registration gateway source =>
          simp only [prepare, Call.prepare]
          split
          · exact .throw _
          · refine .bind (fun e held => held) fun e => ?_
            split
            · exact .throw _
            · exact entersNext rfl registration.key gateway source
      | withdraw registration =>
          refine .bind (fun e held => held) fun e => ?_
          split
          · exact .throw _
          · exact leaves rfl registration.key
      | setDisabled selectors =>
          refine .bind (fun e held => disabled e selectors held) fun changed => ?_
          cases changed <;> exact .pure _
      | reloadPolicy policy =>
          intro e held
          simp only [prepare, Call.prepare]
          rw [Step.runFrom_bind_of_ok (Step.runFrom_get e)]
          split
          · exact held
          · exact ruled e policy held

/-- What every turn keeps, holds whenever one of several turns comes, and after the last. -/
theorem forall_turnsOf
    (turns : ∀ turn : Turn σ, P turn.engine → P turn.outcome.2)
    (families : List Family) {e : Engine σ} (held : P e) :
    (∀ turn ∈ turnsOf families e, P turn.engine) ∧
      P ((Engine.reevaluate families).runFrom e).2 := by
  induction families generalizing e with
  | nil => exact ⟨by simp [turnsOf], held⟩
  | cons family rest inductionHypothesis =>
      have heldAfter : P (Turn.mk family e).outcome.2 := turns ⟨family, e⟩ held
      rw [state_reevaluate_cons, turnsOf]
      cases ended : (Turn.mk family e).outcome with
      | mk outcome after =>
          rw [ended] at heldAfter
          cases outcome with
          | ok report =>
              obtain ⟨later, last⟩ := inductionHypothesis heldAfter
              exact ⟨List.forall_mem_cons.2 ⟨held, later⟩, last⟩
          | error error => exact ⟨List.forall_mem_cons.2 ⟨held, by simp⟩, heldAfter⟩

theorem Task.forall_turns
    {task : Task} (prepares : Step.Keeps P task.prepare)
    (turns : ∀ turn : Turn σ, P turn.engine → P turn.outcome.2)
    {e : Engine σ} (held : P e) :
    (∀ turn ∈ task.turns e, P turn.engine) ∧ P (task.perform.runFrom e).2 := by
  have ready := prepares e held
  rw [state_perform, Task.turns]
  cases prepared : task.prepare.runFrom e with
  | mk outcome after =>
      rw [prepared] at ready
      cases outcome with
      | ok families => exact forall_turnsOf turns families ready
      | error error => exact ⟨by simp, ready⟩

/-- What every preparation and every turn keeps, holds whenever a run comes to a turn. -/
theorem forall_turns
    (prepares : ∀ task : Task, Step.Keeps P task.prepare)
    (turns : ∀ turn : Turn σ, P turn.engine → P turn.outcome.2)
    {tasks : List Task} {e : Engine σ} (held : P e) :
    ∀ turn ∈ e.turns tasks, P turn.engine := by
  induction tasks generalizing e with
  | nil => simp [Engine.turns]
  | cons task rest inductionHypothesis =>
      obtain ⟨now, heldAfter⟩ := Task.forall_turns (prepares task) turns held
      intro turn member
      rcases List.mem_append.1 member with first | later
      · exact now turn first
      · exact inductionHypothesis heldAfter turn later

end Kept

/-! ## What turns add up to -/

section Accrued

variable [RouteChannel σ] {β : Type} {P : List β → Engine σ → Prop} {yields : Turn σ → List β}

/-- An account to which each turn adds what it yields is right after several turns. -/
theorem accrued_turnsOf
    (turns : ∀ past turn, P past turn.engine → P (past ++ yields turn) turn.outcome.2)
    (families : List Family) {past : List β} {e : Engine σ} (held : P past e) :
    P (past ++ (turnsOf families e).flatMap yields)
      ((Engine.reevaluate families).runFrom e).2 := by
  induction families generalizing past e with
  | nil => simpa [turnsOf, Engine.reevaluate] using held
  | cons family rest inductionHypothesis =>
      have next := turns past ⟨family, e⟩ held
      rw [state_reevaluate_cons, turnsOf, List.flatMap_cons, ← List.append_assoc]
      cases ended : (Turn.mk family e).outcome with
      | mk outcome after =>
          rw [ended] at next
          cases outcome with
          | ok report => exact inductionHypothesis next
          | error error => simpa using next

theorem Task.accrued_turns
    {task : Task} (prepares : ∀ past, Step.Keeps (P past) task.prepare)
    (turns : ∀ past turn, P past turn.engine → P (past ++ yields turn) turn.outcome.2)
    {past : List β} {e : Engine σ} (held : P past e) :
    P (past ++ (task.turns e).flatMap yields) (task.perform.runFrom e).2 := by
  have ready := prepares past e held
  rw [state_perform, Task.turns]
  cases prepared : task.prepare.runFrom e with
  | mk outcome after =>
      rw [prepared] at ready
      cases outcome with
      | ok families => exact accrued_turnsOf turns families ready
      | error error => simpa using ready

/-- An account that no preparation touches is right after a run. -/
theorem accrued_run
    (prepares : ∀ past (task : Task), Step.Keeps (P past) task.prepare)
    (turns : ∀ past turn, P past turn.engine → P (past ++ yields turn) turn.outcome.2)
    (tasks : List Task) {past : List β} {e : Engine σ} (held : P past e) :
    P (past ++ (e.turns tasks).flatMap yields) (e.run tasks) := by
  induction tasks generalizing past e with
  | nil => simpa [Engine.turns, run] using held
  | cons task rest inductionHypothesis =>
      rw [run, Engine.turns, List.flatMap_append, ← List.append_assoc]
      exact inductionHypothesis (Task.accrued_turns (prepares · task) turns held)

end Accrued

/-! ## Runs on another channel -/

/-- The same with its channel seen through a view. -/
def seen (view : τ → σ) (e : Engine τ) : Engine σ where
  toManaged := e.toManaged.seen view
  policy := e.policy
  options := e.options
  decisions := e.decisions
  lastVersion := e.lastVersion

section Following

variable [RouteChannel τ] [RouteChannel σ] {view : τ → σ}

omit [RouteChannel τ] [RouteChannel σ] in
theorem follows_onManaged
    {step : Step (Managed τ) α} {plain : Step (Managed σ) α}
    (follows : Step.Follows (Managed.seen view) step plain) :
    Step.Follows (seen view) (onManaged step) (onManaged plain) := by
  intro e
  have same := follows e.toManaged
  simp only [runFrom_onManaged, seen, same]

theorem follows_snapshot (follows : RouteChannel.Follows view) :
    Step.Follows view RouteChannel.snapshot RouteChannel.snapshot :=
  .bind follows.dumpLinks fun _ => .bind follows.dumpAddresses fun _ =>
    .bind (follows.dumpRoutes none) fun _ => .pure _

theorem follows_outcome (follows : RouteChannel.Follows view) (family : Family) (e : Engine τ) :
    (Turn.mk family (e.seen view)).outcome =
      ((Turn.mk family e).outcome.1, (Turn.mk family e).outcome.2.seen view) :=
  follows_onManaged (follows.reconcile (e.evaluate family))
    { e with decisions := e.decisions.set family (e.evaluate family) }

theorem follows_reevaluate (follows : RouteChannel.Follows view) (families : List Family) :
    Step.Follows (seen view) (reevaluate families) (reevaluate families) := by
  induction families with
  | nil => exact .pure []
  | cons family rest inductionHypothesis =>
      intro e
      rw [runFrom_reevaluate_cons, runFrom_reevaluate_cons, follows_outcome follows]
      cases (Turn.mk family e).outcome with
      | mk outcome after =>
          cases outcome with
          | ok report => exact inductionHypothesis.bind (fun _ => .pure _) after
          | error error => rfl

theorem follows_prepare (follows : RouteChannel.Follows view) (task : Task) :
    Step.Follows (seen view) task.prepare task.prepare := by
  have gathers : Step.Follows (seen view) (gather : Step (Engine τ) _) gather :=
    .bind (follows_onManaged (Managed.follows_onChannel (follows_snapshot follows))) fun _ =>
      .bind (fun _ => rfl) fun _ => .pure _
  have heeds (events : List Event) :
      Step.Follows (seen view) (heed events) (heed events) :=
    .bind (fun _ => rfl) fun _ => .pure _
  have enters (c : Candidate) : Step.Follows (seen view) (enter c) (enter c) :=
    .bind (fun _ => rfl) fun _ => .bind (fun _ => rfl) fun _ => .pure _
  have entersNext (key : Candidate.Key) (gateway : Address) (source : Option Address) :
      Step.Follows (seen view) (enterNext key gateway source)
        (enterNext key gateway source) :=
    .bind (fun _ => rfl) fun _ => enters _
  have leaves (key : Candidate.Key) : Step.Follows (seen view) (leave key) (leave key) :=
    .bind (fun _ => rfl) fun _ => .pure _
  cases task with
  | registerCandidate c => exact enters c
  | withdrawCandidate key => exact leaves key
  | reevaluate families => exact .pure _
  | nextVersion => exact .bind (fun _ => rfl) fun _ => .pure _
  | call ordinary =>
      cases ordinary with
      | seed => exact gathers
      | resync => exact gathers
      | recover =>
          exact .bind (follows_onManaged (Managed.follows_onChannel follows.reopen))
            fun _ => gathers
      | handleEvent event => exact heeds [event]
      | handleEvents events => exact heeds events
      | register key gateway source =>
          simp only [Task.prepare, Call.prepare]
          split
          · exact .throw _
          · exact entersNext key gateway source
      | update registration gateway source =>
          simp only [Task.prepare, Call.prepare]
          split
          · exact .throw _
          · refine .get_bind fun e => ?_
            have same : (e.seen view).model = e.model := rfl
            rw [same]
            split
            · exact .throw _
            · exact entersNext registration.key gateway source
      | withdraw registration =>
          refine .get_bind fun e => ?_
          have same : (e.seen view).model = e.model := rfl
          rw [same]
          split
          · exact .throw _
          · exact leaves registration.key
      | setDisabled selectors =>
          refine .bind (fun _ => rfl) fun changed => ?_
          cases changed <;> exact .pure _
      | reloadPolicy policy =>
          refine .get_bind fun e => ?_
          have same : (e.seen view).policy = e.policy := rfl
          rw [same]
          split
          · exact .pure _
          · exact .bind (fun _ => rfl) fun _ => .pure _

/-- A run goes the same way on every channel that answers the same. -/
theorem seen_run (follows : RouteChannel.Follows view) (e : Engine τ) (tasks : List Task) :
    (e.run tasks).seen view = (e.seen view).run tasks := by
  induction tasks generalizing e with
  | nil => rfl
  | cons task rest inductionHypothesis =>
      have performs : Step.Follows (seen view) task.perform task.perform := by
        rw [Task.perform_eq, Task.perform_eq]
        exact (follows_prepare follows task).bind fun families =>
          (follows_reevaluate follows families).bind fun _ => .pure _
      rw [run, run, inductionHypothesis, performs e]

end Following

end DefaultGateway.Engine
