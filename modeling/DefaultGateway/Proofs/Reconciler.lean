import DefaultGateway.Proofs.Facts
import DefaultGateway.Proofs.Step
import DefaultGateway.Reconciler

/-!
# The course of a reconciliation

A reconciliation plans, submits requests one after another, and settles what has failed. Each
granted request is recorded in the model at once; a property that every submission keeps is kept by
the whole. Nothing that a selection rests on moves.
-/

namespace DefaultGateway

/-- The routes that an action sends to the kernel. -/
def Action.sent : Action → List Route
  | .noOp => []
  | .install route => [route]
  | .replace old new => new :: old
  | .withdraw routes => routes

namespace Managed

variable {σ : Type}

/-- Sends a request, and records in the model that it was granted. -/
def submit (request : Step σ Unit) (record : Model → Model) : Step (Managed σ) Unit := do
  onChannel request
  updateModel record

def withPending
    (t : Managed σ) (family : Family) (failure : Option PendingFailure) : Managed σ :=
  { t with reconciler :=
    { t.reconciler with pending := t.reconciler.pending.set family failure } }

/-- A refused request leaves no record. -/
theorem runFrom_submit
    (request : Step σ Unit) (record : Model → Model) (t : Managed σ) :
    (submit request record).runFrom t =
      match request.runFrom t.channel with
      | (.ok (), channel) =>
          (.ok (), { t with channel := channel, model := record t.model })
      | (.error error, channel) => (.error error, { t with channel := channel }) := by
  rw [submit, Step.runFrom_bind]
  simp only [onChannel, Step.runFrom_on]
  cases request.runFrom t.channel with
  | mk outcome channel =>
      cases outcome with
      | ok _ => rfl
      | error error => rfl

theorem channel_of_submit
    (request : Step σ Unit) (record : Model → Model) (t : Managed σ) :
    ((submit request record).runFrom t).2.channel = (request.runFrom t.channel).2 := by
  rw [runFrom_submit]
  cases request.runFrom t.channel with
  | mk outcome channel =>
      cases outcome with
      | ok _ => rfl
      | error error => rfl

theorem ok_of_submit
    {request : Step σ Unit} {record : Model → Model} {t u : Managed σ}
    (submitted : (submit request record).runFrom t = (.ok (), u)) :
    request.runFrom t.channel = (.ok (), u.channel) := by
  rw [runFrom_submit] at submitted
  cases asked : request.runFrom t.channel with
  | mk outcome channel =>
      rw [asked] at submitted
      cases outcome with
      | ok _ =>
          cases submitted
          rfl
      | error error => cases submitted

end Managed

namespace Reconciler

variable {σ : Type} [RouteChannel σ]

/-! ## Plan and requests -/

/-- The action that a reconciliation of a decision carries out. -/
def planned (t : Managed σ) (decision : Decision) : Action :=
  t.reconciler.plan (t.model.defaultRoutes decision.family) decision
    (winnerOif t.model decision)

omit [RouteChannel σ] in
/-- The winner's route goes through the interface of that name, if it is known. -/
theorem winnerOif_of_winner
    (m : Model) {decision : Decision} {winner : Candidate}
    (chosen : decision.winner = some winner) :
    winnerOif m decision = (m.linkNamed? winner.interface).map (·.index) := by
  rw [winnerOif, chosen]
  rfl

def target (r : Reconciler) (winner : Candidate) (oif : Option LinkIndex) : Route :=
  .defaultVia winner.family winner.gateway oif r.table r.metric

theorem forwardsVia_target
    (r : Reconciler) (winner : Candidate) (oif : Option LinkIndex) :
    (r.target winner oif).forwardsVia winner.gateway oif = true := by
  cases oif <;> simp [target, Route.defaultVia, Route.forwardsVia]

/-- The cases of a plan: what is there, what is wanted, and what is done about it. -/
inductive PlanCase
    (r : Reconciler) (installed : List Route) (decision : Decision)
    (oif : Option LinkIndex) : Action → Prop
  | absent :
      decision.winner = none → installed = [] →
      PlanCase r installed decision oif .noOp
  | unwanted :
      decision.winner = none → installed ≠ [] →
      PlanCase r installed decision oif (.withdraw installed)
  | first (winner : Candidate) :
      decision.winner = some winner → installed = [] →
      PlanCase r installed decision oif (.install (r.target winner oif))
  | foreign (winner : Candidate) :
      decision.winner = some winner → installed ≠ [] →
      (∀ route ∈ installed, route.forwardsVia winner.gateway oif = false) →
      PlanCase r installed decision oif (.replace installed (r.target winner oif))
  | inPlace (winner : Candidate) :
      decision.winner = some winner → installed ≠ [] →
      (∀ route ∈ installed, route.forwardsVia winner.gateway oif = true) →
      PlanCase r installed decision oif .noOp
  | strays (winner : Candidate) :
      decision.winner = some winner →
      (∃ route ∈ installed, route.forwardsVia winner.gateway oif = true) →
      (∃ route ∈ installed, route.forwardsVia winner.gateway oif = false) →
      PlanCase r installed decision oif
        (.withdraw (installed.filter (!·.forwardsVia winner.gateway oif)))

theorem planCase_plan
    (r : Reconciler) (installed : List Route) (decision : Decision)
    (oif : Option LinkIndex) :
    PlanCase r installed decision oif (r.plan installed decision oif) := by
  unfold plan
  cases wanted : decision.winner with
  | none =>
      by_cases nothing : installed = []
      · simpa [nothing] using PlanCase.absent wanted nothing
      · simpa [nothing] using PlanCase.unwanted wanted nothing
  | some winner =>
      by_cases nothing : installed = []
      · simpa [nothing, target] using PlanCase.first winner wanted nothing
      · simp only [List.isEmpty_iff, nothing, if_false]
        split
        · rename_i noneCurrent
          refine .foreign winner wanted nothing fun route member => ?_
          simpa using List.filter_eq_nil_iff.1 noneCurrent route member
        · rename_i someCurrent
          split
          · rename_i noneStray
            refine .inPlace winner wanted nothing fun route member => ?_
            simpa using List.filter_eq_nil_iff.1 noneStray route member
          · rename_i someStray
            obtain ⟨route, current⟩ := List.exists_mem_of_ne_nil _ someCurrent
            obtain ⟨other, stray⟩ := List.exists_mem_of_ne_nil _ someStray
            refine .strays winner wanted ⟨route, List.mem_filter.1 current⟩ ⟨other, ?_⟩
            simpa using List.mem_filter.1 stray

omit [RouteChannel σ] in
theorem planCase_planned (t : Managed σ) (decision : Decision) :
    PlanCase t.reconciler (t.model.defaultRoutes decision.family) decision
      (winnerOif t.model decision) (planned t decision) :=
  planCase_plan ..

omit [RouteChannel σ] in
/-- The kernel is sent routes that are known, and the one that the winner calls for. -/
theorem forall_planned
    {t : Managed σ} {decision : Decision} {P : Route → Prop}
    (known : ∀ route ∈ t.model.defaultRoutes decision.family, P route)
    (wanted :
      ∀ winner, decision.winner = some winner →
        P (t.reconciler.target winner (winnerOif t.model decision))) :
    ∀ route ∈ (planned t decision).sent, P route := by
  intro route member
  have shape := planCase_planned t decision
  generalize planned t decision = action at shape member
  cases shape with
  | absent => cases member
  | unwanted => exact known route member
  | first winner chosen =>
      rw [List.mem_singleton.1 member]
      exact wanted winner chosen
  | foreign winner chosen =>
      rcases List.mem_cons.1 member with rfl | listed
      · exact wanted winner chosen
      · exact known route listed
  | inPlace => cases member
  | strays => exact known route (List.mem_filter.1 member).1

/-- Reads the default routes of a family again. -/
def reread (family : Family) : Step (Managed σ) Unit := do
  let routes ← Managed.onChannel (RouteChannel.dumpRoutes (some family))
  Managed.updateModel fun m => (m.resyncRoutes family routes).1

theorem withdrawAll_cons (route : Route) (rest : List Route) :
    (withdrawAll (route :: rest) : Step (Managed σ) Unit) =
      Managed.submit (RouteChannel.deleteRoute route) (·.recordWithdrawn route) >>=
        fun _ => withdrawAll rest := by
  simp only [withdrawAll, Managed.submit, bind_assoc]

theorem execute_install (route : Route) :
    (execute (.install route) : Step (Managed σ) Unit) =
      Managed.submit (RouteChannel.addRoute route) (·.recordInstalled route) := rfl

theorem execute_replace (old : List Route) (new : Route) :
    (execute (.replace old new) : Step (Managed σ) Unit) =
      Managed.submit (RouteChannel.replaceRoute new) (·.recordInstalled new) >>=
        fun _ => withdrawAll (leftovers old new) := by
  simp only [execute, Managed.submit, bind_assoc]

theorem runFrom_reread (family : Family) (t : Managed σ) :
    (reread family).runFrom t =
      match (RouteChannel.dumpRoutes (some family)).runFrom t.channel with
      | (.ok routes, channel) =>
          (.ok (), { t with
            channel := channel
            model := (t.model.resyncRoutes family routes).1 })
      | (.error error, channel) => (.error error, { t with channel := channel }) := by
  rw [reread, Step.runFrom_bind]
  simp only [Managed.onChannel, Step.runFrom_on]
  cases (RouteChannel.dumpRoutes (some family)).runFrom t.channel with
  | mk outcome channel =>
      cases outcome with
      | ok routes => rfl
      | error error => rfl

theorem channel_of_reread (family : Family) (t : Managed σ) :
    ((reread family).runFrom t).2.channel =
      ((RouteChannel.dumpRoutes (some family)).runFrom t.channel).2 := by
  rw [runFrom_reread]
  cases (RouteChannel.dumpRoutes (some family)).runFrom t.channel with
  | mk outcome channel =>
      cases outcome with
      | ok routes => rfl
      | error error => rfl

theorem resynced_eq (family : Family) (errno : Errno) :
    (do
      let routes ← Managed.onChannel (RouteChannel.dumpRoutes (some family))
      Managed.updateModel fun m => (m.resyncRoutes family routes).1
      return .resynced errno : Step (Managed σ) Status) =
      reread family >>= fun _ => pure (.resynced errno) := by
  simp only [reread, bind_assoc]

/-- How a reconciliation ends is how its action ends, settled if that has failed. -/
theorem runFrom_reconcile (t : Managed σ) (decision : Decision) :
    (reconcile decision).runFrom t =
      if (planned t decision).isNoOp then
        (.ok ⟨decision.family, planned t decision, .skipped⟩,
          t.withPending decision.family none)
      else
        match (execute (planned t decision)).runFrom t with
        | (.ok (), u) =>
            (.ok ⟨decision.family, planned t decision, .completed⟩,
              u.withPending decision.family none)
        | (.error error, u) =>
            ((settleFailure decision.family (planned t decision) error) >>= fun status =>
              pure ⟨decision.family, planned t decision, status⟩).runFrom u := by
  rw [reconcile, Step.runFrom_bind_of_ok (Step.runFrom_get t), planned]
  dsimp only
  generalize
    t.reconciler.plan (t.model.defaultRoutes decision.family) decision
      (winnerOif t.model decision) = action
  cases nothingToDo : action.isNoOp with
  | true => simp only [if_true]; rfl
  | false =>
      simp only [Bool.false_eq_true, if_false]
      rw [Step.runFrom_bind_of_ok (Step.runFrom_attempt _ t)]
      cases (execute action).runFrom t with
      | mk outcome u =>
          cases outcome with
          | ok _ => rfl
          | error error => rfl

/-! ## Properties kept throughout -/

variable {P : Managed σ → Prop}

theorem keeps_withdrawAll
    {routes : List Route}
    (each :
      ∀ route ∈ routes,
        Step.Keeps P
          (Managed.submit (RouteChannel.deleteRoute route) (·.recordWithdrawn route))) :
    Step.Keeps P (withdrawAll routes) := by
  induction routes with
  | nil => exact .pure ()
  | cons route rest inductionHypothesis =>
      rw [withdrawAll_cons]
      refine .bind (each route List.mem_cons_self) fun _ => ?_
      exact inductionHypothesis fun other later =>
        each other (List.mem_cons_of_mem _ later)

/-- A property that every single submission keeps is kept by an action. -/
theorem keeps_execute
    {action : Action}
    (adds :
      ∀ route ∈ action.sent,
        Step.Keeps P (Managed.submit (RouteChannel.addRoute route) (·.recordInstalled route)))
    (replaces :
      ∀ route ∈ action.sent,
        Step.Keeps P
          (Managed.submit (RouteChannel.replaceRoute route) (·.recordInstalled route)))
    (deletes :
      ∀ route ∈ action.sent,
        Step.Keeps P
          (Managed.submit (RouteChannel.deleteRoute route) (·.recordWithdrawn route))) :
    Step.Keeps P (execute action) := by
  cases action with
  | noOp => exact .pure ()
  | install route =>
      rw [execute_install]
      exact adds route List.mem_cons_self
  | replace old new =>
      rw [execute_replace]
      refine .bind (replaces new List.mem_cons_self) fun _ => ?_
      refine keeps_withdrawAll fun route left => deletes route ?_
      exact List.mem_cons_of_mem _ (List.mem_of_mem_eraseP left)
  | withdraw routes => exact keeps_withdrawAll deletes

theorem keeps_settleFailure
    {family : Family} (action : Action) (error : Error)
    (rereads : Step.Keeps P (reread family))
    (pending : ∀ t failure, P t → P (t.withPending family failure)) :
    Step.Keeps P (settleFailure family action error) := by
  rw [settleFailure]
  split
  · exact .throw error
  · rename_i errno _
    split
    · rw [resynced_eq]
      exact .bind rereads fun _ => .pure _
    · exact .bind (fun t held => pending t _ held) fun _ => .pure _

/-- A property that holds once the action is over, and that the settling keeps, holds at the
end. -/
theorem reconcile_keeps
    {t : Managed σ} {decision : Decision}
    (executed : P ((execute (planned t decision)).runFrom t).2)
    (rereads : Step.Keeps P (reread decision.family))
    (pending : ∀ t failure, P t → P (t.withPending decision.family failure)) :
    P ((reconcile decision).runFrom t).2 := by
  rw [runFrom_reconcile]
  split
  · rename_i nothingToDo
    have isNoOp : planned t decision = .noOp := by
      simpa [Action.isNoOp] using nothingToDo
    rw [isNoOp] at executed
    exact pending t none executed
  · cases ended : (execute (planned t decision)).runFrom t with
    | mk outcome u =>
        rw [ended] at executed
        cases outcome with
        | ok _ => exact pending u none executed
        | error error =>
            exact
              (Step.Keeps.bind (keeps_settleFailure _ error rereads pending)
                fun _ => .pure _) u executed

/-! ## What no reconciliation moves -/

section Undisturbed

variable {Q : Model → Prop}

omit [RouteChannel σ] in
/-- A property of the model is kept by a submission if the record keeps it. -/
theorem keeps_submit_of_record
    (request : Step σ Unit) {record : Model → Model} (recorded : ∀ m, Q m → Q (record m)) :
    Step.Keeps (fun t : Managed σ => Q t.model) (Managed.submit request record) := by
  intro t held
  rw [Managed.runFrom_submit]
  cases request.runFrom t.channel with
  | mk outcome channel =>
      cases outcome with
      | ok _ => exact recorded t.model held
      | error error => exact held

omit [RouteChannel σ] in
theorem isDefault_of_mem_planned
    {t : Managed σ} (tidy : t.model.Tidy) (decision : Decision)
    {route : Route} (member : route ∈ (planned t decision).sent) :
    route.isDefault = true :=
  forall_planned
    (fun other known => (Route.isManaged_iff.1 (tidy decision.family other known)).1)
    (fun _ _ => Route.isDefault_defaultVia ..) route member

/-- A reconciliation changes facts at most, and moves the ground of no selection. -/
theorem undisturbed_reconcile
    {t : Managed σ} {decision : Decision}
    (onDefault : ∀ route ∈ (planned t decision).sent, route.isDefault = true) :
    Model.Undisturbed t.model ((reconcile decision).runFrom t).2.model := by
  have executed :
      Step.Keeps (fun u : Managed σ => Model.Undisturbed t.model u.model)
        (execute (planned t decision)) := by
    have installs (request : Step σ Unit) (route : Route)
        (member : route ∈ (planned t decision).sent) :
        Step.Keeps (fun u : Managed σ => Model.Undisturbed t.model u.model)
          (Managed.submit request (·.recordInstalled route)) :=
      keeps_submit_of_record request fun m held =>
        held.trans (Model.undisturbed_recordInstalled m (onDefault route member))
    refine keeps_execute (fun route => installs _ route) (fun route => installs _ route)
      fun route member => keeps_submit_of_record _ fun m held => ?_
    exact held.trans (Model.undisturbed_recordWithdrawn m (onDefault route member))
  refine reconcile_keeps (P := fun u => Model.Undisturbed t.model u.model)
    (executed t (.refl t.model)) ?_ fun u failure held => held
  intro u held
  rw [runFrom_reread]
  cases (RouteChannel.dumpRoutes (some decision.family)).runFrom u.channel with
  | mk outcome channel =>
      cases outcome with
      | ok routes =>
          exact held.trans (Model.undisturbed_resyncRoutes u.model decision.family routes)
      | error error => exact held

end Undisturbed

/-! ## What every reconciliation leaves as it is -/

/-- One state goes on from another: facts may differ, and the settings are the same. -/
structure Continues (t u : Managed σ) : Prop where
  updated : Model.UpdatesFacts t.model u.model
  table : u.reconciler.table = t.reconciler.table
  metric : u.reconciler.metric = t.reconciler.metric

theorem continues_reconcile (t : Managed σ) (decision : Decision) :
    Continues t ((reconcile decision).runFrom t).2 := by
  have submits (request : Step σ Unit) {record : Model → Model}
      (recorded : ∀ m, Model.UpdatesFacts m (record m)) :
      Step.Keeps (Continues t) (Managed.submit request record) := by
    intro u continues
    rw [Managed.runFrom_submit]
    cases request.runFrom u.channel with
    | mk outcome channel =>
        cases outcome with
        | ok _ =>
            exact ⟨continues.updated.trans (recorded u.model), continues.table, continues.metric⟩
        | error error => exact ⟨continues.updated, continues.table, continues.metric⟩
  have installs (request : Step σ Unit) (route : Route) :
      Step.Keeps (Continues t) (Managed.submit request (·.recordInstalled route)) :=
    submits request fun m => Model.updatesFacts_addRoute m route true
  have executes : Step.Keeps (Continues t) (execute (planned t decision)) :=
    keeps_execute (fun route _ => installs _ route) (fun route _ => installs _ route)
      fun route _ => submits _ fun m => Model.updatesFacts_dropRoute m route
  have start : Continues t t := ⟨.refl t.model, rfl, rfl⟩
  refine reconcile_keeps (executes t start) ?_ fun u failure continues => ?_
  · intro u continues
    rw [runFrom_reread]
    cases (RouteChannel.dumpRoutes (some decision.family)).runFrom u.channel with
    | mk outcome channel =>
        cases outcome with
        | ok routes =>
            have reread := Model.updatesFacts_resyncRoutes u.model decision.family routes
            exact ⟨continues.updated.trans reread, continues.table, continues.metric⟩
        | error error => exact ⟨continues.updated, continues.table, continues.metric⟩
  · exact ⟨continues.updated, continues.table, continues.metric⟩

end Reconciler

end DefaultGateway
