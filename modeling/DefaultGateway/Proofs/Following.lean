import DefaultGateway.Proofs.Reconciler

/-!
# Steps seen through a view

A state may hold more than a step needs. If the step ends as another does from what is seen of the
state, and leaves what the other leaves, it follows the other. A channel that answers as another
does can take its place: whatever is built on it follows what is built on the other.
-/

namespace DefaultGateway

variable {σ τ α β : Type}

namespace Step

/-- A step ends as another does from what is seen of its state, and leaves what the other
leaves. -/
def Follows (view : τ → σ) (step : Step τ α) (plain : Step σ α) : Prop :=
  ∀ t,
    plain.runFrom (view t) = ((step.runFrom t).1, view (step.runFrom t).2)

variable {view : τ → σ}

theorem Follows.pure (a : α) : Follows view (pure a : Step τ α) (pure a) := fun _ => rfl

theorem Follows.throw (error : Error) :
    Follows view (throw error : Step τ α) (throw error) := fun _ => rfl

theorem Follows.bind
    {step : Step τ α} {plain : Step σ α} {next : α → Step τ β} {plainNext : α → Step σ β}
    (first : Follows view step plain) (rest : ∀ a, Follows view (next a) (plainNext a)) :
    Follows view (step >>= next) (plain >>= plainNext) := by
  intro t
  rw [runFrom_bind, runFrom_bind, first t]
  cases step.runFrom t with
  | mk outcome u =>
      cases outcome with
      | ok a => exact rest a u
      | error error => rfl

/-- A step may look at the state, as long as what it does then follows what the other does on what
is seen of it. -/
theorem Follows.get_bind
    {next : τ → Step τ α} {plainNext : σ → Step σ α}
    (rest : ∀ t, Follows view (next t) (plainNext (view t))) :
    Follows view (get >>= next) (get >>= plainNext) := by
  intro t
  rw [runFrom_bind_of_ok (runFrom_get t), runFrom_bind_of_ok (runFrom_get (view t))]
  exact rest t t

theorem Follows.ended
    {step : Step τ α} {plain : Step σ α} (follows : Follows view step plain)
    {t u : τ} {outcome : Except Error α} (ended : step.runFrom t = (outcome, u)) :
    plain.runFrom (view t) = (outcome, view u) := by
  rw [follows t, ended]

/-- What is seen to end in a way does end in it. -/
theorem Follows.of_ended
    {step : Step τ α} {plain : Step σ α} (follows : Follows view step plain)
    {t : τ} {outcome : Except Error α} {u : σ}
    (ended : plain.runFrom (view t) = (outcome, u)) :
    ∃ v, step.runFrom t = (outcome, v) ∧ view v = u := by
  obtain ⟨same, reached⟩ := Prod.mk.inj ((follows t).symm.trans ended)
  exact ⟨(step.runFrom t).2, Prod.ext same rfl, reached⟩

theorem Follows.attempt
    {step : Step τ α} {plain : Step σ α} (follows : Follows view step plain) :
    Follows view step.attempt plain.attempt := by
  intro t
  rw [runFrom_attempt, runFrom_attempt, follows t]

end Step

/-- Every request to one channel is answered as by another. -/
structure RouteChannel.Follows [RouteChannel τ] [RouteChannel σ] (view : τ → σ) : Prop where
  dumpLinks : Step.Follows view RouteChannel.dumpLinks RouteChannel.dumpLinks
  dumpAddresses : Step.Follows view RouteChannel.dumpAddresses RouteChannel.dumpAddresses
  dumpRoutes :
    ∀ family,
      Step.Follows view (RouteChannel.dumpRoutes family) (RouteChannel.dumpRoutes family)
  addRoute :
    ∀ route, Step.Follows view (RouteChannel.addRoute route) (RouteChannel.addRoute route)
  replaceRoute :
    ∀ route,
      Step.Follows view (RouteChannel.replaceRoute route) (RouteChannel.replaceRoute route)
  deleteRoute :
    ∀ route,
      Step.Follows view (RouteChannel.deleteRoute route) (RouteChannel.deleteRoute route)
  reopen : Step.Follows view RouteChannel.reopen RouteChannel.reopen

namespace Managed

/-- The same with its channel seen through a view. -/
def seen (view : τ → σ) (t : Managed τ) : Managed σ where
  channel := view t.channel
  model := t.model
  reconciler := t.reconciler

variable {view : τ → σ}

theorem follows_onChannel
    {request : Step τ α} {plain : Step σ α} (follows : Step.Follows view request plain) :
    Step.Follows (seen view) (onChannel request) (onChannel plain) := by
  intro t
  simp only [onChannel, Step.runFrom_on, seen, follows t.channel]

theorem follows_submit
    {request : Step τ Unit} {plain : Step σ Unit}
    (follows : Step.Follows view request plain) (record : Model → Model) :
    Step.Follows (seen view) (submit request record) (submit plain record) :=
  .bind (follows_onChannel follows) fun _ _ => rfl

end Managed

/-! ## Reconciliations -/

namespace RouteChannel.Follows

open Managed Reconciler

variable [RouteChannel τ] [RouteChannel σ] {view : τ → σ} (follows : RouteChannel.Follows view)
include follows

theorem withdrawAll (routes : List Route) :
    Step.Follows (seen view) (Reconciler.withdrawAll routes)
      (Reconciler.withdrawAll routes) := by
  induction routes with
  | nil => exact .pure ()
  | cons route rest inductionHypothesis =>
      rw [withdrawAll_cons, withdrawAll_cons]
      exact .bind (follows_submit (follows.deleteRoute route) _) fun _ => inductionHypothesis

theorem execute (action : Action) :
    Step.Follows (seen view) (Reconciler.execute action) (Reconciler.execute action) := by
  cases action with
  | noOp => exact .pure ()
  | install route => exact follows_submit (follows.addRoute route) _
  | replace old new =>
      rw [execute_replace, execute_replace]
      exact .bind (follows_submit (follows.replaceRoute new) _) fun _ => follows.withdrawAll _
  | withdraw routes => exact follows.withdrawAll routes

theorem settleFailure (family : Family) (action : Action) (error : Error) :
    Step.Follows (seen view) (Reconciler.settleFailure family action error)
      (Reconciler.settleFailure family action error) := by
  rw [Reconciler.settleFailure, Reconciler.settleFailure]
  split
  · exact .throw error
  · split
    · exact .bind (follows_onChannel (follows.dumpRoutes _)) fun _ =>
        .bind (fun _ => rfl) fun _ => .pure _
    · exact .bind (fun _ => rfl) fun _ => .pure _

theorem reconcile (decision : Decision) :
    Step.Follows (seen view) (Reconciler.reconcile decision)
      (Reconciler.reconcile decision) := by
  intro t
  rw [runFrom_reconcile, runFrom_reconcile]
  have samePlan : planned (t.seen view) decision = planned t decision := rfl
  rw [samePlan]
  split
  · rfl
  · rw [follows.execute (planned t decision) t]
    cases (Reconciler.execute (planned t decision)).runFrom t with
    | mk outcome u =>
        cases outcome with
        | ok _ => rfl
        | error error =>
            exact Step.Follows.bind (follows.settleFailure _ _ error) (fun _ => .pure _) u

end RouteChannel.Follows

end DefaultGateway
