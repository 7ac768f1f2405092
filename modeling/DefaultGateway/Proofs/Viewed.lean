import DefaultGateway.Proofs.Sync

/-!
# Syncs seen through a view

Where a channel is answered as another is, a sync over it goes as one over the other: what the
engine is asked follows, and so does what is remembered of the store.
-/

namespace DefaultGateway

variable {σ τ α : Type} {view : τ → σ}

namespace Engine

variable [RouteChannel τ] [RouteChannel σ] (follows : RouteChannel.Follows view)
include follows

/-! ## Calls -/

theorem follows_resync : Step.Follows (seen view) resync resync :=
  .bind (follows_onManaged (Managed.follows_onChannel (follows_snapshot follows))) fun _ =>
    .bind (fun _ => rfl) fun _ => follows_reevaluate follows Family.all

theorem follows_putCandidate
    (key : Candidate.Key) (gateway : Address) (source : Option Address) :
    Step.Follows (seen view) (putCandidate key gateway source)
      (putCandidate key gateway source) := by
  have registers (c : Candidate) :
      Step.Follows (seen view) (registerCandidate c) (registerCandidate c) :=
    .bind (fun _ => rfl) fun _ => .bind (fun _ => rfl) fun _ => follows_reevaluate follows [c.family]
  exact .bind (fun _ => rfl) fun _ => .bind (registers _) fun _ => .pure _

theorem follows_register
    (key : Candidate.Key) (gateway : Address) (source : Option Address) :
    Step.Follows (seen view) (register key gateway source) (register key gateway source) := by
  rw [register, register]
  split
  · exact .throw _
  · exact follows_putCandidate follows key gateway source

theorem follows_update
    (registration : Registration) (gateway : Address) (source : Option Address) :
    Step.Follows (seen view) (update registration gateway source)
      (update registration gateway source) := by
  rw [update, update]
  split
  · exact .throw _
  · refine .get_bind fun e => ?_
    have same : (e.seen view).model = e.model := rfl
    rw [same]
    split
    · exact .throw _
    · exact follows_putCandidate follows registration.key gateway source

theorem follows_withdraw (registration : Registration) :
    Step.Follows (seen view) (withdraw registration) (withdraw registration) := by
  refine .get_bind fun e => ?_
  have same : (e.seen view).model = e.model := rfl
  rw [same]
  split
  · exact .throw _
  · exact
      .bind (.bind (fun _ => rfl) fun _ =>
        .bind (follows_reevaluate follows [registration.key.family]) fun _ => .pure _)
        fun _ => .pure _

theorem follows_setDisabled (disabled : SortedSet Selector) :
    Step.Follows (seen view) (setDisabled disabled) (setDisabled disabled) := by
  refine .bind (fun _ => rfl) fun changed => ?_
  split
  · exact follows_reevaluate follows Family.all
  · exact .pure _

end Engine

namespace Synced

/-- The same with the engine's channel seen through a view. -/
def seen (view : τ → σ) (s : Synced τ) : Synced σ := ⟨s.engine.seen view, s.applied⟩

theorem follows_onEngine
    {step : Step (Engine τ) α} {plain : Step (Engine σ) α}
    (follows : Step.Follows (Engine.seen view) step plain) :
    Step.Follows (seen view) (onEngine step) (onEngine plain) := by
  intro s
  simp only [onEngine, Step.runFrom_on, seen, follows s.engine]

variable [RouteChannel τ] [RouteChannel σ] (follows : RouteChannel.Follows view)
include follows

/-! ## Syncs -/

theorem follows_withdrawVanished (a : Applied) :
    Step.Follows (seen view) (withdrawVanished a) (withdrawVanished a) := by
  refine .bind (fun _ => rfl) fun _ => .bind ?_ fun outcome => ?_
  · exact (follows_onEngine (Engine.follows_withdraw follows a.registration)).attempt
  · split
    · exact .pure _
    · exact .pure _
    · exact .throw _

theorem follows_registerChanged (g : StoredGateway) :
    Step.Follows (seen view) (registerChanged g) (registerChanged g) := by
  intro s
  have admitted :
      Step.Follows (Engine.seen view) (s.admission g) ((s.seen view).admission g) := by
    have same : (s.seen view).applied = s.applied := rfl
    rw [admission, admission, same]
    split
    · exact Engine.follows_update follows _ g.address g.source
    · exact Engine.follows_register follows g.key g.address g.source
  have same : (s.seen view).engine = s.engine.seen view := rfl
  rw [runFrom_registerChanged, runFrom_registerChanged, same, admitted s.engine]
  cases (s.admission g).runFrom s.engine with
  | mk outcome after =>
      cases outcome with
      | ok registration => rfl
      | error error => rfl

omit [RouteChannel τ] [RouteChannel σ] follows in
theorem follows_countAll
    {β : Type} {step : β → Step (Synced τ) SyncSummary.Outcome}
    {plain : β → Step (Synced σ) SyncSummary.Outcome}
    (each : ∀ b, Step.Follows (seen view) (step b) (plain b)) (summary : SyncSummary)
    (l : List β) :
    Step.Follows (seen view) (countAll step summary l) (countAll plain summary l) := by
  induction l generalizing summary with
  | nil => exact .pure summary
  | cons b rest inductionHypothesis =>
      exact .bind (each b) fun outcome => inductionHypothesis (summary.add outcome)

theorem follows_apply (store : Store) :
    Step.Follows (seen view) (apply store) (apply store) := by
  refine .get_bind fun s => .bind ?_ fun summary => .get_bind fun t => .bind ?_ fun final => ?_
  · exact follows_countAll (follows_withdrawVanished follows) {} (s.vanished store)
  · exact follows_countAll (follows_registerChanged follows) summary (t.changed store)
  · exact
      .bind (follows_onEngine (Engine.follows_setDisabled follows store.disabled))
        fun _ => .pure _

end Synced

end DefaultGateway
