import DefaultGateway.Proofs.Calm
import DefaultGateway.Proofs.Turns

/-!
# Where errors come from

The registrar refuses a call before anything else is done. Past that a call fails only with an
error that the channel has answered a request with: neither a reconciliation nor the settling of its
failure makes up an error of its own.
-/

namespace DefaultGateway

variable {σ α : Type}

/-- Some request to the channel may end with the error. -/
inductive RouteChannel.Raises (σ : Type) [RouteChannel σ] (error : Error) : Prop
  | dumpLinks (s : σ) (failed : (dumpLinks.runFrom s).1 = .error error)
  | dumpAddresses (s : σ) (failed : (dumpAddresses.runFrom s).1 = .error error)
  | dumpRoutes (s : σ) (family : Option Family)
      (failed : ((dumpRoutes family).runFrom s).1 = .error error)
  | addRoute (s : σ) (route : Route) (failed : ((addRoute route).runFrom s).1 = .error error)
  | replaceRoute (s : σ) (route : Route)
      (failed : ((replaceRoute route).runFrom s).1 = .error error)
  | deleteRoute (s : σ) (route : Route)
      (failed : ((deleteRoute route).runFrom s).1 = .error error)
  | reopen (s : σ) (failed : (reopen.runFrom s).1 = .error error)

namespace Step

/-- From wherever it starts, the step fails only with errors of the channel. -/
abbrev Sound (σ : Type) [RouteChannel σ] {τ : Type} (step : Step τ α) : Prop :=
  Within (fun _ => True) (RouteChannel.Raises σ) step

variable {τ : Type} [RouteChannel σ]

theorem sound_of_ok {step : Step τ α} (succeeds : ∀ t, ∃ a, (step.runFrom t).1 = .ok a) :
    step.Sound σ := by
  intro t _
  obtain ⟨a, ended⟩ := succeeds t
  cases outcome : step.runFrom t with
  | mk result after =>
      rw [outcome] at ended
      cases ended
      trivial

theorem sound_request
    {request : Step σ α}
    (raises : ∀ s error, (request.runFrom s).1 = .error error → RouteChannel.Raises σ error) :
    request.Sound σ := by
  intro s _
  have raised := raises s
  cases outcome : request.runFrom s with
  | mk result after =>
      rw [outcome] at raised
      cases result with
      | ok a => trivial
      | error error => exact ⟨trivial, raised error rfl⟩

/-- What a step does to a part of the state it may do to the whole. -/
theorem Sound.on
    {υ : Type} {step : Step τ α} (sound : step.Sound σ) (part : υ → τ) (withPart : υ → τ → υ) :
    (step.on part withPart).Sound σ := by
  intro u _
  have within := sound (part u) trivial
  rw [runFrom_on]
  cases outcome : step.runFrom (part u) with
  | mk result after =>
      rw [outcome] at within
      cases result with
      | ok a => trivial
      | error error => exact within

end Step

namespace Reconciler

variable [RouteChannel σ]

theorem sound_submit
    {request : Step σ Unit} (sound : request.Sound σ) (record : Model → Model) :
    (Managed.submit request record).Sound σ :=
  (sound.on _ _).bind fun _ => Step.sound_of_ok fun _ => ⟨_, rfl⟩

theorem sound_withdrawAll (routes : List Route) :
    (withdrawAll routes : Step (Managed σ) Unit).Sound σ := by
  induction routes with
  | nil => exact .pure ()
  | cons route rest inductionHypothesis =>
      rw [withdrawAll_cons]
      exact
        (sound_submit (Step.sound_request fun s _ failed => .deleteRoute s route failed) _).bind
          fun _ => inductionHypothesis

theorem sound_execute (action : Action) : (execute action : Step (Managed σ) Unit).Sound σ := by
  cases action with
  | noOp => exact .pure ()
  | install route =>
      exact sound_submit (Step.sound_request fun s _ failed => .addRoute s route failed) _
  | replace old new =>
      rw [execute_replace]
      exact
        (sound_submit (Step.sound_request fun s _ failed => .replaceRoute s new failed) _).bind
          fun _ => sound_withdrawAll _
  | withdraw routes => exact sound_withdrawAll routes

theorem sound_settleFailure
    (family : Family) (action : Action) {error : Error}
    (raised : RouteChannel.Raises σ error) :
    (settleFailure family action error : Step (Managed σ) Status).Sound σ := by
  rw [settleFailure]
  split
  · exact fun _ _ => ⟨trivial, raised⟩
  · split
    · refine .bind (Step.Sound.on (Step.sound_request fun s _ failed => ?_) _ _) fun _ => ?_
      · exact .dumpRoutes s (some family) failed
      · exact Step.sound_of_ok fun _ => ⟨_, rfl⟩
    · exact Step.sound_of_ok fun _ => ⟨_, rfl⟩

theorem sound_reconcile (decision : Decision) :
    (reconcile decision : Step (Managed σ) Report).Sound σ := by
  intro t _
  have executes := sound_execute (planned t decision) t trivial
  rw [runFrom_reconcile]
  by_cases idle : (planned t decision).isNoOp = true
  · rw [if_pos idle]
    trivial
  · rw [if_neg idle]
    cases ended : (execute (planned t decision)).runFrom t with
    | mk outcome u =>
        rw [ended] at executes
        cases outcome with
        | ok _ => trivial
        | error error =>
            exact
              (sound_settleFailure decision.family (planned t decision) executes.2).bind
                (fun _ => .pure _) u trivial

end Reconciler

namespace Engine

variable [RouteChannel σ]

theorem sound_onManaged {step : Step (Managed σ) α} (sound : step.Sound σ) :
    (onManaged step).Sound σ := by
  rw [onManaged]
  exact sound.on _ _

theorem sound_onChannel {request : Step σ α} (sound : request.Sound σ) :
    (onChannel request : Step (Engine σ) α).Sound σ :=
  sound_onManaged (sound.on _ _)

theorem sound_reevaluate (families : List Family) :
    (reevaluate families : Step (Engine σ) (List Report)).Sound σ := by
  induction families with
  | nil => exact .pure []
  | cons family rest inductionHypothesis =>
      exact
        .bind (Step.sound_of_ok fun _ => ⟨_, rfl⟩) fun e =>
          .bind (Step.sound_of_ok fun _ => ⟨_, rfl⟩) fun _ =>
            .bind (sound_onManaged (Reconciler.sound_reconcile _)) fun _ =>
              .bind inductionHypothesis fun _ => .pure _

theorem sound_gather : (gather : Step (Engine σ) (List Family)).Sound σ := by
  have reads : (RouteChannel.snapshot : Step σ Snapshot).Sound σ :=
    .bind (Step.sound_request fun s _ failed => .dumpLinks s failed) fun _ =>
      .bind (Step.sound_request fun s _ failed => .dumpAddresses s failed) fun _ =>
        .bind (Step.sound_request fun s _ failed => .dumpRoutes s none failed) fun _ => .pure _
  exact
    .bind (sound_onChannel reads) fun _ =>
      .bind (Step.sound_of_ok fun _ => ⟨_, rfl⟩) fun _ => .pure _

/-- A preparation fails only with a refusal by the registrar, which comes before anything else, or
with an error of the channel. -/
theorem raises_of_prepare
    {call : Call} {e after : Engine σ} {error : Error}
    (failed : call.prepare.runFrom e = (.error error, after)) :
    call.refusal? e = some error ∨ RouteChannel.Raises σ error := by
  have raises {step : Step (Engine σ) (List Family)} (sound : step.Sound σ)
      (ended : step.runFrom e = (.error error, after)) : RouteChannel.Raises σ error := by
    have within := sound e trivial
    rw [ended] at within
    exact within.2
  cases call with
  | seed => exact .inr (raises sound_gather failed)
  | resync => exact .inr (raises sound_gather failed)
  | recover =>
      have reopens : (onChannel RouteChannel.reopen : Step (Engine σ) Unit).Sound σ :=
        sound_onChannel (Step.sound_request fun s _ failed => .reopen s failed)
      exact .inr (raises (reopens.bind fun _ => sound_gather) failed)
  | handleEvent event => cases failed
  | handleEvents events => cases failed
  | register key gateway source =>
      simp only [Call.prepare] at failed
      cases checked : Registration.fault? key.family key.interface gateway source with
      | some fault =>
          rw [checked] at failed
          cases failed
          exact .inl (by simp [Call.refusal?, checked])
      | none =>
          rw [checked] at failed
          cases failed
  | update registration gateway source =>
      simp only [Call.prepare] at failed
      cases checked : Registration.fault? registration.key.family registration.key.interface
        gateway source with
      | some fault =>
          rw [checked] at failed
          cases failed
          exact .inl (by simp [Call.refusal?, checked])
      | none =>
          rw [checked] at failed
          dsimp only at failed
          rw [Step.runFrom_bind_of_ok (Step.runFrom_get e)] at failed
          split at failed
          · rename_i gone
            cases failed
            exact .inl (by simp only [Call.refusal?, checked, if_pos gone])
          · cases failed
  | withdraw registration =>
      simp only [Call.prepare] at failed
      rw [Step.runFrom_bind_of_ok (Step.runFrom_get e)] at failed
      split at failed
      · rename_i gone
        cases failed
        exact .inl (by simp only [Call.refusal?, if_pos gone])
      · cases failed
  | setDisabled disabled =>
      simp only [Call.prepare] at failed
      rw [Step.runFrom_bind_of_ok (runFrom_changeModel _ e)] at failed
      split at failed
      · cases failed
      · cases failed
  | reloadPolicy policy =>
      simp only [Call.prepare] at failed
      rw [Step.runFrom_bind_of_ok (Step.runFrom_get e)] at failed
      split at failed
      · cases failed
      · cases failed

/-- A call fails with an error of the channel, unless the registrar has refused it. -/
theorem raises_of_perform
    {call : Call} {e after : Engine σ} {error : Error}
    (failed : call.perform.runFrom e = (.error error, after)) :
    call.refusal? e = some error ∨ RouteChannel.Raises σ error := by
  rw [Call.perform_eq, Step.runFrom_bind] at failed
  cases prepared : call.prepare.runFrom e with
  | mk outcome ready =>
      rw [prepared] at failed
      cases outcome with
      | error other =>
          cases failed
          exact raises_of_prepare prepared
      | ok families =>
          have within := (sound_reevaluate (σ := σ) families).bind (fun _ => .pure ()) ready trivial
          dsimp only at failed
          rw [failed] at within
          exact .inr within.2

end Engine

end DefaultGateway
