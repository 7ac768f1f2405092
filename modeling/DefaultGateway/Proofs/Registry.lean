import DefaultGateway.Proofs.Turns

/-!
# Registrations

What a call leaves of the registrations does not depend on what becomes of the reconciliation that
ends it: a candidate that was put in stays in even if the kernel can no longer be reached.
-/

namespace DefaultGateway.Engine

variable {σ : Type} {e after : Engine σ}

/-- Two engines hold the same registrations. -/
structure SameRegistry (e after : Engine σ) : Prop where
  candidates : after.model.candidates = e.model.candidates
  disabled : after.model.disabled = e.model.disabled
  lastVersion : after.lastVersion = e.lastVersion

theorem SameRegistry.refl (e : Engine σ) : SameRegistry e e := ⟨rfl, rfl, rfl⟩

theorem SameRegistry.trans
    {last : Engine σ} (first : SameRegistry e after) (second : SameRegistry after last) :
    SameRegistry e last where
  candidates := second.candidates.trans first.candidates
  disabled := second.disabled.trans first.disabled
  lastVersion := second.lastVersion.trans first.lastVersion

def freshCandidate
    (e : Engine σ) (key : Candidate.Key) (gateway : Address) (source : Option Address) :
    Candidate :=
  ⟨key.protocol, key.family, key.interface, gateway, source, e.lastVersion + 1⟩

/-- The engine with a candidate put in under the next version. -/
def entered (e : Engine σ) (c : Candidate) : Engine σ :=
  { e with model := (e.model.register c).1, lastVersion := e.lastVersion + 1 }

variable [RouteChannel σ]

theorem sameRegistry_outcome (turn : Turn σ) : SameRegistry turn.engine turn.outcome.2 where
  candidates := (Reconciler.continues_reconcile ..).updated.candidates
  disabled := (Reconciler.continues_reconcile ..).updated.disabled
  lastVersion := rfl

theorem sameRegistry_reevaluate (families : List Family) (e : Engine σ) :
    SameRegistry e ((reevaluate families).runFrom e).2 := by
  refine (forall_turnsOf (P := SameRegistry e) (fun turn same => ?_) families ⟨rfl, rfl, rfl⟩).2
  exact same.trans (sameRegistry_outcome turn)

/-! ## Steps that keep the registrations -/

section Kept

variable {start : Engine σ}

theorem keeps_registry_reevaluate (families : List Family) :
    Step.Keeps (SameRegistry start) (reevaluate families) :=
  fun e same => same.trans (sameRegistry_reevaluate families e)

omit [RouteChannel σ] in
/-- What is learnt of the kernel leaves the registrations as they are. -/
theorem SameRegistry.withFacts
    {m : Model} (same : SameRegistry start e) (updated : Model.UpdatesFacts e.model m) :
    SameRegistry start { e with model := m } where
  candidates := updated.candidates.trans same.candidates
  disabled := updated.disabled.trans same.disabled
  lastVersion := same.lastVersion

omit [RouteChannel σ] in
theorem keeps_registry_onChannel {α : Type} (step : Step σ α) :
    Step.Keeps (SameRegistry start) (onChannel step) :=
  fun _ same => ⟨same.candidates, same.disabled, same.lastVersion⟩

theorem keeps_registry_resync : Step.Keeps (SameRegistry start) resync :=
  .bind (keeps_registry_onChannel _) fun snapshot =>
    .bind (fun e same => same.withFacts (Model.updatesFacts_replaceFacts e.model snapshot))
      fun _ => keeps_registry_reevaluate _

theorem keeps_registry_recover : Step.Keeps (SameRegistry start) recover :=
  .bind (keeps_registry_onChannel _) fun _ => keeps_registry_resync

theorem keeps_registry_handleEvents (events : List Event) :
    Step.Keeps (SameRegistry start) (handleEvents events) :=
  .bind (fun e same => same.withFacts (applyEvents_spec e.model events).1)
    fun _ => keeps_registry_reevaluate _

theorem keeps_registry_reloadPolicy (policy : Policy) :
    Step.Keeps (SameRegistry start) (reloadPolicy policy) := by
  intro e same
  rw [runFrom_reloadPolicy]
  split
  · exact same
  · exact keeps_registry_reevaluate _ _ ⟨same.candidates, same.disabled, same.lastVersion⟩

end Kept

theorem runFrom_putCandidate
    (key : Candidate.Key) (gateway : Address) (source : Option Address) (e : Engine σ) :
    (putCandidate key gateway source).runFrom e =
      (reevaluate [key.family] >>= fun _ => pure ⟨key, e.lastVersion + 1⟩).runFrom
        (e.entered (e.freshCandidate key gateway source)) := by
  have highest : max (e.lastVersion + 1) (e.lastVersion + 1) = e.lastVersion + 1 := ite_self _
  rw [putCandidate, nextVersion, Step.runFrom_bind_of_ok (Step.runFrom_change _ e)]
  simp only [registerCandidate, bind_assoc]
  rw [Step.runFrom_bind_of_ok (Step.runFrom_modify _ _),
    Step.runFrom_bind_of_ok (runFrom_changeModel _ _), highest]
  rfl

theorem sameRegistry_putCandidate
    {key : Candidate.Key} {gateway : Address} {source : Option Address}
    {outcome : Except Error Registration}
    (ended : (putCandidate key gateway source).runFrom e = (outcome, after)) :
    SameRegistry (e.entered (e.freshCandidate key gateway source)) after ∧
      ∀ registration, outcome = .ok registration →
        registration = ⟨key, e.lastVersion + 1⟩ := by
  rw [runFrom_putCandidate] at ended
  have same :=
    sameRegistry_reevaluate [key.family] (e.entered (e.freshCandidate key gateway source))
  have state := congrArg Prod.snd ended
  rw [Step.state_bind_pure] at state
  subst state
  refine ⟨same, fun registration done => ?_⟩
  subst done
  obtain ⟨_, _, _, last⟩ := Step.ok_of_runFrom_bind ended
  cases last
  rfl

/-- A registration is refused before anything has changed, or the candidate is put in. -/
theorem put_of_register
    {key : Candidate.Key} {gateway : Address} {source : Option Address}
    {outcome : Except Error Registration}
    (ended : (register key gateway source).runFrom e = (outcome, after)) :
    (after = e ∧ ∃ error, outcome = .error error) ∨
      (putCandidate key gateway source).runFrom e = (outcome, after) := by
  rw [register] at ended
  split at ended
  · cases ended
    exact .inl ⟨rfl, _, rfl⟩
  · exact .inr ended

theorem put_of_update
    {registration : Registration} {gateway : Address} {source : Option Address}
    {outcome : Except Error Registration}
    (ended : (update registration gateway source).runFrom e = (outcome, after)) :
    (after = e ∧ ∃ error, outcome = .error error) ∨
      (putCandidate registration.key gateway source).runFrom e = (outcome, after) := by
  rw [update] at ended
  split at ended
  · cases ended
    exact .inl ⟨rfl, _, rfl⟩
  · rw [Step.runFrom_bind_of_ok (Step.runFrom_get e)] at ended
    split at ended
    · cases ended
      exact .inl ⟨rfl, _, rfl⟩
    · exact .inr ended

/-- By a registration of whatever version, what is live under its key is updated. -/
theorem runFrom_update_of_live
    (registration : Registration) {gateway : Address} {source : Option Address}
    (accepted :
      Registration.fault? registration.key.family registration.key.interface gateway source =
        none)
    (live : (e.model.candidate? registration.key).isSome = true) :
    (update registration gateway source).runFrom e =
      (putCandidate registration.key gateway source).runFrom e := by
  have known : ¬(e.model.candidate? registration.key).isNone = true := by
    simp [Option.isSome_iff_ne_none.1 live]
  rw [update, accepted]
  dsimp only
  rw [Step.runFrom_bind_of_ok (Step.runFrom_get e), if_neg known]

theorem runFrom_withdraw_of_live
    (registration : Registration)
    (live : (e.model.candidate? registration.key).isSome = true) :
    (withdraw registration).runFrom e =
      (withdrawCandidate registration.key >>= fun _ => pure ()).runFrom e := by
  have known : ¬(e.model.candidate? registration.key).isNone = true := by
    simp [Option.isSome_iff_ne_none.1 live]
  rw [withdraw, Step.runFrom_bind_of_ok (Step.runFrom_get e), if_neg known]

/-- A withdrawal takes the candidate away even if it fails later on. -/
theorem state_withdraw (registration : Registration) (e : Engine σ) :
    let after := ((withdraw registration).runFrom e).2
    after.model.candidates = e.model.candidates.erase registration.key ∧
      after.model.disabled = e.model.disabled ∧ after.lastVersion = e.lastVersion := by
  intro after
  have state :
      after =
        if (e.model.candidate? registration.key).isNone then e
        else ((reevaluate [registration.key.family]).runFrom
          { e with model := (e.model.withdraw registration.key).1 }).2 := by
    simp only [after, withdraw]
    rw [Step.runFrom_bind_of_ok (Step.runFrom_get e)]
    split
    · rfl
    · rw [Step.state_bind_pure, withdrawCandidate,
        Step.runFrom_bind_of_ok (runFrom_changeModel _ e), Step.state_bind_pure]
  rw [state]
  split
  · rename_i absent
    refine ⟨(KeyedSet.erase_of_find?_eq_none ?_).symm, rfl, rfl⟩
    simpa [Model.candidate?] using absent
  · have same := sameRegistry_reevaluate [registration.key.family]
      { e with model := (e.model.withdraw registration.key).1 }
    exact ⟨same.candidates, same.disabled, same.lastVersion⟩

/-- Where the selectors are the same as before, nothing is decided anew. -/
theorem runFrom_setDisabled (disabled : SortedSet Selector) (e : Engine σ) :
    (setDisabled disabled).runFrom e =
      (reevaluate (if (e.model.setDisabled disabled).2 then Family.all else [])).runFrom
        { e with model := (e.model.setDisabled disabled).1 } := by
  rw [setDisabled, Step.runFrom_bind_of_ok (runFrom_changeModel _ e)]
  split
  · rfl
  · rfl

theorem state_setDisabled (disabled : SortedSet Selector) (e : Engine σ) :
    let after := ((setDisabled disabled).runFrom e).2
    after.model.candidates = e.model.candidates ∧
      after.model.disabled = disabled ∧ after.lastVersion = e.lastVersion := by
  rw [runFrom_setDisabled]
  have same :=
    sameRegistry_reevaluate (if (e.model.setDisabled disabled).2 then Family.all else [])
      { e with model := (e.model.setDisabled disabled).1 }
  exact ⟨same.candidates, same.disabled, same.lastVersion⟩

/-- Whatever is asked of the engine but to register or withdraw, the candidates stay. -/
theorem candidates_perform
    {task : Task} (unregistered : task.registers = false) (e : Engine σ) :
    (task.perform.runFrom e).2.model.candidates = e.model.candidates := by
  have prepares :
      Step.Keeps (fun after : Engine σ => after.model.candidates = e.model.candidates)
        task.prepare :=
    task.keeps_prepare (fun _ same => same) (fun _ same => same)
      (fun _ _ same updated => updated.candidates.trans same) (fun _ _ same => same)
      (fun registers => by simp [unregistered] at registers)
      (fun registers => by simp [unregistered] at registers)
      (fun _ _ _ same => same) fun _ _ same => same
  exact
    (Task.forall_turns prepares
      (fun turn same => (sameRegistry_outcome turn).candidates.trans same) rfl).2

/-- A call that neither registers nor withdraws takes no version. -/
theorem lastVersion_of_undemanded
    {task : Task} (unregistered : task.registers = false) (undemanded : task ≠ .nextVersion)
    (e : Engine σ) : (task.perform.runFrom e).2.lastVersion = e.lastVersion := by
  have prepares :
      Step.Keeps (fun after : Engine σ => after.lastVersion = e.lastVersion) task.prepare :=
    task.keeps_prepare (fun _ same => same) (fun _ same => same) (fun _ _ same _ => same)
      (fun _ _ same => same) (fun registers => by simp [unregistered] at registers)
      (fun registers => by simp [unregistered] at registers)
      (fun counts => by simp [unregistered, undemanded] at counts) fun _ _ same => same
  exact
    (Task.forall_turns prepares
      (fun turn same => (sameRegistry_outcome turn).lastVersion.trans same) rfl).2

/-- Versions are given out to registrations only, or one at a time on demand. -/
theorem lastVersion_perform
    {task : Task} (unregistered : task.registers = false) (e : Engine σ) :
    (task.perform.runFrom e).2.lastVersion = e.lastVersion ∨
      (task.perform.runFrom e).2.lastVersion = e.lastVersion + 1 := by
  by_cases onDemand : task = .nextVersion
  · subst onDemand
    exact .inr rfl
  · exact .inl (lastVersion_of_undemanded unregistered onDemand e)

end DefaultGateway.Engine
