import DefaultGateway.Kernel
import DefaultGateway.Proofs.Reconciler
import DefaultGateway.Registration

/-!
# Coherence of the decisions

After every call the decision of each family is the one that the present state calls for. A call
changes the ground of some families only, decides those anew, and reconciling leaves the ground of
both as it is.
-/

namespace DefaultGateway

/-- What the registrar asks of a gateway. -/
theorem Registration.fault?_eq_none_iff
    {family : Family} {interface : String} {gateway : Address} {source : Option Address} :
    fault? family interface gateway source = none ↔
      isInterfaceName interface = true ∧ family.contains gateway = true ∧
        gateway.isUnspecified = false ∧ gateway.isMulticast = false ∧
        ∀ a ∈ source, family.contains a = true := by
  unfold fault?
  cases isInterfaceName interface with
  | false => simp
  | true =>
      cases family.contains gateway with
      | false => simp
      | true =>
          cases gateway.isUnspecified with
          | true => simp
          | false =>
              cases gateway.isMulticast with
              | true => simp
              | false => cases source <;> simp

namespace Engine

variable {σ α : Type}

/-- The model is in order, and the decision of every family but those listed is up to date. -/
structure CoherentBut (e : Engine σ) (families : List Family) : Prop where
  tidy : e.model.Tidy
  consistent : ∀ c ∈ e.model.candidates, c.Consistent
  decided : ∀ family, family ∉ families → e.decision family = e.evaluate family

/-- The model is in order, and every decision is up to date. -/
def Coherent (e : Engine σ) : Prop := e.CoherentBut []

theorem Coherent.decision_eq
    {e : Engine σ} (coherent : e.Coherent) (family : Family) :
    e.decision family = e.evaluate family :=
  coherent.decided family List.not_mem_nil

theorem coherent_new (channel : σ) (settings : EngineSettings) (policy : Policy) :
    (new channel settings policy).Coherent where
  tidy := Model.tidy_empty settings.table
  consistent c member := absurd member (KeyedSet.not_mem_empty c)
  decided family _ := by cases family <;> rfl

/-- A change of facts outdates at most the families whose ground it moves. -/
theorem CoherentBut.withModel
    {e : Engine σ} {families more : List Family} (coherent : e.CoherentBut families)
    {m : Model} (updated : Model.UpdatesFacts e.model m)
    (ground : ∀ family, family ∉ more → Model.SameGround family e.model m)
    (subset : ∀ family ∈ families, family ∈ more) :
    CoherentBut { e with model := m } more where
  tidy := updated.tidy coherent.tidy
  consistent c member := by
    rw [updated.candidates] at member
    exact coherent.consistent c member
  decided family unlisted := by
    have former : e.decision family = e.evaluate family :=
      coherent.decided family fun listed => unlisted (subset family listed)
    exact former.trans <|
      (ground family unlisted).evaluate_eq coherent.consistent e.policy e.options

/-! ## Deciding anew -/

@[simp]
theorem runFrom_onManaged (step : Step (Managed σ) α) (e : Engine σ) :
    (onManaged step).runFrom e =
      ((step.runFrom e.toManaged).1,
        { e with toManaged := (step.runFrom e.toManaged).2 }) := rfl

/-- Deciding for one family and reconciling brings its decision up to date, and no other out of
date. -/
theorem CoherentBut.reconciled
    {e : Engine σ} {family : Family} {rest : List Family}
    (coherent : e.CoherentBut (family :: rest)) {t : Managed σ}
    (undisturbed : Model.Undisturbed e.model t.model) :
    CoherentBut
      { e with
        toManaged := t
        decisions := e.decisions.set family (e.evaluate family) } rest where
  tidy := undisturbed.updated.tidy coherent.tidy
  consistent c member := by
    rw [undisturbed.updated.candidates] at member
    exact coherent.consistent c member
  decided other unlisted := by
    have stillCalledFor : e.evaluate other = t.model.evaluate e.policy e.options other :=
      (undisturbed.ground other).evaluate_eq coherent.consistent e.policy e.options
    by_cases same : other = family
    · subst same
      exact (PerFamily.get_set_self e.decisions other _).trans stillCalledFor
    · have former : e.decision other = e.evaluate other :=
        coherent.decided other (by simp [same, unlisted])
      exact (PerFamily.get_set_of_ne e.decisions same _).trans
        (former.trans stillCalledFor)

variable [RouteChannel σ]

/-- When all families that may be out of date have been decided anew, none is. -/
theorem coherent_of_reevaluate
    {families : List Family} {e after : Engine σ} {reports : List Report}
    (coherent : e.CoherentBut families)
    (done : (reevaluate families).runFrom e = (.ok reports, after)) :
    after.Coherent := by
  induction families generalizing e reports with
  | nil =>
      cases done
      exact coherent
  | cons family rest inductionHypothesis =>
      -- One family less may be out of date once its decision is made and reconciled.
      rw [reevaluate, Step.runFrom_bind_of_ok (Step.runFrom_get e),
        Step.runFrom_bind_of_ok (Step.runFrom_set e _)] at done
      obtain ⟨report, reconciled, outcome, continued⟩ := Step.ok_of_runFrom_bind done
      obtain ⟨others, last, restDone, ended⟩ := Step.ok_of_runFrom_bind continued
      rw [runFrom_onManaged] at outcome
      cases ended
      obtain ⟨-, rfl⟩ := Prod.mk.inj outcome
      refine inductionHypothesis ?_ restDone
      exact coherent.reconciled
        (Reconciler.undisturbed_reconcile
          fun route => Reconciler.isDefault_of_mem_planned coherent.tidy (e.evaluate family))

/-! ## Calls -/

omit [RouteChannel σ] in
@[simp]
theorem runFrom_onChannel (step : Step σ α) (e : Engine σ) :
    (onChannel step).runFrom e =
      ((step.runFrom e.channel).1, { e with channel := (step.runFrom e.channel).2 }) := rfl

omit [RouteChannel σ] in
@[simp]
theorem runFrom_changeModel (change : Model → Model × α) (e : Engine σ) :
    (changeModel change).runFrom e =
      (.ok (change e.model).2, { e with model := (change e.model).1 }) := rfl

/-- When the kernel has been read, a resync decides on what there was to read. -/
theorem runFrom_resync
    {e : Engine σ} {snapshot : Snapshot} {channel : σ}
    (read : RouteChannel.snapshot.runFrom e.channel = (.ok snapshot, channel)) :
    resync.runFrom e =
      (reevaluate Family.all).runFrom
        { e with channel := channel, model := (e.model.replaceFacts snapshot).1 } := by
  have gathered :
      (onChannel RouteChannel.snapshot).runFrom e =
        (.ok snapshot, { e with channel := channel }) := by
    rw [runFrom_onChannel, read]
  rw [resync, Step.runFrom_bind_of_ok gathered, Step.runFrom_bind_of_ok (runFrom_changeModel _ _)]

omit [RouteChannel σ] in
/-- No decision depends on the channel. -/
theorem Coherent.withChannel
    {e : Engine σ} (coherent : e.Coherent) (channel : σ) :
    Coherent { e with channel := channel } :=
  ⟨coherent.tidy, coherent.consistent, coherent.decided⟩

theorem coherent_of_resync
    {e after : Engine σ} {reports : List Report} (coherent : e.Coherent)
    (done : resync.runFrom e = (.ok reports, after)) : after.Coherent := by
  obtain ⟨snapshot, reached, outcome, continued⟩ := Step.ok_of_runFrom_bind done
  rw [runFrom_onChannel] at outcome
  obtain ⟨-, rfl⟩ := Prod.mk.inj outcome
  rw [Step.runFrom_bind_of_ok (runFrom_changeModel _ _)] at continued
  refine coherent_of_reevaluate ?_ continued
  exact
    CoherentBut.withModel (coherent.withChannel _)
      (Model.updatesFacts_replaceFacts e.model snapshot)
      (fun family unlisted => absurd (Family.mem_all family) unlisted) (by simp)

theorem coherent_of_recover
    {e after : Engine σ} {reports : List Report} (coherent : e.Coherent)
    (done : recover.runFrom e = (.ok reports, after)) : after.Coherent := by
  obtain ⟨_, reached, outcome, continued⟩ := Step.ok_of_runFrom_bind done
  rw [runFrom_onChannel] at outcome
  obtain ⟨-, rfl⟩ := Prod.mk.inj outcome
  exact coherent_of_resync (coherent.withChannel _) continued

/-- A batch of events moves the ground of the families it reports, and of no others. -/
theorem applyEvents_spec (m : Model) (events : List Event) :
    Model.UpdatesFacts m (applyEvents m events).1 ∧
      ∀ family, family ∉ (applyEvents m events).2 →
        Model.SameGround family m (applyEvents m events).1 := by
  induction events generalizing m with
  | nil => exact ⟨.refl m, fun family _ => .refl family m⟩
  | cons event rest inductionHypothesis =>
      obtain ⟨updated, ground⟩ := inductionHypothesis (m.apply event).1
      refine ⟨(Model.updatesFacts_apply m event).trans updated, fun family unlisted => ?_⟩
      simp only [applyEvents] at unlisted ⊢
      cases changed : (m.apply event).2 with
      | false =>
          simp only [changed, Bool.false_eq_true, if_false] at unlisted
          exact (Model.sameGround_apply (.inr changed)).trans (ground family unlisted)
      | true =>
          simp only [changed, if_true, List.mem_append, not_or] at unlisted
          exact (Model.sameGround_apply (.inl unlisted.1)).trans (ground family unlisted.2)

theorem coherent_of_handleEvents
    {e after : Engine σ} {events : List Event} {reports : List Report}
    (coherent : e.Coherent)
    (done : (handleEvents events).runFrom e = (.ok reports, after)) :
    after.Coherent := by
  rw [handleEvents, Step.runFrom_bind_of_ok (runFrom_changeModel _ e)] at done
  obtain ⟨updated, ground⟩ := applyEvents_spec e.model events
  refine coherent_of_reevaluate ?_ done
  refine CoherentBut.withModel coherent updated (fun family unlisted => ?_) (by simp)
  refine ground family fun concerned => unlisted ?_
  simp [Family.mem_all, concerned]

/-- Another family's candidate has no part in the choice. -/
theorem sameGround_register
    {family : Family} {m : Model} {c : Candidate} (apart : family ≠ c.family) :
    Model.SameGround family m (m.register c).1 := by
  refine ⟨fun _ => rfl, fun _ _ => Iff.rfl, fun _ _ => Iff.rfl, ?_, rfl⟩
  refine (KeyedSet.filter_insert_of_refused ?_ ?_ |> congrArg KeyedSet.rows).symm
  · simpa using apart.symm
  · intro other member tie
    have sameKey : other.key = c.key := Std.LawfulEqOrd.eq_of_compare tie
    have sameFamily : other.family = c.family := congrArg Candidate.Key.family sameKey
    simpa [sameFamily] using apart.symm

theorem sameGround_withdraw
    {family : Family} {m : Model} {key : Candidate.Key} (apart : family ≠ key.family) :
    Model.SameGround family m (m.withdraw key).1 := by
  refine ⟨fun _ => rfl, fun _ _ => Iff.rfl, fun _ _ => Iff.rfl, ?_, rfl⟩
  refine (KeyedSet.filter_erase_of_refused ?_ |> congrArg KeyedSet.rows).symm
  intro other member tie
  have sameKey : other.key = key := Std.LawfulEqOrd.eq_of_compare tie
  have sameFamily : other.family = key.family := congrArg Candidate.Key.family sameKey
  simpa [sameFamily] using apart.symm

theorem coherent_of_registerCandidate
    {e after : Engine σ} {c : Candidate} {reports : List Report}
    (coherent : e.Coherent) (consistent : c.Consistent)
    (done : (registerCandidate c).runFrom e = (.ok reports, after)) :
    after.Coherent := by
  rw [registerCandidate, Step.runFrom_bind_of_ok (Step.runFrom_modify _ e),
    Step.runFrom_bind_of_ok (runFrom_changeModel _ _)] at done
  refine coherent_of_reevaluate ?_ done
  refine ⟨coherent.tidy, fun other member => ?_, ?_⟩
  · rcases KeyedSet.mem_insert.1 member with rfl | ⟨known, _⟩
    · exact consistent
    · exact coherent.consistent other known
  · intro family unlisted
    have apart : family ≠ c.family := by simpa using unlisted
    exact (coherent.decision_eq family).trans <|
      (sameGround_register apart).evaluate_eq coherent.consistent e.policy e.options

theorem coherent_of_withdrawCandidate
    {e after : Engine σ} {key : Candidate.Key}
    {answer : Option Candidate × List Report} (coherent : e.Coherent)
    (done : (withdrawCandidate key).runFrom e = (.ok answer, after)) :
    after.Coherent := by
  rw [withdrawCandidate, Step.runFrom_bind_of_ok (runFrom_changeModel _ e)] at done
  obtain ⟨reports, last, decided, ended⟩ := Step.ok_of_runFrom_bind done
  cases ended
  refine coherent_of_reevaluate ?_ decided
  refine ⟨coherent.tidy, fun other member => ?_, ?_⟩
  · exact coherent.consistent other (KeyedSet.mem_erase.1 member).1
  · intro family unlisted
    have apart : family ≠ key.family := by simpa using unlisted
    exact (coherent.decision_eq family).trans <|
      (sameGround_withdraw apart).evaluate_eq coherent.consistent e.policy e.options

theorem coherent_of_setDisabled
    {e after : Engine σ} {disabled : SortedSet Selector} {reports : List Report}
    (coherent : e.Coherent)
    (done : (setDisabled disabled).runFrom e = (.ok reports, after)) :
    after.Coherent := by
  rw [setDisabled, Step.runFrom_bind_of_ok (runFrom_changeModel _ e)] at done
  cases differs : (e.model.setDisabled disabled).2 with
  | false =>
      have same : disabled = e.model.disabled := by
        simpa [Model.setDisabled] using differs
      rw [differs] at done
      cases done
      subst same
      exact coherent
  | true =>
      rw [differs] at done
      have decided : (reevaluate Family.all).runFrom _ = (.ok reports, after) := done
      refine coherent_of_reevaluate ?_ decided
      exact ⟨coherent.tidy, coherent.consistent,
        fun family unlisted => absurd (Family.mem_all family) unlisted⟩

/-- Rules that are in force already change nothing. -/
theorem runFrom_reloadPolicy (policy : Policy) (e : Engine σ) :
    (reloadPolicy policy).runFrom e =
      if policy = e.policy then (.ok [], e)
      else (reevaluate Family.all).runFrom { e with policy := policy } := by
  rw [reloadPolicy, Step.runFrom_bind_of_ok (Step.runFrom_get e)]
  split
  · rfl
  · rw [Step.runFrom_bind_of_ok (Step.runFrom_set e _)]

theorem coherent_of_reloadPolicy
    {e after : Engine σ} {policy : Policy} {reports : List Report}
    (coherent : e.Coherent)
    (done : (reloadPolicy policy).runFrom e = (.ok reports, after)) :
    after.Coherent := by
  rw [runFrom_reloadPolicy] at done
  split at done
  · cases done
    exact coherent
  · refine coherent_of_reevaluate ?_ done
    exact ⟨coherent.tidy, coherent.consistent,
      fun family unlisted => absurd (Family.mem_all family) unlisted⟩

/-! ## Registrations -/

omit [RouteChannel σ] in
/-- What the registrar accepts keeps to one family. -/
theorem consistent_of_fault?_eq_none
    {key : Candidate.Key} {gateway : Address} {source : Option Address} {version : UInt64}
    (accepted : Registration.fault? key.family key.interface gateway source = none) :
    Candidate.Consistent
      ⟨key.protocol, key.family, key.interface, gateway, source, version⟩ := by
  obtain ⟨-, gatewayFits, -, -, sourceFits⟩ := Registration.fault?_eq_none_iff.1 accepted
  exact {
    gateway := by simpa [Family.contains] using gatewayFits
    source := fun a given => by simpa [Family.contains] using sourceFits a given }

theorem coherent_of_putCandidate
    {e after : Engine σ} {key : Candidate.Key} {gateway : Address}
    {source : Option Address} {registration : Registration} (coherent : e.Coherent)
    (accepted : Registration.fault? key.family key.interface gateway source = none)
    (done : (putCandidate key gateway source).runFrom e = (.ok registration, after)) :
    after.Coherent := by
  rw [putCandidate, nextVersion, Step.runFrom_bind_of_ok (Step.runFrom_change _ e)] at done
  obtain ⟨reports, last, registered, ended⟩ := Step.ok_of_runFrom_bind done
  cases ended
  have counted : Coherent { e with lastVersion := e.lastVersion + 1 } :=
    ⟨coherent.tidy, coherent.consistent, coherent.decided⟩
  exact
    coherent_of_registerCandidate counted (consistent_of_fault?_eq_none accepted) registered

/-! ## Runs -/

/-- What the daemon and its handlers ask of an engine. -/
inductive Call
  | seed
  | resync
  | recover
  | handleEvent (event : Event)
  | handleEvents (events : List Event)
  | register (key : Candidate.Key) (gateway : Address) (source : Option Address)
  | update (registration : Registration) (gateway : Address) (source : Option Address)
  | withdraw (registration : Registration)
  | setDisabled (disabled : SortedSet Selector)
  | reloadPolicy (policy : Policy)

namespace Call

def perform : Call → Step (Engine σ) Unit
  | .seed => do let _ ← Engine.seed
  | .resync => do let _ ← Engine.resync
  | .recover => do let _ ← Engine.recover
  | .handleEvent event => do let _ ← Engine.handleEvents [event]
  | .handleEvents events => do let _ ← Engine.handleEvents events
  | .register key gateway source => do let _ ← Engine.register key gateway source
  | .update registration gateway source => do
      let _ ← Engine.update registration gateway source
  | .withdraw registration => Engine.withdraw registration
  | .setDisabled disabled => do let _ ← Engine.setDisabled disabled
  | .reloadPolicy policy => do let _ ← Engine.reloadPolicy policy

omit [RouteChannel σ] in
/-- The error with which the registrar refuses a call, if it does: an invalid registration, or one
that is not live. -/
def refusal? (e : Engine σ) : Call → Option Error
  | .register key gateway source =>
      (Registration.fault? key.family key.interface gateway source).map (·.toError)
  | .update registration gateway source =>
      match Registration.fault? registration.key.family registration.key.interface
        gateway source with
      | some fault => some fault.toError
      | none =>
          if (e.model.candidate? registration.key).isNone then
            some (.unknownRegistration (toString registration.key))
          else none
  | .withdraw registration =>
      if (e.model.candidate? registration.key).isNone then
        some (.unknownRegistration (toString registration.key))
      else none
  | _ => none

end Call

/-- The engine after some calls, provided that each succeeds or is refused by the registrar. -/
def follow (e : Engine σ) : List Call → Option (Engine σ)
  | [] => some e
  | call :: rest =>
    match call.perform.runFrom e with
    | (.ok (), after) => after.follow rest
    | (.error error, after) =>
      if call.refusal? e = some error then after.follow rest else none

/-- A call that succeeds leaves every decision up to date. -/
theorem coherent_of_perform
    {e after : Engine σ} {call : Call} (coherent : e.Coherent)
    (done : call.perform.runFrom e = (.ok (), after)) : after.Coherent := by
  cases call with
  | seed =>
      obtain ⟨_, ended⟩ := Step.ok_of_runFrom_dropped done
      exact coherent_of_resync coherent ended
  | resync =>
      obtain ⟨_, ended⟩ := Step.ok_of_runFrom_dropped done
      exact coherent_of_resync coherent ended
  | recover =>
      obtain ⟨_, ended⟩ := Step.ok_of_runFrom_dropped done
      exact coherent_of_recover coherent ended
  | handleEvent event =>
      obtain ⟨_, ended⟩ := Step.ok_of_runFrom_dropped done
      exact coherent_of_handleEvents coherent ended
  | handleEvents events =>
      obtain ⟨_, ended⟩ := Step.ok_of_runFrom_dropped done
      exact coherent_of_handleEvents coherent ended
  | register key gateway source =>
      obtain ⟨_, ended⟩ := Step.ok_of_runFrom_dropped done
      rw [register] at ended
      split at ended
      · cases ended
      · rename_i accepted
        exact coherent_of_putCandidate coherent accepted ended
  | update registration gateway source =>
      obtain ⟨_, ended⟩ := Step.ok_of_runFrom_dropped done
      rw [update] at ended
      split at ended
      · cases ended
      · rename_i accepted
        rw [Step.runFrom_bind_of_ok (Step.runFrom_get e)] at ended
        split at ended
        · cases ended
        · exact coherent_of_putCandidate coherent accepted ended
  | withdraw registration =>
      simp only [Call.perform] at done
      rw [withdraw, Step.runFrom_bind_of_ok (Step.runFrom_get e)] at done
      split at done
      · cases done
      · obtain ⟨_, ended⟩ := Step.ok_of_runFrom_dropped done
        exact coherent_of_withdrawCandidate coherent ended
  | setDisabled disabled =>
      obtain ⟨_, ended⟩ := Step.ok_of_runFrom_dropped done
      exact coherent_of_setDisabled coherent ended
  | reloadPolicy policy =>
      obtain ⟨_, ended⟩ := Step.ok_of_runFrom_dropped done
      exact coherent_of_reloadPolicy coherent ended

/-- A refused call changes nothing. -/
theorem perform_of_refusal?
    {e : Engine σ} {call : Call} {error : Error} (refused : call.refusal? e = some error) :
    call.perform.runFrom e = (.error error, e) := by
  cases call with
  | register key gateway source =>
      obtain ⟨fault, found, rfl⟩ := Option.map_eq_some_iff.1 refused
      simp only [Call.perform, register, found]
      rfl
  | update registration gateway source =>
      cases checked : Registration.fault? registration.key.family
        registration.key.interface gateway source with
      | some fault =>
          have named : fault.toError = error := by
            simpa [Call.refusal?, checked] using refused
          subst named
          simp only [Call.perform, update, checked]
          rfl
      | none =>
          obtain ⟨gone, named⟩ :
              (e.model.candidate? registration.key).isNone = true ∧
                Error.unknownRegistration (toString registration.key) = error := by
            simpa [Call.refusal?, checked] using refused
          subst named
          simp only [Call.perform, update, checked]
          rw [Step.runFrom_bind_of_error]
          rw [Step.runFrom_bind_of_ok (Step.runFrom_get e), if_pos gone]
          rfl
  | withdraw registration =>
      simp only [Call.refusal?] at refused
      split at refused
      · rename_i gone
        cases refused
        simp only [Call.perform]
        rw [withdraw, Step.runFrom_bind_of_ok (Step.runFrom_get e), if_pos gone]
        rfl
      · cases refused
  | _ => cases refused

theorem coherent_of_follow
    {e after : Engine σ} {calls : List Call} (coherent : e.Coherent)
    (followed : e.follow calls = some after) : after.Coherent := by
  induction calls generalizing e with
  | nil =>
      cases followed
      exact coherent
  | cons call rest inductionHypothesis =>
      rw [follow] at followed
      split at followed
      · rename_i done
        exact inductionHypothesis (coherent_of_perform coherent done) followed
      · rename_i failed
        split at followed
        · rename_i refused
          rw [perform_of_refusal? refused] at failed
          cases failed
          exact inductionHypothesis coherent followed
        · cases followed

/-- After any calls the decision for each family is the one made afresh on the present state: no
change of the state leaves a decision behind. -/
theorem decision_eq_evaluate_of_follow
    {channel : σ} {settings : EngineSettings} {policy : Policy} {calls : List Call}
    {e : Engine σ} (followed : (new channel settings policy).follow calls = some e)
    (family : Family) :
    e.decision family = e.model.evaluate e.policy e.options family :=
  (coherent_of_follow (coherent_new channel settings policy) followed).decision_eq family

/-- A kernel with two interfaces that are up, each with an address. -/
def twoUplinks : Kernel.Session where
  kernel := {
    links := [⟨2, some "eth0", true⟩, ⟨3, some "wlan0", true⟩]
    addresses := [
      ⟨2, ⟨.v4 0x0a000005#32, 24, by decide⟩⟩, ⟨3, ⟨.v4 0x0a010005#32, 24, by decide⟩⟩] }

/-- A gateway is registered on each of two interfaces, a third is refused, and the interface of the
one chosen goes down. -/
def failover : List Call := [
  .seed,
  .register ⟨.dhcp, "eth0", .inet⟩ (.v4 0x0a000001#32) none,
  .register ⟨.dhcp, "wlan0", .inet⟩ (.v4 0x0a010001#32) none,
  .register ⟨.static, "eth0", .inet⟩ (.v4 0#32) none,
  .handleEvent (.linkDown ⟨3, some "wlan0", false⟩)]

/-- After the failover the other gateway is chosen, as it would be afresh. -/
theorem decision_eq_evaluate_after_failover :
    ∃ e, (new twoUplinks {} {}).follow failover = some e ∧
      (e.decision .inet).gateway = some (.v4 0x0a000001#32) ∧
      e.decision .inet = e.model.evaluate e.policy e.options .inet := by
  have chosen :
      ((new twoUplinks {} {}).follow failover).map
        (fun e => (e.decision .inet).gateway) = some (some (.v4 0x0a000001#32)) := by
    decide +kernel
  obtain ⟨e, followed, gateway⟩ := Option.map_eq_some_iff.1 chosen
  exact ⟨e, followed, gateway, decision_eq_evaluate_of_follow followed .inet⟩

end Engine

end DefaultGateway
