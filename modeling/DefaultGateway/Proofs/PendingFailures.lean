import Mathlib.Data.List.Induction
import DefaultGateway.Proofs.Settling

/-!
# Failures that wait

A refused action waits for the next evaluation, and what waits is an account of the reports so far:
a report that something was refused has it wait, and a report that all is well ends the waiting. A
report that the routes were read again does neither, so that a failure from before it goes on
waiting.
-/

namespace DefaultGateway

variable {σ : Type}

/-! ## What reports come to -/

/-- What waits after an action has ended in one of these ways, unless nothing is said about it. -/
def Status.verdict? (action : Action) : Status → Option (Option PendingFailure)
  | .skipped | .completed => some none
  | .resynced _ => none
  | .failedPending errno => some (some ⟨action, errno⟩)

namespace Report

def verdict? (r : Report) : Option (Option PendingFailure) := r.status.verdict? r.action

/-- What waits for a family after some reports, the last of which comes last. -/
def standing (family : Family) (reports : List Report) : Option PendingFailure :=
  ((reports.filter (·.family == family)).filterMap verdict?).getLast?.join

theorem standing_concat (family : Family) (reports : List Report) (r : Report) :
    standing family (reports ++ [r]) =
      if r.family = family then r.verdict?.getD (standing family reports)
      else standing family reports := by
  rw [standing, List.filter_append, List.filterMap_append]
  by_cases ours : r.family = family
  · rw [if_pos ours, List.filter_cons_of_pos (by simpa using ours), List.filter_nil]
    cases verdict : r.verdict? with
    | none => simp [verdict, standing]
    | some waits => simp [verdict]
  · rw [if_neg ours, List.filter_cons_of_neg (by simpa using ours)]
    simp [standing]

/-- Reports about the other family do not count. -/
theorem standing_append_of_ne {family : Family} {later : List Report}
    (apart : ∀ other ∈ later, other.family ≠ family) (reports : List Report) :
    standing family (reports ++ later) = standing family reports := by
  have others : later.filter (·.family == family) = [] := by
    simpa [List.filter_eq_nil_iff] using apart
  rw [standing, List.filter_append, others, List.append_nil, standing]

/-- A failure waits after a report of it, and after one that the routes were read again if it did
before. -/
theorem verdict?_getD_eq_some_iff {r : Report} {before : Option PendingFailure}
    {failure : PendingFailure} :
    r.verdict?.getD before = some failure ↔
      r.status = .failedPending failure.errno ∧ r.action = failure.action ∨
        (∃ errno, r.status = .resynced errno) ∧ before = some failure := by
  obtain ⟨family, action, status⟩ := r
  obtain ⟨refused, errno⟩ := failure
  cases status with
  | skipped => simp [verdict?, Status.verdict?]
  | completed => simp [verdict?, Status.verdict?]
  | resynced other => simp [verdict?, Status.verdict?]
  | failedPending other => simp [verdict?, Status.verdict?, and_comm]

end Report

/-! ## Reconciliations -/

namespace Reconciler

variable [RouteChannel σ]

theorem pending_settleFailure
    (family : Family) (action : Action) (error : Error) (t : Managed σ) :
    let ended := (settleFailure family action error).runFrom t
    ended.2.reconciler.pending =
      t.reconciler.pending.modify family (ended.1.toOption.bind (Status.verdict? action)).getD := by
  intro ended
  rw [PerFamily.modify]
  unfold ended settleFailure
  split
  · exact (PerFamily.set_get _ _).symm
  · split
    · rw [resynced_eq, Step.runFrom_bind, runFrom_reread]
      cases (RouteChannel.dumpRoutes (some family)).runFrom t.channel with
      | mk outcome channel =>
          cases outcome with
          | ok routes => exact (PerFamily.set_get _ _).symm
          | error error => exact (PerFamily.set_get _ _).symm
    · rfl

/-- Only what a reconciliation reports says what becomes of a failure that waits. -/
theorem pending_reconcile (decision : Decision) (t : Managed σ) :
    let ended := (reconcile decision).runFrom t
    ended.2.reconciler.pending =
      t.reconciler.pending.modify decision.family (ended.1.toOption.bind Report.verdict?).getD := by
  have executes := keeps_reconciler_execute t.reconciler (planned t decision) t rfl
  rw [runFrom_reconcile]
  split
  · rfl
  · cases executed : (execute (planned t decision)).runFrom t with
    | mk outcome u =>
        rw [executed] at executes
        dsimp only at executes
        cases outcome with
        | ok _ =>
            dsimp only
            rw [← executes]
            rfl
        | error error =>
            have settled := pending_settleFailure decision.family (planned t decision) error u
            dsimp only at settled ⊢
            rw [Step.runFrom_bind, ← executes]
            cases ended :
              (settleFailure decision.family (planned t decision) error).runFrom u with
            | mk result v =>
                rw [ended] at settled
                cases result with
                | ok status => exact settled
                | error other => exact settled

theorem family_of_reconcile
    {decision : Decision} {t u : Managed σ} {report : Report}
    (done : (reconcile decision).runFrom t = (.ok report, u)) :
    report.family = decision.family := by
  rw [runFrom_reconcile] at done
  split at done
  · cases done
    rfl
  · split at done
    · cases done
      rfl
    · obtain ⟨_, _, -, last⟩ := Step.ok_of_runFrom_bind done
      cases last
      rfl

end Reconciler

namespace Engine

section

variable [RouteChannel σ]

/-- What a turn reports, unless it fails. -/
def Turn.report? (turn : Turn σ) : Option Report := turn.outcome.1.toOption

/-- What waits for each family is what some reports come to. -/
def AccountedFor (e : Engine σ) (reports : List Report) : Prop :=
  ∀ family, e.reconciler.pending.get family = Report.standing family reports

/-! ## Turns and runs -/

theorem Turn.family_of_report? {turn : Turn σ} {report : Report}
    (reported : turn.report? = some report) : report.family = turn.family := by
  unfold report? at reported
  cases ended :
    (Reconciler.reconcile turn.decision).runFrom turn.engine.toManaged with
  | mk outcome t =>
      rw [outcome_of_reconcile ended] at reported
      cases outcome with
      | ok _ =>
          cases reported
          exact Reconciler.family_of_reconcile ended
      | error error => cases reported

theorem Turn.pending_outcome (turn : Turn σ) :
    turn.outcome.2.reconciler.pending =
      turn.engine.reconciler.pending.modify turn.family
        (turn.report?.bind Report.verdict?).getD :=
  Reconciler.pending_reconcile turn.decision turn.engine.toManaged

/-- A turn's report is one more of those that account for what waits. -/
theorem AccountedFor.outcome {turn : Turn σ} {told : List Report}
    (accounted : turn.engine.AccountedFor told) :
    turn.outcome.2.AccountedFor (told ++ turn.report?.toList) := by
  intro family
  rw [turn.pending_outcome, PerFamily.modify]
  cases reported : turn.report? with
  | none => simpa using accounted family
  | some report =>
      have itsFamily := Turn.family_of_report? reported
      rw [Option.toList_some, Report.standing_concat, itsFamily]
      by_cases ours : turn.family = family
      · subst ours
        rw [if_pos rfl, PerFamily.get_set_self, accounted]
        rfl
      · rw [if_neg ours, PerFamily.get_set_of_ne _ (Ne.symm ours), accounted]

/-- A preparation leaves alone what waits. -/
theorem keeps_accountedFor_prepare (reports : List Report) (task : Task) :
    Step.Keeps (fun e : Engine σ => e.AccountedFor reports) task.prepare :=
  task.keeps_prepare (fun _ accounted => accounted) (fun _ accounted => accounted)
    (fun _ _ accounted _ => accounted) (fun _ _ accounted => accounted)
    (fun _ _ _ accounted => accounted) (fun _ _ _ accounted => accounted)
    (fun _ _ _ accounted => accounted) fun _ _ accounted => accounted

theorem AccountedFor.reevaluate (families : List Family) {e : Engine σ} {told : List Report}
    (accounted : e.AccountedFor told) :
    ((Engine.reevaluate families).runFrom e).2.AccountedFor
      (told ++ (turnsOf families e).filterMap Turn.report?) := by
  rw [List.filterMap_eq_flatMap_toList]
  exact accrued_turnsOf (P := fun reports after => after.AccountedFor reports)
    (fun _ _ => AccountedFor.outcome) families accounted

/-- What waits after a run is what all the reports of its turns come to. -/
theorem AccountedFor.run (tasks : List Task) {e : Engine σ} {told : List Report}
    (accounted : e.AccountedFor told) :
    (e.run tasks).AccountedFor (told ++ (e.turns tasks).filterMap Turn.report?) := by
  rw [List.filterMap_eq_flatMap_toList]
  exact accrued_run (P := fun reports after => after.AccountedFor reports)
    keeps_accountedFor_prepare (fun _ _ => AccountedFor.outcome) tasks accounted

/-- When all families have had their turns, there is a report on each of them. -/
theorem reports_of_reevaluate {families : List Family} {e after : Engine σ}
    {reports : List Report} (decided : (reevaluate families).runFrom e = (.ok reports, after)) :
    (turnsOf families e).filterMap Turn.report? = reports ∧ reports.map (·.family) = families := by
  induction families generalizing e reports with
  | nil =>
      cases decided
      exact ⟨rfl, rfl⟩
  | cons family rest inductionHypothesis =>
      rw [runFrom_reevaluate_cons] at decided
      rw [turnsOf, List.filterMap_cons]
      cases ended : (Turn.mk family e).outcome with
      | mk outcome between =>
          rw [ended] at decided
          have reported : (Turn.mk family e).report? = outcome.toOption := by
            rw [Turn.report?, ended]
          cases outcome with
          | error error => cases decided
          | ok report =>
              obtain ⟨others, last, restDecided, done⟩ := Step.ok_of_runFrom_bind decided
              cases done
              obtain ⟨restReported, restFamilies⟩ := inductionHypothesis restDecided
              have itsFamily := Turn.family_of_report? reported
              rw [reported]
              simp [Except.toOption, restReported, restFamilies, itsFamily]

/-! ## Main result -/

/-- When something has been asked of an engine, after whatever else and of any channel, and all
families due have been decided for, there is a report on each, and what waits is what the reports
since the start come to. After the last report on a family a failure waits if the report says so,
and it is the one reported; or if the report is that the routes were read again, and that failure
was waiting before. -/
theorem pending_iff_latest_report
    (channel : σ) (settings : EngineSettings) (policy : Policy) (tasks : List Task) {task : Task}
    {families : List Family} {ready after : Engine σ} {reports : List Report}
    (prepared :
      task.prepare.runFrom ((new channel settings policy).run tasks) = (.ok families, ready))
    (decided : (reevaluate families).runFrom ready = (.ok reports, after)) :
    let told := ((new channel settings policy).turns tasks).filterMap Turn.report?
    task.perform.runFrom ((new channel settings policy).run tasks) = (.ok (), after) ∧
      reports.map (·.family) = families ∧
      (∀ family,
        after.reconciler.pending.get family = Report.standing family (told ++ reports)) ∧
      ∀ earlier report later, reports = earlier ++ report :: later →
        (∀ other ∈ later, other.family ≠ report.family) →
          ∀ failure,
            after.reconciler.pending.get report.family = some failure ↔
              report.status = .failedPending failure.errno ∧ report.action = failure.action ∨
                (∃ errno, report.status = .resynced errno) ∧
                  Report.standing report.family (told ++ earlier) = some failure := by
  intro told
  have started : (new channel settings policy).AccountedFor [] := fun family => by
    cases family <;> rfl
  have accounted : ((new channel settings policy).run tasks).AccountedFor told := by
    simpa using started.run tasks
  have accountedReady := keeps_accountedFor_prepare told task _ accounted
  rw [prepared] at accountedReady
  have accountedAfter := accountedReady.reevaluate families
  obtain ⟨reported, itsFamilies⟩ := reports_of_reevaluate decided
  rw [decided, reported] at accountedAfter
  refine ⟨?_, itsFamilies, accountedAfter, ?_⟩
  · rw [task.perform_eq, Step.runFrom_bind_of_ok prepared, Step.runFrom_bind_of_ok decided]
    rfl
  · rintro earlier report later rfl last failure
    have split :
        told ++ (earlier ++ report :: later) = told ++ earlier ++ [report] ++ later := by simp
    rw [accountedAfter, split, Report.standing_append_of_ne last, Report.standing_concat,
      if_pos rfl]
    exact Report.verdict?_getD_eq_some_iff

end

/-- Two interfaces with the first two requests for a change refused: not permitted, and then because
there is such a route. -/
def refusing : Kernel.Session :=
  { twoUplinks with mutationFaults := [some (.refused ⟨1⟩), some (.refused ⟨17⟩)] }

def wiredRoute : Route := .defaultVia .inet (.v4 0x0a000001#32) (some 2) 254 0

def wiredRegistration : Task := .call (.register ⟨.dhcp, "eth0", .inet⟩ (.v4 0x0a000001#32) none)

/-- The engine that has been asked for the registration, before it decides. -/
def asked : Engine Kernel.Session :=
  (wiredRegistration.prepare.runFrom ((new refusing {} {}).run [.call .seed])).2

theorem pending_iff_latest_report_refused :
    let decided := (reevaluate [.inet]).runFrom asked
    (wiredRegistration.prepare.runFrom ((new refusing {} {}).run [.call .seed])).1 = .ok [.inet] ∧
      decided.1 = .ok [⟨.inet, .install wiredRoute, .failedPending ⟨1⟩⟩] ∧
      decided.2.reconciler.pending.get .inet = some ⟨.install wiredRoute, ⟨1⟩⟩ := by
  have prepared :
      (wiredRegistration.prepare.runFrom ((new refusing {} {}).run [.call .seed])).1 =
        .ok [.inet] := by
    decide +kernel
  have decided :
      ((reevaluate [.inet]).runFrom asked).1 =
        .ok [⟨.inet, .install wiredRoute, .failedPending ⟨1⟩⟩] := by
    decide +kernel
  obtain ⟨-, -, -, waits⟩ :=
    pending_iff_latest_report refusing {} {} [.call .seed] (Step.runFrom_eq_of_ok prepared)
      (Step.runFrom_eq_of_ok decided)
  exact ⟨prepared, decided, (waits [] _ [] rfl (by simp) _).2 (.inl ⟨rfl, rfl⟩)⟩

/-- The report is that the routes were read again after a refusal, and what waits is the failure of
another refusal, reported before it. -/
theorem waits_though_read_again :
    let ended := resync.runFrom ((new refusing {} {}).run [.call .seed, wiredRegistration])
    ended.1 =
        .ok [⟨.inet, .install wiredRoute, .resynced ⟨17⟩⟩, ⟨.inet6, .noOp, .skipped⟩] ∧
      ended.2.reconciler.pending.get .inet = some ⟨.install wiredRoute, ⟨1⟩⟩ := by
  decide +kernel

end Engine

end DefaultGateway
