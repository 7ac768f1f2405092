import DefaultGateway.Kernel
import DefaultGateway.Proofs.Following

/-!
# Recorded channels

A recorded channel keeps a log of the requests put to it, and otherwise behaves as the channel
does. A reconciliation puts a first part of the requests that its action calls for, in their order,
and after a refusal may read the routes again.
-/

namespace DefaultGateway

variable {σ α : Type}

/-- A channel with the requests put to it so far. -/
structure Recorded (σ : Type) where
  channel : σ
  log : List Kernel.Request

namespace Recorded

open Kernel (Request)

def fresh (channel : σ) : Recorded σ := ⟨channel, []⟩

/-- Puts a request to the channel, and notes it whatever the answer. -/
def ask (request : Request) (step : Step σ α) : Step (Recorded σ) α :=
  Step.of fun r =>
    ((step.runFrom r.channel).1, ⟨(step.runFrom r.channel).2, r.log ++ [request]⟩)

instance [RouteChannel σ] : RouteChannel (Recorded σ) where
  dumpLinks := ask .dumpLinks RouteChannel.dumpLinks
  dumpAddresses := ask .dumpAddresses RouteChannel.dumpAddresses
  dumpRoutes family := ask (.dumpRoutes family) (RouteChannel.dumpRoutes family)
  addRoute route := ask (.add route) (RouteChannel.addRoute route)
  replaceRoute route := ask (.replace route) (RouteChannel.replaceRoute route)
  deleteRoute route := ask (.delete route) (RouteChannel.deleteRoute route)
  reopen := ask .reopen RouteChannel.reopen

theorem follows [RouteChannel σ] :
    RouteChannel.Follows (channel : Recorded σ → σ) where
  dumpLinks _ := rfl
  dumpAddresses _ := rfl
  dumpRoutes _ _ := rfl
  addRoute _ _ := rfl
  replaceRoute _ _ := rfl
  deleteRoute _ _ := rfl
  reopen _ := rfl

end Recorded

/-- Whether a request asks for a change of the kernel's routes. -/
def Kernel.Request.changesRoutes : Kernel.Request → Bool
  | .add _ | .replace _ | .delete _ => true
  | _ => false

/-- What an action asks of the kernel as long as everything is granted. -/
def Action.requests : Action → List Kernel.Request
  | .noOp => []
  | .install route => [.add route]
  | .replace old new => .replace new :: (Reconciler.leftovers old new).map .delete
  | .withdraw routes => routes.map .delete

/-! ## The requests of a reconciliation -/

namespace Reconciler

open Kernel (Request)

variable {t : Managed (Recorded σ)}

/-- A step puts some of the given requests, in order and from the first on, and no other. -/
def Asks (step : Step (Managed (Recorded σ)) α) (requests : List Request) : Prop :=
  ∀ t, ∃ issued,
    issued <+: requests ∧ (step.runFrom t).2.channel.log = t.channel.log ++ issued

theorem asks_of_log_eq
    {step : Step (Managed (Recorded σ)) α} {requests : List Request}
    (unasked : ∀ t, (step.runFrom t).2.channel.log = t.channel.log) : Asks step requests :=
  fun t => ⟨[], List.nil_prefix, (unasked t).trans (List.append_nil _).symm⟩

/-- What follows a submission is asked only if the submission is granted. -/
theorem Asks.submit_bind
    {rest : Step (Managed (Recorded σ)) α} {requests : List Request} (asks : Asks rest requests)
    (request : Request) (step : Step σ Unit) (record : Model → Model) :
    Asks (Managed.submit (Recorded.ask request step) record >>= fun _ => rest)
      (request :: requests) := by
  intro t
  have asked :
      ((Managed.submit (Recorded.ask request step) record).runFrom t).2.channel.log =
        t.channel.log ++ [request] := by
    rw [Managed.channel_of_submit]
    rfl
  rw [Step.runFrom_bind]
  cases submitted : (Managed.submit (Recorded.ask request step) record).runFrom t with
  | mk outcome u =>
      rw [submitted] at asked
      cases outcome with
      | error error => exact ⟨[request], by simp, asked⟩
      | ok _ =>
          obtain ⟨issued, first, logged⟩ := asks u
          refine ⟨request :: issued, by simpa using first, ?_⟩
          dsimp only at asked ⊢
          rw [logged, asked, List.append_assoc]
          rfl

theorem Asks.submit (request : Request) (step : Step σ Unit) (record : Model → Model) :
    Asks (Managed.submit (Recorded.ask request step) record) [request] := by
  have alone : Asks (pure () : Step (Managed (Recorded σ)) Unit) [] :=
    asks_of_log_eq fun _ => rfl
  simpa using alone.submit_bind request step record

variable [RouteChannel σ]

theorem asks_withdrawAll (routes : List Route) :
    Asks (withdrawAll routes : Step (Managed (Recorded σ)) Unit) (routes.map .delete) := by
  induction routes with
  | nil => exact asks_of_log_eq fun _ => rfl
  | cons route rest inductionHypothesis =>
      rw [withdrawAll_cons]
      exact inductionHypothesis.submit_bind (.delete route) (RouteChannel.deleteRoute route) _

theorem asks_execute (action : Action) :
    Asks (execute action : Step (Managed (Recorded σ)) Unit) action.requests := by
  cases action with
  | noOp => exact asks_of_log_eq fun _ => rfl
  | install route => exact .submit (.add route) (RouteChannel.addRoute route) _
  | withdraw routes => exact asks_withdrawAll routes
  | replace old new =>
      rw [execute_replace]
      exact (asks_withdrawAll (leftovers old new)).submit_bind (.replace new)
        (RouteChannel.replaceRoute new) _

/-- A failure is settled without any further change of routes. -/
theorem asks_settleFailure (family : Family) (action : Action) (error : Error) :
    Asks (settleFailure family action error : Step (Managed (Recorded σ)) Status)
      [.dumpRoutes (some family)] := by
  rw [settleFailure]
  split
  · exact asks_of_log_eq fun _ => rfl
  · split
    · intro t
      have asked :
          ((reread family).runFrom t).2.channel.log =
            t.channel.log ++ [.dumpRoutes (some family)] := by
        rw [channel_of_reread]
        rfl
      refine ⟨[.dumpRoutes (some family)], List.prefix_refl _, ?_⟩
      rw [resynced_eq, Step.state_bind_pure]
      exact asked
    · exact asks_of_log_eq fun _ => rfl

/-- A reconciliation puts some of the requests of its action, in order and from the first on, and
may then read the routes of the family again. -/
theorem log_reconcile (decision : Decision) :
    ∃ issued reread : List Request,
      issued <+: (planned t decision).requests ∧
        reread <+: [.dumpRoutes (some decision.family)] ∧
        ((reconcile decision).runFrom t).2.channel.log =
          t.channel.log ++ (issued ++ reread) := by
  rw [runFrom_reconcile]
  split
  · exact ⟨[], [], List.nil_prefix, List.nil_prefix, (List.append_nil _).symm⟩
  · obtain ⟨issued, first, logged⟩ := asks_execute (planned t decision) t
    cases executed : (execute (planned t decision)).runFrom t with
    | mk outcome u =>
        rw [executed] at logged
        cases outcome with
        | ok _ =>
            refine ⟨issued, [], first, List.nil_prefix, ?_⟩
            simpa [Managed.withPending] using logged
        | error error =>
            obtain ⟨reread, read, settled⟩ :=
              asks_settleFailure decision.family (planned t decision) error u
            refine ⟨issued, reread, first, read, ?_⟩
            rw [← List.append_assoc, ← logged, ← settled]
            exact congrArg (·.channel.log) (Step.state_bind_pure _ _ u)

end Reconciler

end DefaultGateway
