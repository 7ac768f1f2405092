import DefaultGateway.Channel
import DefaultGateway.Selection

/-!
Bringing the kernel's default routes in line with a decision. A plan compares the decision with the
routes that are there, so that nothing is done where nothing is to be done. A new route takes the
place of an old one in a single request, and what else is left over is deleted after that.
-/

namespace DefaultGateway

/-- What is to be done to the default routes of a family. -/
inductive Action
  | noOp
  | install (route : Route)
  | replace (old : List Route) (new : Route)
  | withdraw (routes : List Route)
  deriving DecidableEq, Repr

namespace Action

def isNoOp (a : Action) : Bool := a == .noOp

def kind : Action → String
  | .noOp => "no-op"
  | .install _ => "install"
  | .replace .. => "replace"
  | .withdraw _ => "withdraw"

instance : ToString Action where
  toString
    | .noOp => "no-op"
    | .install route => s!"install {route}"
    | .replace old new => s!"replace {old.length} route(s) with {new}"
    | .withdraw routes => s!"withdraw {routes.length} route(s)"

end Action

inductive Status
  | skipped
  | completed
  /-- The kernel's table was not what it was taken for; the routes were read again. -/
  | resynced (errno : Errno)
  /-- The kernel refused; the next evaluation tries again. -/
  | failedPending (errno : Errno)
  deriving DecidableEq, Repr

instance : ToString Status where
  toString
    | .skipped => "skipped"
    | .completed => "completed"
    | .resynced errno => s!"resynced {errno.code}"
    | .failedPending errno => s!"failed {errno.code}"

structure Report where
  family : Family
  action : Action
  status : Status
  deriving DecidableEq, Repr

/-- A refused action that waits for the next evaluation. The time of the refusal, which is only ever
logged, is left out. -/
structure PendingFailure where
  action : Action
  errno : Errno
  deriving DecidableEq, Repr

structure Reconciler where
  table : UInt32
  metric : UInt32
  pending : PerFamily (Option PendingFailure) := .both none
  deriving DecidableEq, Repr, Inhabited

structure Managed (σ : Type) where
  channel : σ
  model : Model
  reconciler : Reconciler

namespace Managed

variable {σ α : Type}

def onChannel (step : Step σ α) : Step (Managed σ) α :=
  step.on channel fun managed channel => { managed with channel := channel }

def changeModel (change : Model → Model × α) : Step (Managed σ) α :=
  Step.change fun managed =>
    let (model, a) := change managed.model
    (a, { managed with model := model })

def updateModel (change : Model → Model) : Step (Managed σ) Unit :=
  changeModel fun m => (change m, ())

def setPending (family : Family) (failure : Option PendingFailure) : Step (Managed σ) Unit :=
  modify fun managed => { managed with
    reconciler := { managed.reconciler with
      pending := managed.reconciler.pending.set family failure } }

end Managed

namespace Reconciler

/-- What to do, given the default routes that are there and the interface of the winner. -/
def plan (r : Reconciler) (installed : List Route) (decision : Decision)
    (oif : Option LinkIndex) : Action :=
  match decision.winner with
  | none => if installed.isEmpty then .noOp else .withdraw installed
  | some winner =>
    let target := Route.defaultVia winner.family winner.gateway oif r.table r.metric
    let current := installed.filter (·.forwardsVia winner.gateway oif)
    let stray := installed.filter (!·.forwardsVia winner.gateway oif)
    if installed.isEmpty then .install target
    else if current.isEmpty then .replace installed target
    else if stray.isEmpty then .noOp
    else .withdraw stray

variable {σ : Type} [RouteChannel σ]

def withdrawAll : List Route → Step (Managed σ) Unit
  | [] => return
  | route :: rest => do
    Managed.onChannel (RouteChannel.deleteRoute route)
    Managed.updateModel (·.recordWithdrawn route)
    withdrawAll rest

/-- The routes that a replacement leaves behind: all but the first that shares its metric. -/
def leftovers (old : List Route) (new : Route) : List Route :=
  old.eraseP (·.metric == new.metric)

def execute : Action → Step (Managed σ) Unit
  | .noOp => return
  | .install route => do
    Managed.onChannel (RouteChannel.addRoute route)
    Managed.updateModel (·.recordInstalled route)
  | .replace old new => do
    Managed.onChannel (RouteChannel.replaceRoute new)
    Managed.updateModel (·.recordInstalled new)
    withdrawAll (leftovers old new)
  | .withdraw routes => withdrawAll routes

def winnerOif (m : Model) (decision : Decision) : Option LinkIndex :=
  decision.winner.bind fun winner => (m.linkNamed? winner.interface).map (·.index)

/-- What becomes of an action that failed. A lost connection fails the whole step; a refusal that
only shows the table to be different has it read again, and any other waits. -/
def settleFailure (family : Family) (action : Action) (error : Error) :
    Step (Managed σ) Status :=
  match error.kernelErrno? with
  | none => throw error
  | some errno =>
    if errno.isTransient then do
      let routes ← Managed.onChannel (RouteChannel.dumpRoutes (some family))
      Managed.updateModel fun m => (m.resyncRoutes family routes).1
      return .resynced errno
    else do
      Managed.setPending family (some ⟨action, errno⟩)
      return .failedPending errno

def reconcile (decision : Decision) : Step (Managed σ) Report := do
  let managed ← get
  let family := decision.family
  let action := managed.reconciler.plan (managed.model.defaultRoutes family) decision
    (winnerOif managed.model decision)
  if action.isNoOp then
    Managed.setPending family none
    return ⟨family, action, .skipped⟩
  else
    match ← (execute action).attempt with
    | .ok () =>
      Managed.setPending family none
      return ⟨family, action, .completed⟩
    | .error error =>
      let status ← settleFailure family action error
      return ⟨family, action, status⟩

end Reconciler

end DefaultGateway
