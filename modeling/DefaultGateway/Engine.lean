import DefaultGateway.Reconciler

/-!
The engine: the model, the decisions, and the reconciler, kept in step. Every event, registration
or change of policy ends in a fresh evaluation of the families it may concern.
-/

namespace DefaultGateway

/-- What the administrator settles once for an engine. -/
structure EngineSettings where
  /-- The table whose default routes are managed. -/
  table : UInt32 := 254
  metric : UInt32 := 0
  selection : SelectionOptions := {}
  deriving DecidableEq, Repr, Inhabited

structure Engine (σ : Type) extends Managed σ where
  policy : Policy
  options : SelectionOptions
  decisions : PerFamily Decision
  /-- The highest version seen or given out. -/
  lastVersion : UInt64

namespace Engine

variable {σ α : Type}

def new (channel : σ) (settings : EngineSettings) (policy : Policy) : Engine σ where
  channel := channel
  model := .empty settings.table
  reconciler := { table := settings.table, metric := settings.metric }
  policy := policy
  options := settings.selection
  decisions := ⟨.none .inet, .none .inet6⟩
  lastVersion := 0

def decision (e : Engine σ) (family : Family) : Decision := e.decisions.get family

def evaluate (e : Engine σ) (family : Family) : Decision :=
  e.model.evaluate e.policy e.options family

def ranked (e : Engine σ) (family : Family) : List RankedCandidate :=
  e.model.ranked e.policy e.options family

/-- A step on what the reconciler works on. -/
def onManaged (step : Step (Managed σ) α) : Step (Engine σ) α :=
  step.on toManaged fun engine managed => { engine with toManaged := managed }

def onChannel (step : Step σ α) : Step (Engine σ) α := onManaged (Managed.onChannel step)

def changeModel (change : Model → Model × α) : Step (Engine σ) α :=
  onManaged (Managed.changeModel change)

/-- The version of the next registration. The sum wraps once all versions are used up, where the
daemon stops on the overflow: a run is taken to end before that. -/
def nextVersion : Step (Engine σ) UInt64 :=
  Step.change fun e => (e.lastVersion + 1, { e with lastVersion := e.lastVersion + 1 })

variable [RouteChannel σ]

/-- Decides anew for each of the families in turn, and reconciles. -/
def reevaluate : List Family → Step (Engine σ) (List Report)
  | [] => return []
  | family :: rest => do
    let engine ← get
    let decision := engine.evaluate family
    set { engine with decisions := engine.decisions.set family decision }
    let report ← onManaged (Reconciler.reconcile decision)
    let reports ← reevaluate rest
    return report :: reports

/-- Reads everything from the kernel anew and decides for both families. -/
def resync : Step (Engine σ) (List Report) := do
  let snapshot ← onChannel RouteChannel.snapshot
  let _ ← changeModel (·.replaceFacts snapshot)
  reevaluate Family.all

/-- The first reading of the kernel, before any event is handled. -/
def seed : Step (Engine σ) (List Report) := resync

def recover : Step (Engine σ) (List Report) := do
  onChannel RouteChannel.reopen
  resync

/-- Applies events in turn, and gives the families that the effective ones concern. -/
def applyEvents (m : Model) : List Event → Model × List Family
  | [] => (m, [])
  | event :: rest =>
    let (m, changed) := m.apply event
    let (m, families) := applyEvents m rest
    (m, if changed then event.families ++ families else families)

/-- Handles a batch of events, deciding once for each family that they concern. -/
def handleEvents (events : List Event) : Step (Engine σ) (List Report) := do
  let concerned ← changeModel (applyEvents · events)
  reevaluate (Family.all.filter concerned.contains)

/-- Adds a candidate under the version it carries. -/
def registerCandidate (c : Candidate) : Step (Engine σ) (List Report) := do
  modify fun e => { e with lastVersion := max e.lastVersion c.version }
  let _ ← changeModel (·.register c)
  reevaluate [c.family]

def withdrawCandidate (key : Candidate.Key) :
    Step (Engine σ) (Option Candidate × List Report) := do
  let removed ← changeModel (·.withdraw key)
  let reports ← reevaluate [key.family]
  return (removed, reports)

def setDisabled (disabled : SortedSet Selector) : Step (Engine σ) (List Report) := do
  if ← changeModel (·.setDisabled disabled) then reevaluate Family.all else return []

def reloadPolicy (policy : Policy) : Step (Engine σ) (List Report) := do
  let engine ← get
  if policy = engine.policy then return []
  else
    set { engine with policy := policy }
    reevaluate Family.all

end Engine

end DefaultGateway
