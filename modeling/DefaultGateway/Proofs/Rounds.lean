import DefaultGateway.Daemon
import DefaultGateway.Proofs.Coherence
import DefaultGateway.Proofs.Following

/-!
# Rounds

Once it has started, the daemon goes from round to round, and deals with the outcome of each. A
connection that could not be opened again leaves a recovery pending, which the timer tries again. A
failure of any kind leaves it pending, and so does whatever happens between the rounds. But a round
that ends well clears it, even where nothing has been asked of the kernel: from there on the timer
reads over the connection that was lost.
-/

namespace DefaultGateway

/-- What the daemon keeps from round to round, on any channel. -/
structure Loop (σ : Type) where
  synced : Synced σ
  pending : Bool := false
  config : Config := {}

namespace Loop

variable {σ α : Type}

/-- What a round is for. A store or a configuration is read before anything is done with it. -/
inductive Round
  | timer
  | batch (events : List Event)
  /-- Notifications may be lost, so everything is read again. -/
  | lost
  | store (loaded : Except Error Store)
  | config (loaded : Except Error Config)

/-- A round, or what else happens to the engine in between: handlers register, and the kernel
changes of itself. -/
inductive Event (σ : Type)
  | round (round : Round)
  | meanwhile (change : Engine σ → Engine σ)

/-- An event, and the loop as the event finds it. -/
structure Moment (σ : Type) where
  event : Event σ
  before : Loop σ

def Round.isTimer : Round → Bool
  | .timer => true
  | _ => false

def withEngine (l : Loop σ) (engine : Engine σ) : Loop σ :=
  { l with synced := { l.synced with engine := engine } }

def onSynced (step : Step (Synced σ) α) : Step (Loop σ) α :=
  step.on synced fun l synced => { l with synced := synced }

def onEngine (step : Step (Engine σ) α) : Step (Loop σ) α := onSynced (Synced.onEngine step)

def onRecovering (step : Step (Recovering σ) α) : Step (Loop σ) α :=
  step.on (fun l => ⟨l.synced.engine, l.pending⟩)
    fun l r => { l.withEngine r.engine with pending := r.pending }

def onConfigured (step : Step (Configured σ) α) : Step (Loop σ) α :=
  step.on (fun l => ⟨l.synced.engine, l.config⟩)
    fun l c => { l.withEngine c.engine with config := c.config }

section Definitions

variable [RouteChannel σ]

def Round.work : Round → Step (Loop σ) Unit
  | .timer => onRecovering Recovering.tick
  | .batch events => do let _ ← onEngine (Engine.handleEvents events)
  | .lost => do let _ ← onEngine Engine.resync
  | .store (.ok read) => do let _ ← onSynced (Synced.apply read)
  | .store (.error error) => throw error
  | .config loaded => onConfigured (Configured.reload loaded)

/-- Some work, whose outcome is dealt with. -/
def settled (work : Step (Loop σ) Unit) : Step (Loop σ) Unit := do
  let outcome ← work.attempt
  onRecovering (Recovering.settle outcome)

def after (l : Loop σ) : Event σ → Loop σ
  | .round round => ((settled round.work).runFrom l).2
  | .meanwhile change => l.withEngine (change l.synced.engine)

def run (l : Loop σ) (events : List (Event σ)) : Loop σ := events.foldl after l

/-- The events of a run, each with the loop that the events before it have left. -/
def moments (l : Loop σ) : List (Event σ) → List (Moment σ)
  | [] => []
  | event :: rest => ⟨event, l⟩ :: (l.after event).moments rest

namespace Moment

/-- Whether a recovery succeeds: as the work of the timer, or to settle a lost connection. -/
def recovers (moment : Moment σ) : Bool :=
  match moment.event with
  | .meanwhile _ => false
  | .round round =>
    match round.work.runFrom moment.before with
    | (.ok (), _) => round.isTimer && moment.before.pending
    | (.error error, after) =>
        error.isTransport && (Engine.recover.runFrom after.synced.engine).1.isOk

/-- Whether a round other than the timer's ends well, and so passes for a recovery. -/
def passes (moment : Moment σ) : Bool :=
  match moment.event with
  | .meanwhile _ => false
  | .round round => !round.isTimer && (round.work.runFrom moment.before).1.isOk

end Moment

end Definitions

/-! ## What becomes of a pending recovery -/

section Pending

variable [RouteChannel σ] {l : Loop σ}

/-- How the settling of an outcome leaves the pending recovery. -/
theorem pending_settle (outcome : Except Error Unit) (l : Loop σ) :
    ((onRecovering (Recovering.settle outcome)).runFrom l).2.pending =
      match outcome with
      | .ok () => false
      | .error error =>
          if error.isTransport then !(Engine.recover.runFrom l.synced.engine).1.isOk
          else l.pending := by
  cases outcome with
  | ok done => rfl
  | error error =>
      simp only [onRecovering, Recovering.settle, Step.runFrom_on]
      cases lost : error.isTransport with
      | false => rfl
      | true =>
          simp only [if_true]
          rw [Step.runFrom_bind, Step.runFrom_attempt, Recovering.onEngine, Step.runFrom_on]
          cases (Engine.recover.runFrom l.synced.engine).1 with
          | ok reports => rfl
          | error again => rfl

/-- No work touches the flag: only the settling does. -/
theorem pending_work (round : Round) (l : Loop σ) :
    (round.work.runFrom l).2.pending = l.pending := by
  cases round with
  | timer =>
      simp only [Round.work, onRecovering, Step.runFrom_on, Recovering.tick]
      rw [Step.runFrom_bind_of_ok (Step.runFrom_get _), Step.state_bind_pure]
      rfl
  | batch events =>
      rw [Round.work, Step.state_bind_pure]
      rfl
  | lost =>
      rw [Round.work, Step.state_bind_pure]
      rfl
  | store loaded =>
      cases loaded with
      | ok read =>
          rw [Round.work, Step.state_bind_pure]
          rfl
      | error error => rfl
  | config loaded => rfl

/-- A pending recovery is pending after an event exactly if nothing has recovered the connection
and no round has passed for a recovery. -/
theorem pending_after
    {event : Event σ} (pending : l.pending = true) :
    (l.after event).pending =
      !(Moment.recovers ⟨event, l⟩ || Moment.passes ⟨event, l⟩) := by
  cases event with
  | meanwhile change => exact pending
  | round round =>
      have kept := pending_work round l
      simp only [after, settled, Moment.recovers, Moment.passes]
      rw [Step.runFrom_bind_of_ok (Step.runFrom_attempt _ _), pending_settle]
      cases worked : round.work.runFrom l with
      | mk outcome rest =>
          rw [worked] at kept
          cases outcome with
          | ok done => cases round.isTimer <;> simp [pending, Except.isOk, Except.toBool]
          | error error =>
              have still : rest.pending = true := kept.trans pending
              cases lost : error.isTransport <;> simp [lost, still, Except.isOk, Except.toBool]

theorem pending_run
    {events : List (Event σ)} (pending : l.pending = true)
    (unrelieved :
      ∀ moment ∈ l.moments events, moment.recovers = false ∧ moment.passes = false) :
    (l.run events).pending = true := by
  induction events generalizing l with
  | nil => exact pending
  | cons event rest inductionHypothesis =>
      obtain ⟨⟨unrecovered, unpassed⟩, later⟩ := List.forall_mem_cons.1 unrelieved
      refine inductionHypothesis ?_ later
      rw [pending_after pending, unrecovered, unpassed]
      rfl

/-- While a recovery is pending, the timer's work is to recover. -/
theorem runFrom_timer (pending : l.pending = true) :
    Round.timer.work.runFrom l =
      (do let _ ← onEngine Engine.recover : Step (Loop σ) Unit).runFrom l := by
  rw [Step.runFrom_bind]
  simp only [Round.work, onRecovering, onEngine, onSynced, Synced.onEngine, Step.runFrom_on]
  rw [Recovering.tick, Step.runFrom_bind_of_ok (Step.runFrom_get _), Step.runFrom_bind]
  simp only [pending, if_true, Recovering.onEngine, Step.runFrom_on]
  cases Engine.recover.runFrom l.synced.engine with
  | mk outcome after => cases outcome <;> simp [withEngine, pending]

/-- Over any channel and whatever happens, a pending recovery stays pending until a recovery
succeeds or a round other than the timer's ends well, and up to there the timer's work is to
recover. Any such event clears it, and no other. -/
theorem pending_until_relieved
    {events : List (Event σ)} (pending : l.pending = true)
    (unrelieved :
      ∀ moment ∈ l.moments events, moment.recovers = false ∧ moment.passes = false) :
    let last := l.run events
    last.pending = true ∧
      Round.timer.work.runFrom last =
        (do let _ ← onEngine Engine.recover : Step (Loop σ) Unit).runFrom last ∧
      ∀ event,
        (last.after event).pending =
          !(Moment.recovers ⟨event, last⟩ || Moment.passes ⟨event, last⟩) :=
  have still := pending_run pending unrelieved
  ⟨still, runFrom_timer still, fun _ => pending_after still⟩

end Pending

open Kernel (Session)

/-- A connection that is lost and cannot be opened again at the first two attempts. -/
def severed : Loop Session :=
  let channel := { Engine.twoUplinks with
    mutationFaults := [some .connectionLost, some .connectionLost] }
  { synced := .new (.new channel ({} : EngineSettings) {}), pending := true }

/-- The timer tries in vain, a store cannot be read, and the kernel reports nothing meanwhile. -/
def adversity : List (Event Session) :=
  [.round .timer, .round (.store (.error (.store "unreadable"))), .meanwhile id]

theorem pending_severed :
    severed.pending = true ∧ (severed.run adversity).pending = true ∧
      ((severed.run adversity).after (.round .timer)).pending = false := by
  have unrelieved :
      ∀ moment ∈ severed.moments adversity, moment.recovers = false ∧ moment.passes = false := by
    have each :
        (severed.moments adversity).all (fun moment => !moment.recovers && !moment.passes) =
          true := by
      decide +kernel
    simpa using each
  obtain ⟨pending, -, exact⟩ := pending_until_relieved rfl unrelieved
  refine ⟨rfl, pending, (exact _).trans ?_⟩
  decide +kernel

/-- The kernel is read once; the next request loses the connection, and so does opening it
again. -/
def cutOff : Loop Session :=
  let channel := { Engine.twoUplinks with
    dumpFaults := [none, none, none, some .connectionLost]
    mutationFaults := [some .connectionLost] }
  let start : Loop Session := { synced := .new (.new channel ({} : EngineSettings) {}) }
  start.run [.round .timer, .round .lost]

/-- An interface is reported to be up that is known to be. -/
def repetition : Event Session := .round (.batch [.linkUp ⟨2, some "eth0", true⟩])

/-- A report of what is known already clears the pending recovery, though no recovery has
succeeded; after it the timer does not open the connection again. -/
theorem recovery_forgotten :
    cutOff.pending = true ∧ Moment.recovers ⟨repetition, cutOff⟩ = false ∧
      (cutOff.after repetition).synced.engine.channel = cutOff.synced.engine.channel ∧
      (cutOff.after repetition).pending = false ∧
      ((cutOff.after repetition).after (.round .timer)).synced.engine.channel.requests =
        cutOff.synced.engine.channel.requests ++
          [.dumpLinks, .dumpAddresses, .dumpRoutes none] := by
  decide +kernel

end Loop

/-! ## The daemon's rounds -/

namespace Daemon

open Netlink Loop

variable {α β : Type} {d : Daemon}

/-- What a daemon keeps from round to round, but for its files. -/
def loop (d : Daemon) : Loop Channel := ⟨d.synced, d.pending, d.config⟩

/-- Whatever a step does, it does in rounds. -/
def Serves (step : Step Daemon α) : Prop :=
  ∀ d, ∃ events, (step.runFrom d).2.loop = d.loop.run events

theorem serves_of_unseen
    {step : Step Daemon α} (unseen : ∀ d, (step.runFrom d).2.loop = d.loop) : Serves step :=
  fun d => ⟨[], unseen d⟩

theorem serves_pure (a : α) : Serves (pure a) := serves_of_unseen fun _ => rfl

theorem Serves.bind
    {step : Step Daemon α} {next : α → Step Daemon β}
    (first : Serves step) (rest : ∀ a, Serves (next a)) : Serves (step >>= next) := by
  intro d
  obtain ⟨events, reached⟩ := first d
  rw [Step.runFrom_bind]
  cases ended : step.runFrom d with
  | mk outcome after =>
      rw [ended] at reached
      cases outcome with
      | error error => exact ⟨events, reached⟩
      | ok a =>
          obtain ⟨more, last⟩ := rest a after
          refine ⟨events ++ more, last.trans ?_⟩
          dsimp only at reached
          rw [reached, Loop.run, Loop.run, Loop.run, List.foldl_append]

theorem Serves.attempt {step : Step Daemon α} (serves : Serves step) : Serves step.attempt :=
  serves

/-- What happens on the sockets alone happens between the rounds. -/
theorem serves_onSockets (step : Step Sockets α) : Serves (onSockets step) :=
  fun _ =>
    ⟨[.meanwhile fun e => ((Engine.onChannel (Channel.onSockets step)).runFrom e).2], rfl⟩

/-- Work done as in a round of the loop makes a round of the daemon. -/
theorem serves_round
    {work : Step Daemon Unit}
    (works : ∀ d, ∃ round : Round,
      round.work.runFrom d.loop = ((work.runFrom d).1, (work.runFrom d).2.loop)) :
    Serves (round work) := by
  intro d
  obtain ⟨round, same⟩ := works d
  refine ⟨[.round round], ?_⟩
  simp only [Loop.run, List.foldl_cons, List.foldl_nil, Loop.after, Loop.settled, Daemon.round]
  rw [Step.runFrom_bind_of_ok (Step.runFrom_attempt _ _),
    Step.runFrom_bind_of_ok (Step.runFrom_attempt _ _), same]
  rfl

theorem follows_onEngine (step : Step (Engine Channel) α) :
    Step.Follows loop (do let _ ← Daemon.onEngine step) (do let _ ← Loop.onEngine step) :=
  .bind (fun _ => rfl) fun _ => .pure ()

theorem serves_handleNotice : Serves handleNotice := by
  have resubscribes (attempts : Nat) : Serves (resubscribe attempts) := by
    induction attempts with
    | zero => exact serves_pure ()
    | succ attempts inductionHypothesis =>
        refine (serves_onSockets Notices.subscribe).attempt.bind fun outcome => ?_
        cases outcome with
        | ok done => exact serves_pure ()
        | error error => exact inductionHypothesis
  refine (serves_onSockets Notices.next).attempt.bind fun outcome => ?_
  split
  · exact serves_pure ()
  · rename_i events _
    exact serves_round fun d => ⟨.batch events, follows_onEngine _ d⟩
  · refine (serves_of_unseen fun _ => rfl).bind fun d => (resubscribes _).bind fun _ => ?_
    exact serves_round fun d => ⟨.lost, follows_onEngine _ d⟩

theorem serves_handleSignal (signal : Signal) : Serves (handleSignal signal) := by
  cases signal with
  | reloadStore =>
      refine serves_round fun d => ?_
      rw [loadStore, Step.runFrom_bind_of_ok (Step.runFrom_get d), Step.runFrom_bind]
      simp only [onHost, Step.runFrom_on]
      generalize ((Store.load d.config.statePath).runFrom d.host).2 = host
      cases ((Store.load d.config.statePath).runFrom d.host).1 with
      | error error => exact ⟨.store (.error error), rfl⟩
      | ok store =>
          have follows :
              Step.Follows loop (do let _ ← Daemon.onSynced (Synced.apply store))
                (Round.store (.ok store)).work :=
            .bind (fun _ => rfl) fun _ => .pure ()
          exact ⟨.store (.ok store), follows { d with host := host }⟩
  | reloadConfig =>
      refine serves_round fun d => ?_
      rw [reloadConfig, Step.runFrom_bind_of_ok (Step.runFrom_get d),
        Step.runFrom_bind_of_ok (Step.runFrom_attempt _ d)]
      exact ⟨.config _, rfl⟩

/-- Whatever happens around a daemon, it goes from round to round. -/
theorem serves_handleStages (stages : List Stage) : Serves (handleStages stages) := by
  have notices (count : Nat) : Serves (handleNotices count) := by
    induction count with
    | zero => exact serves_pure ()
    | succ count inductionHypothesis => exact serves_handleNotice.bind fun _ => inductionHypothesis
  induction stages with
  | nil => exact serves_pure ()
  | cons stage rest inductionHypothesis =>
      refine Serves.bind ?_ fun _ => inductionHypothesis
      refine (serves_of_unseen fun _ => rfl).bind fun _ => (serves_onSockets _).bind fun _ =>
        (serves_of_unseen fun _ => rfl).bind fun d => (notices _).bind fun _ => ?_
      cases stage.signal with
      | some signal => exact serves_handleSignal signal
      | none => exact serves_pure ()

end Daemon

end DefaultGateway
