import DefaultGateway.Proofs.Errors
import DefaultGateway.Proofs.Registry
import DefaultGateway.Proofs.Store
import DefaultGateway.Proofs.SyncRequests

/-!
# Handlers

Handlers register, update and withdraw gateways at an engine that they share, and the daemon puts
its own calls in between. A call of a handler is either refused, and then nothing has changed, or it
moves the registrations by one candidate, whatever becomes of the reconciliation that ends it. So
the registrations are what the moves come to, one after the other in the order of the calls.
-/

namespace DefaultGateway

/-- What the registrar vouches for in a candidate. -/
structure Candidate.Valid (c : Candidate) : Prop where
  consistent : c.Consistent
  specified : c.gateway.isUnspecified = false
  unicast : c.gateway.isMulticast = false

namespace Engine

variable {σ : Type}

/-! ## Moves -/

/-- What a call that is not refused does to the registrations. -/
inductive Move
  | enter (c : Candidate)
  | leave (key : Candidate.Key)
  deriving DecidableEq, Repr

/-- What a move leaves under a key, if the move concerns the key. -/
def Move.leaves? (key : Candidate.Key) : Move → Option (Option Candidate)
  | .enter c => if c.key = key then some (some c) else none
  | .leave gone => if gone = key then some none else none

def Move.version? : Move → Option UInt64
  | .enter c => some c.version
  | .leave _ => none

/-- What the last move to concern a key leaves under it. -/
def lastUnder (key : Candidate.Key) (moves : List Move) : Option Candidate :=
  (moves.reverse.findSome? (·.leaves? key)).join

theorem lastUnder_append (key : Candidate.Key) (past : List Move) (move : Move) :
    lastUnder key (past ++ [move]) = (move.leaves? key).getD (lastUnder key past) := by
  rw [lastUnder, lastUnder, List.reverse_append]
  simp only [List.reverse_singleton, List.singleton_append, List.findSome?_cons]
  cases move.leaves? key <;> rfl

/-! ## Ledgers -/

/-- The registrations of an engine are those that some moves come to. -/
structure Ledger (moves : List Move) (e : Engine σ) : Prop where
  /-- One version is given out for each candidate entered. -/
  counted : e.lastVersion.toNat = (moves.filterMap Move.version?).length
  ascending : (moves.filterMap Move.version?).Pairwise (· < ·)
  bounded : ∀ version ∈ moves.filterMap Move.version?, version ≤ e.lastVersion
  last : ∀ key, e.model.candidate? key = lastUnder key moves
  recent : ∀ c ∈ e.model.candidates, c.version ≤ e.lastVersion
  distinct :
    ∀ c ∈ e.model.candidates, ∀ d ∈ e.model.candidates, c.version = d.version → c = d
  valid : ∀ c ∈ e.model.candidates, c.Valid

namespace Ledger

variable {e after : Engine σ} {past : List Move}

theorem new (channel : σ) (settings : EngineSettings) (policy : Policy) :
    Ledger [] (Engine.new channel settings policy) where
  counted := rfl
  ascending := .nil
  bounded := by simp
  last _ := rfl
  recent c member := absurd member (KeyedSet.not_mem_empty c)
  distinct c member := absurd member (KeyedSet.not_mem_empty c)
  valid c member := absurd member (KeyedSet.not_mem_empty c)

theorem of_eq
    (ledger : Ledger past e) (candidates : after.model.candidates = e.model.candidates)
    (lastVersion : after.lastVersion = e.lastVersion) : Ledger past after where
  counted := lastVersion ▸ ledger.counted
  ascending := ledger.ascending
  bounded := lastVersion ▸ ledger.bounded
  last := by simpa only [Model.candidate?, candidates] using ledger.last
  recent := by
    rw [candidates, lastVersion]
    exact ledger.recent
  distinct := candidates ▸ ledger.distinct
  valid := candidates ▸ ledger.valid

/-- A candidate is entered under a version higher than all before. -/
theorem enter
    (ledger : Ledger past e) (room : e.lastVersion.toNat + 1 < UInt64.size) {c : Candidate}
    (next : c.version = e.lastVersion + 1) (valid : c.Valid)
    (registry : SameRegistry (e.entered c) after) : Ledger (past ++ [.enter c]) after := by
  have advanced : (e.lastVersion + 1).toNat = e.lastVersion.toNat + 1 :=
    Store.toNat_add_ofNat room
  have lastVersion : after.lastVersion = e.lastVersion + 1 := registry.lastVersion
  have below {version : UInt64} (old : version ≤ e.lastVersion) : version < c.version := by
    rw [next, UInt64.lt_iff_toNat_lt, advanced]
    exact Nat.lt_succ_of_le (UInt64.le_iff_toNat_le.1 old)
  have member {d : Candidate} (live : d ∈ after.model.candidates) :
      d = c ∨ d ∈ e.model.candidates := by
    rw [registry.candidates] at live
    exact (KeyedSet.mem_insert.1 live).imp_right And.left
  have apart {d : Candidate} (old : d ∈ e.model.candidates) : d.version ≠ c.version :=
    UInt64.ne_of_lt (below (ledger.recent d old))
  have versions :
      (past ++ [Move.enter c]).filterMap Move.version? =
        past.filterMap Move.version? ++ [c.version] := by
    rw [List.filterMap_append]
    rfl
  constructor
  case counted =>
    rw [versions, lastVersion, advanced, List.length_append, ledger.counted]
    rfl
  case ascending =>
    rw [versions, List.pairwise_append]
    refine ⟨ledger.ascending, List.pairwise_singleton _ _, ?_⟩
    simpa using fun version given => below (ledger.bounded version given)
  case bounded =>
    rw [versions, lastVersion, ← next]
    intro version given
    rcases List.mem_append.1 given with old | new
    · exact UInt64.le_of_lt (below (ledger.bounded version old))
    · rw [List.mem_singleton.1 new]
      exact UInt64.le_refl _
  case last =>
    intro key
    rw [lastUnder_append, Model.candidate?, registry.candidates]
    refine (KeyedSet.find?_insert e.model.candidates c key).trans ?_
    rw [Move.leaves?]
    split
    · rfl
    · exact ledger.last key
  case recent =>
    rw [lastVersion, ← next]
    intro d live
    rcases member live with rfl | old
    · exact UInt64.le_refl _
    · exact UInt64.le_of_lt (below (ledger.recent d old))
  case distinct =>
    intro d live other alsoLive same
    rcases member live with rfl | old <;> rcases member alsoLive with rfl | alsoOld
    · rfl
    · exact absurd same.symm (apart alsoOld)
    · exact absurd same (apart old)
    · exact ledger.distinct d old other alsoOld same
  case valid =>
    intro d live
    rcases member live with rfl | old
    · exact valid
    · exact ledger.valid d old

theorem leave
    (ledger : Ledger past e) {key : Candidate.Key}
    (candidates : after.model.candidates = e.model.candidates.erase key)
    (lastVersion : after.lastVersion = e.lastVersion) :
    Ledger (past ++ [.leave key]) after := by
  have member {d : Candidate} (live : d ∈ after.model.candidates) : d ∈ e.model.candidates := by
    rw [candidates] at live
    exact (KeyedSet.mem_erase.1 live).1
  have versions :
      (past ++ [Move.leave key]).filterMap Move.version? = past.filterMap Move.version? := by
    rw [List.filterMap_append]
    exact List.append_nil _
  constructor
  case counted => rw [versions, lastVersion, ledger.counted]
  case ascending =>
    rw [versions]
    exact ledger.ascending
  case bounded =>
    rw [versions, lastVersion]
    exact ledger.bounded
  case last =>
    intro other
    rw [lastUnder_append, Model.candidate?, candidates]
    refine (KeyedSet.find?_erase e.model.candidates key other).trans ?_
    rw [Move.leaves?]
    split
    · rfl
    · exact ledger.last other
  case recent =>
    rw [lastVersion]
    exact fun d live => ledger.recent d (member live)
  case distinct =>
    exact fun c live d alsoLive => ledger.distinct c (member live) d (member alsoLive)
  case valid => exact fun d live => ledger.valid d (member live)

end Ledger

/-! ## Attempts -/

/-- A call, and the engine as the call finds it. -/
structure Attempt (σ : Type) where
  call : Call
  before : Engine σ

namespace Attempt

/-- The error of the registrar, if it refuses the call. -/
def refusal? (a : Attempt σ) : Option Error := a.call.refusal? a.before

/-- A registration takes the next version; a call of the daemon moves nothing. -/
def move? (a : Attempt σ) : Option Move :=
  if a.refusal?.isSome then none
  else
    match a.call with
    | .register key gateway source => some (.enter (a.before.freshCandidate key gateway source))
    | .update registration gateway source =>
        some (.enter (a.before.freshCandidate registration.key gateway source))
    | .withdraw registration => some (.leave registration.key)
    | _ => none

section Ends

variable [RouteChannel σ]

def outcome (a : Attempt σ) : Except Error Unit := (a.call.perform.runFrom a.before).1

def after (a : Attempt σ) : Engine σ := (a.call.perform.runFrom a.before).2

/-- What a handler is given for a registration that succeeds. -/
def registration? (a : Attempt σ) : Option Registration :=
  match a.call with
  | .register key gateway source =>
      ((Engine.register key gateway source).runFrom a.before).1.toOption
  | .update registration gateway source =>
      ((Engine.update registration gateway source).runFrom a.before).1.toOption
  | _ => none

end Ends

end Attempt

theorem valid_freshCandidate
    {e : Engine σ} {key : Candidate.Key} {gateway : Address} {source : Option Address}
    (accepted : Registration.fault? key.family key.interface gateway source = none) :
    (e.freshCandidate key gateway source).Valid := by
  have consistent : (e.freshCandidate key gateway source).Consistent :=
    consistent_of_fault?_eq_none accepted
  unfold Registration.fault? at accepted
  split at accepted
  · cases accepted
  split at accepted
  · cases accepted
  split at accepted
  · cases accepted
  rename_i unicast
  simp only [Bool.or_eq_true, not_or, Bool.not_eq_true] at unicast
  exact ⟨consistent, unicast.1, unicast.2⟩

variable [RouteChannel σ]

/-- The calls of a run, each with the engine that the calls before it have left. -/
def attempts (e : Engine σ) : List Call → List (Attempt σ)
  | [] => []
  | call :: rest => ⟨call, e⟩ :: (call.perform.runFrom e).2.attempts rest

/-- The moves that a run makes. -/
def moves (e : Engine σ) (calls : List Call) : List Move :=
  (e.attempts calls).filterMap Attempt.move?

namespace Attempt

/-- How a call leaves the registrations; what becomes of its reconciliation has no part in it. -/
inductive Moved (a : Attempt σ) : Prop
  | entered (c : Candidate)
      (move : a.move? = some (.enter c))
      (next : c.version = a.before.lastVersion + 1)
      (valid : c.Valid)
      (registry : SameRegistry (a.before.entered c) a.after)
  | left (key : Candidate.Key)
      (move : a.move? = some (.leave key))
      (candidates : a.after.model.candidates = a.before.model.candidates.erase key)
      (lastVersion : a.after.lastVersion = a.before.lastVersion)
  | unmoved
      (move : a.move? = none)
      (candidates : a.after.model.candidates = a.before.model.candidates)
      (lastVersion : a.after.lastVersion = a.before.lastVersion)

theorem moved_of_put
    {a : Attempt σ} {key : Candidate.Key} {gateway : Address} {source : Option Address}
    (move : a.move? = some (.enter (a.before.freshCandidate key gateway source)))
    (accepted : Registration.fault? key.family key.interface gateway source = none)
    (ended : a.after = ((putCandidate key gateway source).runFrom a.before).2) : a.Moved := by
  refine .entered _ move rfl (valid_freshCandidate accepted) ?_
  rw [ended]
  exact (sameRegistry_putCandidate rfl).1

theorem moved (a : Attempt σ) : a.Moved := by
  cases refused : a.refusal? with
  | some error =>
      have same : a.after = a.before := congrArg Prod.snd (perform_of_refusal? refused)
      refine .unmoved (by simp [move?, refused]) ?_ ?_
      · rw [same]
      · rw [same]
  | none =>
      obtain ⟨call, e⟩ := a
      have quiet (unregistered : Task.registers (.call call) = false)
          (unmoved : move? ⟨call, e⟩ = none) : Moved ⟨call, e⟩ :=
        .unmoved unmoved (candidates_perform unregistered e)
          (lastVersion_of_undemanded unregistered Task.noConfusion e)
      cases call with
      | register key gateway source =>
          have accepted :
              Registration.fault? key.family key.interface gateway source = none := by
            simpa [refusal?, Call.refusal?] using refused
          refine moved_of_put (by simp [move?, refused]) accepted ?_
          simp only [after, Call.perform, register, accepted, Step.state_bind_pure]
      | update registration gateway source =>
          cases checked : Registration.fault? registration.key.family
            registration.key.interface gateway source with
          | some fault => simp [refusal?, Call.refusal?, checked] at refused
          | none =>
              have live : ¬(e.model.candidate? registration.key).isNone = true := by
                intro gone
                simp [refusal?, Call.refusal?, checked, gone] at refused
              refine moved_of_put (by simp [move?, refused]) checked ?_
              simp only [after, Call.perform, update, checked, Step.state_bind_pure]
              rw [Step.runFrom_bind_of_ok (Step.runFrom_get e), if_neg live]
      | withdraw registration =>
          obtain ⟨candidates, -, lastVersion⟩ := state_withdraw registration e
          exact .left registration.key (by simp [move?, refused]) candidates lastVersion
      | _ => exact quiet rfl (by simp [move?, refused])

theorem refusal?_eq_none_of_ok
    {a : Attempt σ} (done : a.outcome = .ok ()) : a.refusal? = none := by
  cases refused : a.refusal? with
  | none => rfl
  | some error =>
      have failed : a.outcome = .error error := congrArg Prod.fst (perform_of_refusal? refused)
      rw [failed] at done
      cases done

/-- A handler is given the key and the version of the candidate that its call has entered. -/
theorem entered_of_registration?
    {a : Attempt σ} {registration : Registration}
    (given : a.registration? = some registration) :
    ∃ c, a.move? = some (.enter c) ∧ registration = ⟨c.key, c.version⟩ := by
  obtain ⟨call, e⟩ := a
  have ended {step : Step (Engine σ) Registration}
      (given : (step.runFrom e).1.toOption = some registration) :
      step.runFrom e = (.ok registration, (step.runFrom e).2) := by
    cases outcome : step.runFrom e with
    | mk result after =>
        rw [outcome] at given
        cases result with
        | ok other =>
            cases given
            rfl
        | error error => cases given
  cases call with
  | register key gateway source =>
      have done := ended given
      have accepted := refusal?_eq_none_of_ok (a := ⟨.register key gateway source, e⟩)
        (congrArg Prod.fst (Step.runFrom_bind_of_ok done))
      rcases put_of_register done with ⟨-, error, failed⟩ | put
      · cases failed
      · have named := (sameRegistry_putCandidate put).2 registration rfl
        exact ⟨e.freshCandidate key gateway source, by simp [move?, accepted], named⟩
  | update held gateway source =>
      have done := ended given
      have accepted := refusal?_eq_none_of_ok (a := ⟨.update held gateway source, e⟩)
        (congrArg Prod.fst (Step.runFrom_bind_of_ok done))
      rcases put_of_update done with ⟨-, error, failed⟩ | put
      · cases failed
      · have named := (sameRegistry_putCandidate put).2 registration rfl
        exact ⟨e.freshCandidate held.key gateway source, by simp [move?, accepted], named⟩
  | _ => cases given

end Attempt

/-! ## Runs -/

namespace Ledger

variable {e : Engine σ} {past : List Move} {calls : List Call}

/-- After a call the ledger has its move, if it makes one. -/
theorem attempt
    {a : Attempt σ} (ledger : Ledger past a.before)
    (room : a.before.lastVersion.toNat + 1 < UInt64.size) :
    Ledger (past ++ a.move?.toList) a.after := by
  cases a.moved with
  | entered c move next valid registry =>
      rw [move]
      exact ledger.enter room next valid registry
  | left key move candidates lastVersion =>
      rw [move]
      exact ledger.leave candidates lastVersion
  | unmoved move candidates lastVersion =>
      rw [move, Option.toList_none, List.append_nil]
      exact ledger.of_eq candidates lastVersion

/-- The ledger has the moves of all calls, as long as there are versions for them. -/
theorem run
    (ledger : Ledger past e) (room : e.lastVersion.toNat + calls.length < UInt64.size) :
    Ledger (past ++ e.moves calls) (e.run (calls.map .call)) := by
  induction calls generalizing e past with
  | nil => simpa [moves, attempts, Engine.run] using ledger
  | cons call rest inductionHypothesis =>
      have room : e.lastVersion.toNat + (rest.length + 1) < UInt64.size := room
      let first : Attempt σ := ⟨call, e⟩
      have later : Ledger (past ++ first.move?.toList) first.after :=
        ledger.attempt (show e.lastVersion.toNat + 1 < UInt64.size by omega)
      -- The counter has gone up by one at most, so the versions still suffice for the rest.
      have counter : first.after.lastVersion.toNat ≤ e.lastVersion.toNat + 1 := by
        rw [later.counted, ledger.counted, List.filterMap_append, List.length_append]
        refine Nat.add_le_add_left ((List.length_filterMap_le _ _).trans ?_) _
        cases first.move? <;> simp
      have split : e.moves (call :: rest) = first.move?.toList ++ first.after.moves rest := by
        rw [moves, attempts, List.filterMap_cons]
        cases first.move? <;> rfl
      rw [split, ← List.append_assoc]
      exact inductionHypothesis later (by omega)

end Ledger

/-! ## Main result -/

/-- Whatever calls reach an engine, of handlers and of the daemon, in any order and with any outcome:
versions are given out in ascending order, no two candidates share one, and under each key there is
what the last accepted call on the key has left, even if its reconciliation has failed. What a
handler is given is what its call has entered. A call that is refused changes nothing, and so does
any call whose error is not one of the channel. -/
theorem registrations_of_calls
    (channel : σ) (settings : EngineSettings) (policy : Policy) {calls : List Call}
    (few : calls.length < UInt64.size) :
    let start := new channel settings policy
    Ledger (start.moves calls) (start.run (calls.map .call)) ∧
      ∀ a ∈ start.attempts calls,
        (∀ registration, a.registration? = some registration →
          ∃ c, a.move? = some (.enter c) ∧ registration = ⟨c.key, c.version⟩) ∧
        (∀ error, a.refusal? = some error → a.outcome = .error error ∧ a.after = a.before) ∧
        ∀ error, a.outcome = .error error → ¬RouteChannel.Raises σ error →
          a.refusal? = some error ∧ a.after = a.before := by
  intro start
  have ledger : Ledger [] start := .new channel settings policy
  have room : start.lastVersion.toNat + calls.length < UInt64.size := by
    rw [ledger.counted]
    simpa using few
  have refused (a : Attempt σ) {error : Error} (refusal : a.refusal? = some error) :
      a.outcome = .error error ∧ a.after = a.before :=
    ⟨congrArg Prod.fst (perform_of_refusal? refusal),
      congrArg Prod.snd (perform_of_refusal? refusal)⟩
  refine ⟨ledger.run room, fun a _ => ⟨fun _ => Attempt.entered_of_registration?,
    fun _ => refused a, fun error failed unraised => ?_⟩⟩
  have refusal : a.refusal? = some error :=
    (raises_of_perform (Prod.ext failed rfl)).resolve_right unraised
  exact ⟨refusal, (refused a refusal).2⟩

/-- The connection is lost at the first route that is to be added. -/
def brokenUplinks : Kernel.Session :=
  { twoUplinks with mutationFaults := [some .connectionLost] }

/-- Two handlers at work: a registration whose route cannot be added, an invalid one, an update of
nothing, another registration, an update under an outdated version, and a withdrawal. -/
def sharedCalls : List Call := [
  .seed,
  .register ⟨.dhcp, "eth0", .inet⟩ (.v4 0x0a000001#32) none,
  .register ⟨.static, "eth0", .inet⟩ (.v4 0#32) none,
  .update ⟨⟨.static, "wlan0", .inet⟩, 1⟩ (.v4 0x0a010001#32) none,
  .register ⟨.static, "wlan0", .inet⟩ (.v4 0x0a010001#32) none,
  .update ⟨⟨.dhcp, "eth0", .inet⟩, 7⟩ (.v4 0x0a000002#32) none,
  .withdraw ⟨⟨.static, "wlan0", .inet⟩, 2⟩]

/-- The registration whose route could not be added stays, and is updated later on. -/
theorem registrations_of_sharedCalls :
    let start := new brokenUplinks {} {}
    let last := start.run (sharedCalls.map .call)
    sharedCalls.length < UInt64.size ∧
      last.model.candidate? ⟨.dhcp, "eth0", .inet⟩ =
        some ⟨.dhcp, .inet, "eth0", .v4 0x0a000002#32, none, 3⟩ ∧
      last.model.candidate? ⟨.static, "wlan0", .inet⟩ = none := by
  have few : sharedCalls.length < UInt64.size := by decide
  have ledger := (registrations_of_calls brokenUplinks {} {} few).1
  refine ⟨few, (ledger.last _).trans ?_, (ledger.last _).trans ?_⟩
  · decide +kernel
  · decide +kernel

end Engine

end DefaultGateway
