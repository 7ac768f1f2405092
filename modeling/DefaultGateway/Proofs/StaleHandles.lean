import Mathlib.Data.List.Induction
import DefaultGateway.Proofs.Acceptance
import DefaultGateway.Proofs.Renewal

/-!
# Outdated handles

A handle names the version under which its registration was made, but what is done by a handle is
done to the registration that is live under the key. So a handler with an outdated handle changes or
ends a registration that another has made since: the latest call on a key wins, and what it enters
has the highest version of all.
-/

namespace DefaultGateway.Engine

variable {σ : Type} {key : Candidate.Key} {c : Candidate}

/-! ## Versions under a key -/

theorem version_mem_of_enter_mem {moves : List Move} {d : Candidate}
    (entered : .enter d ∈ moves) : d.version ∈ moves.filterMap Move.version? :=
  List.mem_filterMap.2 ⟨.enter d, entered, rfl⟩

/-- Where versions ascend, what is left under a key has the highest of all entered under it. -/
theorem version_le_of_lastUnder
    {moves : List Move} (ascending : (moves.filterMap Move.version?).Pairwise (· < ·))
    (live : lastUnder key moves = some c) {d : Candidate} (entered : .enter d ∈ moves)
    (sameKey : d.key = key) : d.version ≤ c.version := by
  induction moves using List.reverseRecOn with
  | nil => cases entered
  | append_singleton past move inductionHypothesis =>
      rw [lastUnder_append] at live
      rw [List.filterMap_append, List.pairwise_append] at ascending
      obtain ⟨ascending, -, below⟩ := ascending
      rcases List.mem_append.1 entered with earlier | last
      · cases left : move.leaves? key with
        | none =>
            rw [left] at live
            exact inductionHypothesis ascending live earlier
        | some candidate? =>
            rw [left] at live
            subst live
            cases move with
            | leave gone => simp [Move.leaves?] at left
            | enter other =>
                obtain ⟨-, rfl⟩ : other.key = key ∧ other = c := by simpa [Move.leaves?] using left
                exact UInt64.le_of_lt <|
                  below _ (version_mem_of_enter_mem earlier) _ (by simp [Move.version?])
      · rw [← List.mem_singleton.1 last] at live
        have same : d = c := by simpa [Move.leaves?, sameKey] using live
        exact same ▸ UInt64.le_refl _

section Calls

variable [RouteChannel σ] {e : Engine σ} {gateway : Address} {source : Option Address}

/-! ## Calls by handles -/

/-- The candidate put in is live afterwards, even if its route could not be installed. -/
theorem candidate?_putCandidate :
    ((putCandidate key gateway source).runFrom e).2.model.candidate? key =
      some (e.freshCandidate key gateway source) := by
  cases ended : (putCandidate key gateway source).runFrom e with
  | mk outcome after =>
      have registry := (sameRegistry_putCandidate ended).1
      rw [Model.candidate?, registry.candidates]
      exact (KeyedSet.find?_insert e.model.candidates _ key).trans (if_pos rfl)

/-- Nothing is live under a key after a withdrawal, even if its route could not be deleted. -/
theorem candidate?_withdraw (registration : Registration) :
    ((withdraw registration).runFrom e).2.model.candidate? registration.key = none := by
  rw [Model.candidate?, (state_withdraw registration e).1]
  exact (KeyedSet.find?_erase e.model.candidates registration.key registration.key).trans
    (if_pos rfl)

section Connected

variable {P : σ → Prop} (connected : RouteChannel.Connected P fun _ => False)

include connected

theorem ok_putCandidate (held : P e.channel) :
    ((putCandidate key gateway source).runFrom e).1 = .ok ⟨key, e.lastVersion + 1⟩ := by
  obtain ⟨registration, after, ended, -⟩ :=
    (connected.within_putCandidate key gateway source).succeeds held
  rw [ended, (sameRegistry_putCandidate ended).2 registration rfl]

theorem ok_withdraw
    (registration : Registration) (live : (e.model.candidate? registration.key).isSome = true)
    (held : P e.channel) : ((withdraw registration).runFrom e).1 = .ok () := by
  have within :
      Step.Within (fun e : Engine σ => P e.channel) (fun _ => False)
        (withdrawCandidate registration.key >>= fun _ => (pure () : Step (Engine σ) Unit)) :=
    .bind (.bind (fun _ held => held) fun _ =>
      .bind (connected.within_reevaluate [registration.key.family]) fun _ => .pure _)
      fun _ => .pure _
  obtain ⟨_, after, ended, -⟩ := within.succeeds held
  rw [runFrom_withdraw_of_live registration live, ended]

end Connected

end Calls

/-! ## Main result -/

variable [RouteChannel σ]

/-- What is live under a key after some calls, of handlers and of the daemon, is what the latest
accepted registration has entered, and no other was entered under the key with a higher version. It
can be updated and withdrawn by a handle of any version: an update with a gateway that is accepted
takes its place under a version that is higher still, and a withdrawal leaves nothing. Where nothing
fails, the handler is told so. -/
theorem latest_call_wins
    (channel : σ) (settings : EngineSettings) (policy : Policy) {calls : List Call}
    (few : calls.length + 1 < UInt64.size) (version : UInt64) :
    let start := new channel settings policy
    let e := start.run (calls.map .call)
    ∀ c, e.model.candidate? key = some c →
      (lastUnder key (start.moves calls) = some c ∧
        ∀ d, .enter d ∈ start.moves calls → d.key = key → d.version ≤ c.version) ∧
      (∀ gateway source,
        Registration.fault? key.family key.interface gateway source = none →
          let next := e.freshCandidate key gateway source
          let ended := (update ⟨key, version⟩ gateway source).runFrom e
          c.version < next.version ∧ ended.2.model.candidate? key = some next ∧
            ∀ P : σ → Prop, RouteChannel.Connected P (fun _ => False) → P e.channel →
              ended.1 = .ok ⟨key, next.version⟩) ∧
      let ended := (withdraw ⟨key, version⟩).runFrom e
      ended.2.model.candidate? key = none ∧
        ∀ P : σ → Prop, RouteChannel.Connected P (fun _ => False) → P e.channel →
          ended.1 = .ok () := by
  intro start e c live
  have noneGiven : (new channel settings policy).lastVersion.toNat = 0 := rfl
  have ledger : Ledger (start.moves calls) e :=
    (Ledger.new channel settings policy).run (by omega)
  have asks : ∀ task ∈ calls.map Task.call, task.asksRegistrar = true := by
    simp [Task.asksRegistrar]
  have counter := ((Vouched.new channel settings policy).run asks (by simp; omega)).2
  have room : e.lastVersion.toNat + 1 < UInt64.size := by
    rw [List.length_map] at counter
    exact Nat.lt_of_le_of_lt (Nat.succ_le_succ counter) (by omega)
  have latest : lastUnder key (start.moves calls) = some c := (ledger.last key).symm.trans live
  have member : c ∈ e.model.candidates := List.mem_of_find?_eq_some live
  have isLive : (e.model.candidate? key).isSome = true := by rw [live]; rfl
  refine ⟨⟨latest, fun d => version_le_of_lastUnder ledger.ascending latest⟩,
    fun gateway source accepted => ⟨?_, ?_, fun P connected held => ?_⟩,
    candidate?_withdraw ⟨key, version⟩,
    fun P connected held => ok_withdraw connected ⟨key, version⟩ isLive held⟩
  · exact UInt64.lt_of_le_of_lt (ledger.recent c member) (lastVersion_lt_next room)
  · rw [runFrom_update_of_live ⟨key, version⟩ accepted isLive]
    exact candidate?_putCandidate
  · rw [runFrom_update_of_live ⟨key, version⟩ accepted isLive]
    exact ok_putCandidate connected held

/-- Two handlers register a gateway under one key, one after the other. -/
def registeredTwice : List Call := [
  .seed,
  .register ⟨.dhcp, "eth0", .inet⟩ (.v4 0x0a000001#32) none,
  .register ⟨.dhcp, "eth0", .inet⟩ (.v4 0x0a000002#32) none]

theorem latest_call_wins_registeredTwice :
    let e := (new twoUplinks {} {}).run (registeredTwice.map .call)
    registeredTwice.length + 1 < UInt64.size ∧
      e.model.candidate? ⟨.dhcp, "eth0", .inet⟩ =
        some ⟨.dhcp, .inet, "eth0", .v4 0x0a000002#32, none, 2⟩ ∧
      ((update ⟨⟨.dhcp, "eth0", .inet⟩, 1⟩ (.v4 0x0a000003#32) none).runFrom e).1 =
        .ok ⟨⟨.dhcp, "eth0", .inet⟩, 3⟩ := by
  intro e
  have few : registeredTwice.length + 1 < UInt64.size := by decide
  have live :
      ((new twoUplinks {} {}).run (registeredTwice.map .call)).model.candidate?
          ⟨.dhcp, "eth0", .inet⟩ =
        some ⟨.dhcp, .inet, "eth0", .v4 0x0a000002#32, none, 2⟩ := by
    decide +kernel
  have faultFree : e.channel.FaultFree := ⟨by decide +kernel, by decide +kernel⟩
  obtain ⟨-, updated, -⟩ := latest_call_wins twoUplinks {} {} few 1 _ live
  obtain ⟨-, -, told⟩ := updated (.v4 0x0a000003#32) none (by decide +kernel)
  refine ⟨few, live, (told _ Kernel.Session.FaultFree.connected faultFree).trans ?_⟩
  decide +kernel

/-- The first handler's handle ends what the second has registered since, and could update it as
well, though nothing fails. -/
theorem ended_by_stale_handle :
    let key : Candidate.Key := ⟨.dhcp, "eth0", .inet⟩
    let once := (new twoUplinks {} {}).run [.call .seed]
    let first := (register key (.v4 0x0a000001#32) none).runFrom once
    let second := (register key (.v4 0x0a000002#32) none).runFrom first.2
    let ended := (withdraw ⟨key, 1⟩).runFrom second.2
    let updated := (update ⟨key, 1⟩ (.v4 0x0a000003#32) none).runFrom second.2
    first.1 = .ok ⟨key, 1⟩ ∧ second.1 = .ok ⟨key, 2⟩ ∧
      (second.2.model.candidate? key).map (·.version) = some 2 ∧
      ended.1 = .ok () ∧ ended.2.model.candidate? key = none ∧
      updated.1 = .ok ⟨key, 3⟩ ∧
      (updated.2.model.candidate? key).map (·.gateway) = some (.v4 0x0a000003#32) := by
  decide +kernel

end DefaultGateway.Engine
