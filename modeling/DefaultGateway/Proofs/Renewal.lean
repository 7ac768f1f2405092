import DefaultGateway.Proofs.Convergence
import DefaultGateway.Proofs.Handlers
import DefaultGateway.Proofs.Preference

/-!
# Renewed registrations

A handler may register its gateway again as it is. If that gateway is the one chosen, it stays so:
whether it can be used does not depend on its version, and with a higher version it is preferred to
all to which it was preferred before. As long as the installed routes go by it there is nothing to
do, and the kernel is not asked for anything.
-/

namespace DefaultGateway

/-! ## Candidates under another version -/

namespace Candidate

variable {c w : Candidate} {version : UInt64}

/-- Whether the registrar would accept a candidate. -/
def Admitted (c : Candidate) : Prop :=
  Registration.fault? c.family c.interface c.gateway c.source = none

theorem rank_withVersion (policy : Policy) (w : Candidate) (version : UInt64) :
    policy.rank { w with version := version } = policy.rank w := rfl

/-- Whoever is preferred to another is so too under a version higher than the other's. -/
theorem compare_withVersion
    {policy : Policy} (preferred : policy.compare w c = .gt) (newer : c.version < version) :
    policy.compare { w with version := version } c = .gt := by
  have above : compare version c.version = .gt := Std.compare_eq_gt.2 newer
  rw [Policy.compare, rank_withVersion]
  rw [Policy.compare] at preferred
  rcases Ordering.then_eq_gt.1 preferred with better | ⟨tie, -⟩
  · exact Ordering.then_eq_gt.2 (.inl better)
  · exact Ordering.then_eq_gt.2 (.inr ⟨tie, Ordering.then_eq_gt.2 (.inl above)⟩)

end Candidate

namespace Model

variable {m : Model} {policy : Policy} {options : SelectionOptions} {family : Family}
  {c w : Candidate} {version : UInt64}

/-- Whether a candidate can be used depends neither on its version nor on the others. -/
theorem eligibility_register (m : Model) (options : SelectionOptions) (w c : Candidate)
    (version : UInt64) :
    (m.register w).1.eligibility options { c with version := version } =
      m.eligibility options c := rfl

theorem mem_candidatesOf_register :
    c ∈ (m.register w).1.candidatesOf family ↔
      c.family = family ∧ (c = w ∨ c ∈ m.candidates ∧ c.key ≠ w.key) := by
  rw [mem_candidatesOf, and_comm, register, KeyedSet.mem_insert]
  simp only [Std.compare_eq_iff_eq, ne_eq]

/-- The winner stays the winner when it is registered again under a version higher than any other's
of its family. -/
theorem evaluate_renewed
    (chosen : (m.evaluate policy options family).winner = some w)
    (newer : ∀ c ∈ m.candidatesOf family, c.version < version) :
    ((m.register { w with version := version }).1.evaluate policy options family).winner =
      some { w with version := version } := by
  have apart (n : Model) :
      ∀ c ∈ n.eligibleOf options family, ∀ d ∈ n.eligibleOf options family,
        policy.compare c d = .eq → c = d :=
    fun c member d other => eq_of_tie (mem_eligibleOf.1 member).1 (mem_eligibleOf.1 other).1
  obtain ⟨usable, greatest⟩ := isGreatest_of_mem_lastMaximum (apart m) (Option.mem_def.2 chosen)
  obtain ⟨member, eligible⟩ := mem_eligibleOf.1 usable
  obtain ⟨-, ours⟩ := mem_candidatesOf.1 member
  refine (lastMaximum_eq_some_iff (apart _)).2 ⟨?_, fun c listed other => ?_⟩
  · exact mem_eligibleOf.2 ⟨mem_candidatesOf_register.2 ⟨ours, .inl rfl⟩,
      (eligibility_register m options { w with version := version } w version).trans eligible⟩
  · obtain ⟨among, usableNow⟩ := mem_eligibleOf.1 listed
    have alsoEligible : m.eligibility options c = .eligible :=
      (eligibility_register m options { w with version := version } c c.version).symm.trans
        usableNow
    obtain ⟨alsoOurs, renewed | ⟨known, otherKey⟩⟩ := mem_candidatesOf_register.1 among
    · exact absurd renewed other
    · -- Whoever else is there was there before, and was outdone by the winner.
      have rival : c ∈ m.candidatesOf family := mem_candidatesOf.2 ⟨known, alsoOurs⟩
      have different : c ≠ w := fun same => otherKey (same ▸ rfl)
      exact Candidate.compare_withVersion
        (greatest c (mem_eligibleOf.2 ⟨rival, alsoEligible⟩) different) (newer c rival)

end Model

namespace Engine

variable {σ : Type} {e after : Engine σ} {w : Candidate} {family : Family}

/-! ## Candidates from the registrar -/

/-- All candidates have come through the registrar, and none is newer than the last version. -/
structure Vouched (e : Engine σ) : Prop where
  admitted : ∀ c ∈ e.model.candidates, c.Admitted
  recent : ∀ c ∈ e.model.candidates, c.version ≤ e.lastVersion

/-- Whether a task leaves the registrar its say about new candidates. -/
def Task.asksRegistrar : Task → Bool
  | .registerCandidate _ => false
  | _ => true

theorem Vouched.new (channel : σ) (settings : EngineSettings) (policy : Policy) :
    Vouched (Engine.new channel settings policy) where
  admitted c member := absurd member (KeyedSet.not_mem_empty c)
  recent c member := absurd member (KeyedSet.not_mem_empty c)

theorem Vouched.of_subset
    (vouched : e.Vouched) (subset : ∀ c ∈ after.model.candidates, c ∈ e.model.candidates)
    (later : e.lastVersion ≤ after.lastVersion) : after.Vouched where
  admitted c member := vouched.admitted c (subset c member)
  recent c member := UInt64.le_trans (vouched.recent c (subset c member)) later

/-- What enters through the registrar is admitted. -/
theorem Attempt.admitted_of_move?
    {a : Attempt σ} {c : Candidate} (entered : a.move? = some (.enter c)) : c.Admitted := by
  obtain ⟨call, before⟩ := a
  have accepted : (⟨call, before⟩ : Attempt σ).refusal? = none := by
    cases refused : (⟨call, before⟩ : Attempt σ).refusal? with
    | none => rfl
    | some error => simp [move?, refused] at entered
  rw [move?, accepted, if_neg (by simp)] at entered
  rw [refusal?] at accepted
  cases call with
  | register key gateway source =>
      cases entered
      exact Option.map_eq_none_iff.1 accepted
  | update registration gateway source =>
      cases entered
      cases checked : Registration.fault? registration.key.family registration.key.interface
        gateway source with
      | some fault => simp [Call.refusal?, checked] at accepted
      | none => exact checked
  | _ => cases entered

theorem toNat_nextVersion (room : e.lastVersion.toNat + 1 < UInt64.size) :
    (e.lastVersion + 1).toNat = e.lastVersion.toNat + 1 := Store.toNat_add_ofNat room

theorem lastVersion_lt_next (room : e.lastVersion.toNat + 1 < UInt64.size) :
    e.lastVersion < e.lastVersion + 1 := by
  rw [UInt64.lt_iff_toNat_lt, toNat_nextVersion room]
  exact Nat.lt_succ_self _

variable [RouteChannel σ]

theorem vouched_attempt
    {a : Attempt σ} (vouched : a.before.Vouched)
    (room : a.before.lastVersion.toNat + 1 < UInt64.size) :
    a.after.Vouched ∧ a.after.lastVersion.toNat ≤ a.before.lastVersion.toNat + 1 := by
  cases a.moved with
  | entered c move next valid registry =>
      have later : a.after.lastVersion = a.before.lastVersion + 1 := registry.lastVersion
      have member {d : Candidate} (live : d ∈ a.after.model.candidates) :
          d = c ∨ d ∈ a.before.model.candidates := by
        rw [registry.candidates] at live
        exact (KeyedSet.mem_insert.1 live).imp_right And.left
      refine ⟨⟨fun d live => ?_, fun d live => ?_⟩, ?_⟩
      · rcases member live with rfl | old
        · exact Attempt.admitted_of_move? move
        · exact vouched.admitted d old
      · rw [later]
        rcases member live with rfl | old
        · exact UInt64.le_of_eq next
        · exact UInt64.le_of_lt
            (UInt64.lt_of_le_of_lt (vouched.recent d old) (lastVersion_lt_next room))
      · rw [later, toNat_nextVersion room]
  | left key move candidates lastVersion =>
      refine ⟨vouched.of_subset (fun d live => ?_) (UInt64.le_of_eq lastVersion.symm), ?_⟩
      · rw [candidates] at live
        exact (KeyedSet.mem_erase.1 live).1
      · rw [lastVersion]
        exact Nat.le_succ _
  | unmoved move candidates lastVersion =>
      refine ⟨vouched.of_subset (fun d live => candidates ▸ live)
        (UInt64.le_of_eq lastVersion.symm), ?_⟩
      rw [lastVersion]
      exact Nat.le_succ _

/-- A task that leaves the registrar its say keeps the candidates vouched for, and takes one version
at most. -/
theorem vouched_perform
    {task : Task} (vouched : e.Vouched) (asks : task.asksRegistrar = true)
    (room : e.lastVersion.toNat + 1 < UInt64.size) :
    (task.perform.runFrom e).2.Vouched ∧
      (task.perform.runFrom e).2.lastVersion.toNat ≤ e.lastVersion.toNat + 1 := by
  have quiet (unregistered : task.registers = false) :
      (task.perform.runFrom e).2.Vouched ∧
        (task.perform.runFrom e).2.lastVersion.toNat ≤ e.lastVersion.toNat + 1 := by
    have candidates := candidates_perform unregistered e
    rcases lastVersion_perform unregistered e with same | next
    · refine ⟨vouched.of_subset (fun d live => candidates ▸ live) (UInt64.le_of_eq same.symm), ?_⟩
      rw [same]
      exact Nat.le_succ _
    · refine ⟨vouched.of_subset (fun d live => candidates ▸ live) ?_, ?_⟩
      · rw [next]
        exact UInt64.le_of_lt (lastVersion_lt_next room)
      · rw [next, toNat_nextVersion room]
  cases task with
  | call call => exact vouched_attempt (a := ⟨call, e⟩) vouched room
  | registerCandidate c => cases asks
  | withdrawCandidate key =>
      have state :
          ((Task.withdrawCandidate key).perform.runFrom e).2 =
            ((reevaluate [key.family]).runFrom { e with model := (e.model.withdraw key).1 }).2 := by
        simp only [Task.perform, Step.state_bind_pure, withdrawCandidate]
        rw [Step.runFrom_bind_of_ok (runFrom_changeModel _ e), Step.state_bind_pure]
      have same := sameRegistry_reevaluate [key.family]
        { e with model := (e.model.withdraw key).1 }
      have lastVersion :
          ((Task.withdrawCandidate key).perform.runFrom e).2.lastVersion = e.lastVersion := by
        rw [state]
        exact same.lastVersion
      refine ⟨vouched.of_subset (fun d live => ?_) (UInt64.le_of_eq lastVersion.symm), ?_⟩
      · rw [state, same.candidates] at live
        exact (KeyedSet.mem_erase.1 live).1
      · rw [lastVersion]
        exact Nat.le_succ _
  | reevaluate families => exact quiet rfl
  | nextVersion => exact quiet rfl

/-- So does a run, as long as there are versions for its tasks. -/
theorem Vouched.run
    {tasks : List Task} (vouched : e.Vouched) (asks : ∀ task ∈ tasks, task.asksRegistrar = true)
    (room : e.lastVersion.toNat + tasks.length < UInt64.size) :
    (e.run tasks).Vouched ∧
      (e.run tasks).lastVersion.toNat ≤ e.lastVersion.toNat + tasks.length := by
  induction tasks generalizing e with
  | nil => exact ⟨vouched, Nat.le_refl _⟩
  | cons task rest inductionHypothesis =>
      have ⟨first, others⟩ := List.forall_mem_cons.1 asks
      rw [List.length_cons] at room ⊢
      obtain ⟨next, counter⟩ := vouched_perform vouched first (by omega)
      obtain ⟨last, total⟩ := inductionHypothesis next others (by omega)
      exact ⟨last, by rw [Engine.run]; omega⟩

/-! ## Renewal of the gateway chosen -/

omit [RouteChannel σ] in
/-- The engine after the gateway chosen for a family has been registered again. -/
def renewed (e : Engine σ) (w : Candidate) : Engine σ :=
  { e.entered (e.freshCandidate w.key w.gateway w.source) with
    decisions :=
      e.decisions.set w.family ⟨w.family, some (e.freshCandidate w.key w.gateway w.source)⟩
    reconciler :=
      { e.reconciler with pending := e.reconciler.pending.set w.family none } }

/-- Where nothing is to be done for a family, its turn asks for nothing. -/
theorem runFrom_reevaluate_of_noOp
    (idle : Reconciler.planned e.toManaged (e.evaluate family) = .noOp) :
    (reevaluate [family]).runFrom e =
      (.ok [⟨family, .noOp, .skipped⟩],
        { e with
          toManaged := e.toManaged.withPending family none
          decisions := e.decisions.set family (e.evaluate family) }) := by
  have reconciled :
      (Turn.mk family e).outcome =
        (.ok ⟨family, .noOp, .skipped⟩,
          { e with
            toManaged := e.toManaged.withPending family none
            decisions := e.decisions.set family (e.evaluate family) }) := by
    rw [Turn.outcome, runFrom_onManaged]
    simp only [Turn.decision]
    rw [Reconciler.runFrom_reconcile, idle]
    rfl
  rw [runFrom_reevaluate_cons, reconciled]
  rfl

/-- A gateway that is chosen, and by which all installed routes go. -/
structure Serves (e : Engine σ) (family : Family) (w : Candidate) : Prop where
  decided : e.decision family = e.evaluate family
  chosen : (e.decision family).winner = some w
  installed : e.model.defaultRoutes family ≠ []
  forwards :
    ∀ route ∈ e.model.defaultRoutes family,
      route.forwardsVia w.gateway ((e.model.linkNamed? w.interface).map (·.index)) = true

namespace Serves

omit [RouteChannel σ] in
theorem chosenNow (serves : e.Serves family w) : (e.evaluate family).winner = some w :=
  serves.decided ▸ serves.chosen

omit [RouteChannel σ] in
theorem mem_candidates (serves : e.Serves family w) : w ∈ e.model.candidates :=
  (Model.usable_of_mem_evaluate serves.chosenNow).1

omit [RouteChannel σ] in
theorem family_eq (serves : e.Serves family w) : w.family = family :=
  (Model.usable_of_mem_evaluate serves.chosenNow).2.1

omit [RouteChannel σ] in
theorem evaluate_entered
    (serves : e.Serves family w) (vouched : e.Vouched)
    (room : e.lastVersion.toNat + 1 < UInt64.size) :
    (e.entered (e.freshCandidate w.key w.gateway w.source)).evaluate family =
      ⟨family, some (e.freshCandidate w.key w.gateway w.source)⟩ := by
  have newer (c : Candidate) (member : c ∈ e.model.candidatesOf family) :
      c.version < e.lastVersion + 1 :=
    UInt64.lt_of_le_of_lt (vouched.recent c (Model.mem_candidatesOf.1 member).1)
      (lastVersion_lt_next room)
  exact congrArg (Decision.mk family) (Model.evaluate_renewed serves.chosenNow newer)

/-- The winner takes the next version, and nothing else becomes of it. -/
theorem putCandidate_eq
    (serves : e.Serves family w) (vouched : e.Vouched)
    (room : e.lastVersion.toNat + 1 < UInt64.size) :
    (putCandidate w.key w.gateway w.source).runFrom e =
      (.ok ⟨w.key, e.lastVersion + 1⟩, e.renewed w) := by
  have decided := serves.evaluate_entered vouched room
  have idle :
      Reconciler.planned (e.entered (e.freshCandidate w.key w.gateway w.source)).toManaged
          ((e.entered (e.freshCandidate w.key w.gateway w.source)).evaluate family) = .noOp := by
    rw [decided, Reconciler.planned, Reconciler.plan_eq_noOp_iff]
    refine ⟨fun nobody => (by cases nobody), fun _ _ => serves.installed, ?_⟩
    intro winner chosen route member
    cases chosen
    exact serves.forwards route member
  have ours : w.key.family = family := serves.family_eq
  rw [runFrom_putCandidate, ours, Step.runFrom_bind_of_ok (runFrom_reevaluate_of_noOp idle),
    decided, renewed, serves.family_eq]
  rfl

theorem register_eq
    (serves : e.Serves family w) (vouched : e.Vouched)
    (room : e.lastVersion.toNat + 1 < UInt64.size) :
    (register w.key w.gateway w.source).runFrom e =
      (.ok ⟨w.key, e.lastVersion + 1⟩, e.renewed w) := by
  have accepted : Registration.fault? w.key.family w.key.interface w.gateway w.source = none :=
    vouched.admitted w serves.mem_candidates
  rw [register, accepted]
  exact serves.putCandidate_eq vouched room

/-- To update the registration comes to the same, under whatever version it is held. -/
theorem update_eq
    (serves : e.Serves family w) (vouched : e.Vouched)
    (room : e.lastVersion.toNat + 1 < UInt64.size) (version : UInt64) :
    (update ⟨w.key, version⟩ w.gateway w.source).runFrom e =
      (.ok ⟨w.key, e.lastVersion + 1⟩, e.renewed w) := by
  have accepted : Registration.fault? w.key.family w.key.interface w.gateway w.source = none :=
    vouched.admitted w serves.mem_candidates
  have live : e.model.candidate? w.key = some w := KeyedSet.find?_key_of_mem serves.mem_candidates
  rw [runFrom_update_of_live ⟨w.key, version⟩ accepted (by rw [live]; rfl)]
  exact serves.putCandidate_eq vouched room

end Serves

/-- The gateway chosen for a family can be registered or updated again as it is, whenever all came
through the registrar and all installed routes go by it: this succeeds, sends no request, leaves the
choice with the same gateway under a higher version, and changes neither the other decision nor what
is known of the kernel. -/
theorem renewal_of_winner
    (channel : σ) (settings : EngineSettings) (policy : Policy) {tasks : List Task}
    (asks : ∀ task ∈ tasks, task.asksRegistrar = true) (few : tasks.length + 1 < UInt64.size)
    (reached : (new channel settings policy).run tasks = e)
    (coherent : ∀ family, e.decision family = e.evaluate family)
    (chosen : (e.decision family).winner = some w)
    (installed : e.model.defaultRoutes family ≠ [])
    (forwards :
      ∀ route ∈ e.model.defaultRoutes family,
        route.forwardsVia w.gateway ((e.model.linkNamed? w.interface).map (·.index)) = true) :
    ∃ after,
      ((register w.key w.gateway w.source).runFrom e =
            (.ok ⟨w.key, e.lastVersion + 1⟩, after) ∧
          ∀ version,
            (update ⟨w.key, version⟩ w.gateway w.source).runFrom e =
              (.ok ⟨w.key, e.lastVersion + 1⟩, after)) ∧
        ((register w.key w.gateway w.source).runFrom (e.seen Recorded.fresh) =
            (.ok ⟨w.key, e.lastVersion + 1⟩, after.seen Recorded.fresh) ∧
          ∀ version,
            (update ⟨w.key, version⟩ w.gateway w.source).runFrom (e.seen Recorded.fresh) =
              (.ok ⟨w.key, e.lastVersion + 1⟩, after.seen Recorded.fresh)) ∧
        (after.decision family).sameTarget (e.decision family) = true ∧
        (∃ again, (after.decision family).winner = some again ∧ w.version < again.version) ∧
        (∀ other, other ≠ family → after.decision other = e.decision other) ∧
        after.model.sameFacts e.model = true ∧ after.channel = e.channel := by
  have serves : e.Serves family w := ⟨coherent family, chosen, installed, forwards⟩
  have start : (new channel settings policy).lastVersion.toNat = 0 := rfl
  obtain ⟨vouched, counter⟩ :=
    (Vouched.new channel settings policy).run asks (by rw [start]; omega)
  rw [reached] at vouched counter
  rw [start] at counter
  have room : e.lastVersion.toNat + 1 < UInt64.size := by omega
  -- A channel that keeps a log makes no difference to any of this.
  have servesRecorded : (e.seen Recorded.fresh).Serves family w :=
    ⟨coherent family, chosen, installed, forwards⟩
  have vouchedRecorded : (e.seen Recorded.fresh).Vouched := ⟨vouched.admitted, vouched.recent⟩
  have decision :
      (e.renewed w).decision family =
        ⟨family, some (e.freshCandidate w.key w.gateway w.source)⟩ := by
    rw [renewed, serves.family_eq]
    exact PerFamily.get_set_self ..
  refine ⟨e.renewed w,
    ⟨serves.register_eq vouched room, serves.update_eq vouched room⟩,
    ⟨servesRecorded.register_eq vouchedRecorded room,
      servesRecorded.update_eq vouchedRecorded room⟩, ?_, ?_, fun other apart => ?_, ?_, rfl⟩
  · rw [decision, Decision.sameTarget, chosen]
    simp [Candidate.sameTarget, freshCandidate, Candidate.key]
  · rw [decision]
    exact ⟨_, rfl, UInt64.lt_of_le_of_lt (vouched.recent w serves.mem_candidates)
      (lastVersion_lt_next room)⟩
  · rw [renewed, serves.family_eq]
    exact PerFamily.get_set_of_ne _ apart _
  · simp [Model.sameFacts, renewed, entered, Model.register]

/-- Two gateways are registered, of which the second is chosen. -/
def twoRegistrations : List Task := [
  .call .seed,
  .call (.register ⟨.dhcp, "eth0", .inet⟩ (.v4 0x0a000001#32) none),
  .call (.register ⟨.static, "wlan0", .inet⟩ (.v4 0x0a010001#32) none)]

/-- The second takes the third version when it is registered again, and its route stays. -/
theorem renewal_of_twoRegistrations :
    let e := (new twoUplinks {} {}).run twoRegistrations
    ∃ after,
      (register ⟨.static, "wlan0", .inet⟩ (.v4 0x0a010001#32) none).runFrom e =
          (.ok ⟨⟨.static, "wlan0", .inet⟩, 3⟩, after) ∧
        e.model.defaultRoutes .inet = [.defaultVia .inet (.v4 0x0a010001#32) (some 3) 254 0] ∧
        after.channel.kernel.routes = [.defaultVia .inet (.v4 0x0a010001#32) (some 3) 254 0] ∧
        ∃ again, (after.decision .inet).winner = some again ∧ 2 < again.version := by
  intro e
  have coherent : ∀ family, e.decision family = e.evaluate family := by
    intro family
    cases family <;> decide +kernel
  have chosen :
      (e.decision .inet).winner =
        some ⟨.static, .inet, "wlan0", .v4 0x0a010001#32, none, 2⟩ := by
    decide +kernel
  obtain ⟨after, ⟨registered, -⟩, -, -, renewed, -, -, channel⟩ :=
    renewal_of_winner twoUplinks {} {}
      (by decide : ∀ task ∈ twoRegistrations, task.asksRegistrar = true) (by decide) rfl
      coherent chosen (by decide +kernel) (by decide +kernel)
  refine ⟨after, registered, ?_, ?_, renewed⟩
  · decide +kernel
  · rw [channel]
    decide +kernel

end Engine

end DefaultGateway
