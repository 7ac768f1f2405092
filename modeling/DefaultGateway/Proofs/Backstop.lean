import DefaultGateway.Proofs.Settling
import DefaultGateway.Recovery

/-!
# Reading everything anew

However little the engine knew of the kernel, or however wrong it was, a resync sets everything
right where nothing fails: the facts are those of a first reading, the decisions are made on them,
and the kernel's default routes suit the decisions. A recovery does the same over a new connection.
-/

namespace DefaultGateway

open Kernel (Session)

namespace Model

variable {m n : Model}

/-! ## What a snapshot says -/

theorem mem_defaults_addRoutes (m : Model) (routes : List Route) (family : Family) (r : Route) :
    r ∈ (routes.foldl (fun m route => (m.addRoute route false).1) m).defaults.get family ↔
      r ∈ m.defaults.get family ∨ r ∈ routes ∧ r.isManaged m.table family = true := by
  induction routes generalizing m with
  | nil => simp
  | cons route rest inductionHypothesis =>
      have sameTable := (updatesFacts_addRoute m route false).table
      rw [List.foldl_cons, inductionHypothesis, sameTable,
        defaults_addRoute m route false family fun replacing => by cases replacing]
      split
      · rename_i managed
        simp only [Bool.false_eq_true, if_false, KeyedSet.mem_insert_sorted, List.mem_cons]
        grind
      · rename_i unmanaged
        simp only [List.mem_cons]
        grind

theorem mem_defaults_ofSnapshot (table : UInt32) (s : Snapshot) (family : Family) (r : Route) :
    r ∈ (ofSnapshot table s).defaults.get family ↔
      r ∈ s.routes ∧ r.isManaged table family = true := by
  -- Interfaces and addresses bring no routes with them.
  obtain ⟨base, shape, blank, sameTable⟩ :
      ∃ base,
        ofSnapshot table s = s.routes.foldl (fun m route => (m.addRoute route false).1) base ∧
          base.defaults = .both ∅ ∧ base.table = table := by
    refine ⟨_, rfl, ?_, ?_⟩
    · let Blank (m : Model) : Prop := m.defaults = .both ∅
      have links : Blank (s.links.foldl (fun m link => (m.putLink link).1) (empty table)) :=
        List.foldlRecOn s.links _ (motive := Blank) rfl fun _ blank _ _ => blank
      exact
        List.foldlRecOn s.addresses _ (motive := Blank) links fun m blank a _ => by
          simpa [Blank, addAddress, ensureLink_eq] using blank
    · exact
        ((updatesFacts_foldl updatesFacts_putLink s.links (empty table)).trans
          (updatesFacts_foldl updatesFacts_addAddress s.addresses _)).table
  rw [shape, mem_defaults_addRoutes, blank, sameTable]
  cases family <;> simp [PerFamily.both, PerFamily.get]

/-- A reading has the default routes of the managed table as the kernel has them. -/
theorem mirrors_replaceFacts (m : Model) (k : Kernel) (family : Family) :
    (m.replaceFacts k.snapshot).1.Mirrors k family := by
  intro r
  rw [(updatesFacts_replaceFacts m k.snapshot).table, Kernel.managed, List.mem_filter]
  exact mem_defaults_ofSnapshot m.table k.snapshot family r

/-! ## Models that differ in their default routes at most -/

/-- The default routes may differ, as long as they go through known interfaces; all else is the
same. -/
structure Rerouted (m n : Model) : Prop where
  rest : n = { m with defaults := n.defaults }
  anchored : n.Anchored

theorem Rerouted.refl (anchored : m.Anchored) : Rerouted m m := ⟨rfl, anchored⟩

theorem Rerouted.sameButDefaults (rerouted : Rerouted m n) : m.SameButDefaults n :=
  ⟨n.defaults, rerouted.rest⟩

theorem Rerouted.linkNamed?_eq (rerouted : Rerouted m n) (name : String) :
    n.linkNamed? name = m.linkNamed? name :=
  rerouted.sameButDefaults.linkNamed?_eq name

theorem SameButDefaults.rerouted (same : m.SameButDefaults n) (anchored : n.Anchored) :
    Rerouted m n := by
  obtain ⟨_, rfl⟩ := same
  exact ⟨rfl, anchored⟩

end Model

namespace Engine

/-! ## Turns over known interfaces -/

variable {start e : Engine Session}

/-- An engine that is aligned, and whose default routes go through known interfaces. -/
structure Steady (start e : Engine Session) : Prop where
  faultFree : e.channel.FaultFree
  sameTable : e.reconciler.table = e.model.table
  rerouted : start.model.Rerouted e.model
  inStep : ∀ family, e.model.InStep e.channel.kernel family
  policy : e.policy = start.policy
  options : e.options = start.options

theorem Steady.aligned (steady : Steady start e) : Aligned start e where
  faultFree := steady.faultFree
  sameTable := steady.sameTable
  inStep := steady.inStep
  model := steady.rerouted.sameButDefaults
  policy := steady.policy
  options := steady.options

theorem Aligned.steady (aligned : Aligned start e) (anchored : e.model.Anchored) :
    Steady start e where
  faultFree := aligned.faultFree
  sameTable := aligned.sameTable
  rerouted := aligned.model.rerouted anchored
  inStep := aligned.inStep
  policy := aligned.policy
  options := aligned.options

theorem Steady.table_eq (steady : Steady start e) : e.model.table = start.model.table :=
  steady.aligned.model.table_eq

theorem Steady.evaluate_eq (steady : Steady start e) (family : Family) :
    e.evaluate family = start.evaluate family :=
  steady.aligned.evaluate_eq family

/-- A turn settles its family, and leaves the other one as it was. -/
theorem Steady.outcome
    (turn : Turn Session) (steady : Steady start turn.engine) :
    ∃ report after,
      turn.outcome = (.ok report, after) ∧ Steady start after ∧
        Settled start after turn.family ∧
        (∀ other, Settled start turn.engine other → Settled start after other) ∧
        ∀ other, other ≠ turn.family →
          after.channel.kernel.managed start.model.table other =
            turn.engine.channel.kernel.managed start.model.table other := by
  obtain ⟨report, after, outcome, aligned, inherits, settled⟩ := steady.aligned.outcome turn
  exact
    ⟨report, after, outcome, aligned.steady (inherits.anchored steady.rerouted.anchored), settled⟩

/-- When some families have had their turns, they are settled. -/
theorem Steady.reevaluate
    (families : List Family) (steady : Steady start e) :
    ∃ reports after,
      (reevaluate families).runFrom e = (.ok reports, after) ∧ Steady start after ∧
        ∀ family, family ∈ families ∨ Settled start e family → Settled start after family := by
  obtain ⟨reports, after, ended, aligned, inherits, settled⟩ :=
    steady.aligned.reevaluate families
  exact
    ⟨reports, after, ended, aligned.steady (inherits.anchored steady.rerouted.anchored), settled⟩

/-! ## Readings -/

/-- The engine knows the kernel as a first reading does, has decided on that, and has brought the
kernel's default routes in line. -/
structure Restored (e after : Engine Session) : Prop where
  links :
    after.model.links = (Model.ofSnapshot e.model.table e.channel.kernel.snapshot).links
  addresses :
    after.model.addresses = (Model.ofSnapshot e.model.table e.channel.kernel.snapshot).addresses
  linkRoutes :
    after.model.linkRoutes =
      (Model.ofSnapshot e.model.table e.channel.kernel.snapshot).linkRoutes
  defaults :
    ∀ family r,
      r ∈ after.model.defaultRoutes family ↔
        r ∈ after.channel.kernel.managed e.model.table family
  decided :
    ∀ family,
      after.decision family =
        (e.model.replaceFacts e.channel.kernel.snapshot).1.evaluate e.policy e.options family
  current : ∀ family, after.decision family = after.evaluate family
  calm : ∀ family, after.reconciler.pending.get family = none
  cleared :
    ∀ family, (after.decision family).winner = none →
      after.channel.kernel.managed e.model.table family = []
  served :
    ∀ family, ∀ winner ∈ (after.decision family).winner,
      ∃ link,
        after.model.linkNamed? winner.interface = some link ∧ link.up = true ∧
          after.channel.kernel.managed e.model.table family ≠ [] ∧
          ∀ route ∈ after.channel.kernel.managed e.model.table family,
            route.forwardsVia winner.gateway (some link.index) = true

/-- What both families are settled on after a reading restores the engine. -/
theorem Steady.restored
    {read after : Engine Session} (steady : Steady read after)
    (model : read.model = (e.model.replaceFacts e.channel.kernel.snapshot).1)
    (policy : read.policy = e.policy) (options : read.options = e.options)
    (settled : ∀ family, Settled read after family) : Restored e after := by
  have rest := steady.rerouted.rest
  have readTable : read.model.table = e.model.table := by
    rw [model]
    exact (Model.updatesFacts_replaceFacts e.model _).table
  have table : after.model.table = e.model.table := steady.table_eq.trans readTable
  have current (family : Family) : after.decision family = after.evaluate family :=
    (settled family).decided.trans (steady.evaluate_eq family).symm
  refine {
    links := by rw [rest, model]; rfl
    addresses := by rw [rest, model]; rfl
    linkRoutes := by rw [rest, model]; rfl
    defaults := fun family r => table ▸ (steady.inStep family).mirrors r
    decided := fun family => by
      rw [(settled family).decided, evaluate, model, policy, options]
    current := current
    calm := fun family => (settled family).calm
    cleared := fun family nobody => ?_
    served := fun family winner chosen => ?_ }
  · rw [(settled family).decided] at nobody
    rw [← readTable]
    exact (settled family).suits.cleared nobody
  · rw [(settled family).decided] at chosen
    obtain ⟨link, named, up, served⟩ := (settled family).served chosen
    rw [← steady.rerouted.linkNamed?_eq] at named
    rw [← readTable]
    exact ⟨link, named, up, served⟩

/-- Where nothing fails a resync succeeds, and both families are settled on what has been read. -/
theorem settled_resync
    (faultFree : e.channel.FaultFree) (sameTable : e.reconciler.table = e.model.table)
    (orderly : ∀ family, e.channel.kernel.Orderly e.model.table family) :
    ∃ reports read after, resync.runFrom e = (.ok reports, after) ∧
      read.model = (e.model.replaceFacts e.channel.kernel.snapshot).1 ∧
      read.policy = e.policy ∧ read.options = e.options ∧
      Steady read after ∧ ∀ family, Settled read after family := by
  obtain ⟨channel, asked, sameKernel, later⟩ := Session.FaultFree.snapshot_eq faultFree
  let read : Engine Session := { e with
    channel := channel, model := (e.model.replaceFacts e.channel.kernel.snapshot).1 }
  have table : read.model.table = e.model.table :=
    (Model.updatesFacts_replaceFacts e.model _).table
  have steady : Steady read read := {
    faultFree := later
    sameTable := sameTable.trans table.symm
    rerouted := .refl (Model.anchored_replaceFacts _ _)
    inStep := fun family => by
      refine ⟨?_, ?_⟩
      · rw [table, sameKernel]
        exact orderly family
      · rw [sameKernel]
        exact Model.mirrors_replaceFacts e.model e.channel.kernel family
    policy := rfl
    options := rfl }
  obtain ⟨reports, after, ended, steadyAfter, settled⟩ := steady.reevaluate Family.all
  exact
    ⟨reports, read, after, (runFrom_resync asked).trans ended, rfl, rfl, rfl, steadyAfter,
      fun family => settled family (.inl (Family.mem_all family))⟩

theorem restored_resync
    (faultFree : e.channel.FaultFree) (sameTable : e.reconciler.table = e.model.table)
    (orderly : ∀ family, e.channel.kernel.Orderly e.model.table family) :
    ∃ reports after, resync.runFrom e = (.ok reports, after) ∧ Restored e after := by
  obtain ⟨reports, read, after, ended, model, policy, options, steady, settled⟩ :=
    settled_resync faultFree sameTable orderly
  exact ⟨reports, after, ended, steady.restored model policy options settled⟩

theorem restored_recover
    (faultFree : e.channel.FaultFree) (sameTable : e.reconciler.table = e.model.table)
    (orderly : ∀ family, e.channel.kernel.Orderly e.model.table family) :
    ∃ reports after, recover.runFrom e = (.ok reports, after) ∧ Restored e after := by
  obtain ⟨channel, reopened, sameKernel, later⟩ :
      ∃ next, (Session.mutate .reopen .reopen .ok).runFrom e.channel = (.ok (), next) ∧
        next.kernel = e.channel.kernel ∧ next.FaultFree := faultFree.mutate_eq rfl
  obtain ⟨reports, after, ended, restored⟩ :=
    restored_resync (e := { e with channel := channel }) later sameTable
      (by simpa only [sameKernel] using orderly)
  refine ⟨reports, after, ?_, ?_⟩
  · have opened :
        (onChannel RouteChannel.reopen).runFrom e = (.ok (), { e with channel := channel }) := by
      rw [runFrom_onChannel]
      simp only [RouteChannel.reopen, reopened]
    rw [recover, Step.runFrom_bind_of_ok opened]
    exact ended
  · obtain ⟨links, addresses, linkRoutes, defaults, decided, current, calm, cleared, served⟩ :=
      restored
    rw [sameKernel] at links addresses linkRoutes decided
    exact
      ⟨links, addresses, linkRoutes, defaults, decided, current, calm, cleared, served⟩

/-! ## Main result -/

/-- Whatever the engine takes for the facts, has decided or has left waiting, where nothing fails a
resync, a recovery, the timer in either state and the settling of a lost connection all succeed and
restore the engine; after the settling no recovery is pending. That model and reconciler are about
one table, an engine has from its set-up. -/
theorem restored_of_faultFree
    (faultFree : e.channel.FaultFree) (sameTable : e.reconciler.table = e.model.table)
    (orderly : ∀ family, e.channel.kernel.Orderly e.model.table family) :
    (∃ reports after, resync.runFrom e = (.ok reports, after) ∧ Restored e after) ∧
      (∃ reports after, recover.runFrom e = (.ok reports, after) ∧ Restored e after) ∧
      (∀ pending, ∃ after,
        Recovering.tick.runFrom ⟨e, pending⟩ = (.ok (), ⟨after, pending⟩) ∧ Restored e after) ∧
      ∀ pending error, error.isTransport = true → ∃ after,
        (Recovering.settle (.error error)).runFrom ⟨e, pending⟩ = (.ok (), ⟨after, false⟩) ∧
          Restored e after := by
  have ⟨reports, resynced, resyncs, afterResync⟩ :=
    restored_resync faultFree sameTable orderly
  have ⟨otherReports, recovered, recovers, afterRecovery⟩ :=
    restored_recover faultFree sameTable orderly
  refine ⟨⟨_, _, resyncs, afterResync⟩, ⟨_, _, recovers, afterRecovery⟩, fun pending => ?_,
    fun pending error lost => ⟨recovered, ?_, afterRecovery⟩⟩
  · rw [Recovering.tick, Step.runFrom_bind_of_ok (Step.runFrom_get _)]
    cases pending with
    | true =>
        refine ⟨recovered, ?_, afterRecovery⟩
        simp only [if_true, Recovering.onEngine]
        rw [Step.runFrom_bind, Step.runFrom_on, recovers]
        rfl
    | false =>
        refine ⟨resynced, ?_, afterResync⟩
        simp only [Bool.false_eq_true, if_false, Recovering.onEngine]
        rw [Step.runFrom_bind, Step.runFrom_on, resyncs]
        rfl
  · simp only [Recovering.settle, lost, if_true, Recovering.onEngine]
    rw [Step.runFrom_bind, Step.runFrom_attempt, Step.runFrom_on, recovers]
    rfl

/-- An engine that has missed nearly everything: it knows an interface and a route that are gone,
follows a gateway that it has no candidate for, and has failures waiting. -/
def outdated : Engine Session where
  channel := { kernel := { twoUplinks.kernel with routes := Reconciler.crowded.routes } }
  model := { Model.empty 254 with
    links := (∅ : KeyedSet Link.index).insert ⟨9, some "ppp0", true⟩
    defaults := .both ((∅ : SortedSet Route).insert
      (.defaultVia .inet (.v4 0x0a0900fe#32) (some 9) 254 0))
    candidates := (∅ : KeyedSet Candidate.key).insert
      ⟨.dhcp, .inet, "eth0", .v4 0x0a000001#32, none, 1⟩ }
  reconciler := { table := 254, metric := 0, pending := .both (some ⟨.noOp, .denied⟩) }
  policy := {}
  options := {}
  decisions := .both ⟨.inet, some ⟨.static, .inet, "ppp0", .v4 0x0a0900fe#32, none, 7⟩⟩
  lastVersion := 7

/-- The timer leaves one default route, through the gateway that could be chosen all along, and
none in the other family. -/
theorem restored_outdated :
    ∃ after,
      Recovering.tick.runFrom ⟨outdated, true⟩ = (.ok (), ⟨after, true⟩) ∧
        after.channel.kernel.managed 254 .inet =
          [.defaultVia .inet (.v4 0x0a000001#32) (some 2) 254 0] ∧
        after.channel.kernel.managed 254 .inet6 = [] ∧
        Restored outdated after := by
  have left :
      let kernel := (Recovering.tick.runFrom ⟨outdated, true⟩).2.engine.channel.kernel
      kernel.managed 254 .inet = [.defaultVia .inet (.v4 0x0a000001#32) (some 2) 254 0] ∧
        kernel.managed 254 .inet6 = [] := by
    decide +kernel
  have orderly (family : Family) :
      outdated.channel.kernel.Orderly outdated.model.table family := by
    cases family <;> exact ⟨by decide +kernel, by decide +kernel, by decide +kernel⟩
  obtain ⟨after, ended, restored⟩ :=
    (restored_of_faultFree (e := outdated) ⟨by decide +kernel, by decide +kernel⟩ rfl
      orderly).2.2.1 true
  rw [ended] at left
  exact ⟨after, ended, left.1, left.2, restored⟩

end Engine

end DefaultGateway
