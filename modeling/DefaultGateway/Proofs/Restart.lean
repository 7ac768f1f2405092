import DefaultGateway.Proofs.Courses
import DefaultGateway.Proofs.Forecast
import DefaultGateway.Proofs.Viewed

/-!
# From the first reading to the end of the first sync

The first reading of the kernel finds no candidates, and takes all default routes away. While the
store is carried over after that, a family that has got a default route is not left without one
again, as long as somebody can be chosen for it in the end: the gateways come under new keys, so
none takes the place of another.
-/

namespace DefaultGateway

open Kernel (Session)

namespace Engine

/-! ## Changes of the registry -/

variable {e : Engine Session} {c : Candidate} {family : Family}

/-- The candidates and the disabled selectors have no part in what is known of the kernel. -/
theorem Steady.withRegistry
    (steady : Steady e e) (candidates : KeyedSet Candidate.key) (disabled : SortedSet Selector)
    (lastVersion : UInt64) :
    let changed : Engine Session := { e with
      model := { e.model with candidates := candidates, disabled := disabled }
      lastVersion := lastVersion }
    Steady changed changed where
  faultFree := steady.faultFree
  sameTable := steady.sameTable
  rerouted := .refl fun index named =>
    steady.rerouted.anchored index <|
      named.mono (fun _ member => member) (fun _ member => member) fun _ _ member => member
  inStep family := ⟨(steady.inStep family).orderly, (steady.inStep family).mirrors⟩
  policy := rfl
  options := rfl

theorem Steady.entered (steady : Steady e e) (c : Candidate) :
    Steady (e.entered c) (e.entered c) :=
  steady.withRegistry (e.model.candidates.insert c) e.model.disabled (e.lastVersion + 1)

/-- Another family is settled whatever candidate is put in. -/
theorem Settled.entered
    (settled : Settled e e family) (apart : family ≠ c.family)
    (consistent : ∀ c ∈ e.model.candidates, c.Consistent) :
    Settled (e.entered c) (e.entered c) family := by
  have same : (e.entered c).evaluate family = e.evaluate family :=
    ((Model.SameGround.evaluate_eq (sameGround_register apart) consistent e.policy
      e.options)).symm
  refine ⟨settled.decided.trans same.symm, settled.calm, ?_⟩
  rw [same]
  exact settled.suits

/-- A candidate under a new key takes nobody's place. -/
theorem Cleared.entered
    (cleared : e.Cleared family) (fresh : e.model.candidate? c.key = none) :
    (e.entered c).Cleared family := by
  intro nobody
  refine cleared (Model.winner_eq_none_iff.2 ?_)
  refine List.eq_nil_iff_forall_not_mem.2 fun other eligible => ?_
  have noneEligible := Model.winner_eq_none_iff.1 nobody
  obtain ⟨listed, usable⟩ := List.mem_filter.1 eligible
  obtain ⟨known, ours⟩ := List.mem_filter.1 listed
  have remains : other ∈ (e.entered c).model.candidates := by
    refine KeyedSet.mem_insert.2 (.inr ⟨known, fun tie => ?_⟩)
    have sameKey : other.key = c.key := Std.LawfulEqOrd.eq_of_compare tie
    have found : e.model.candidate? other.key = some other := KeyedSet.find?_key_of_mem known
    rw [sameKey, fresh] at found
    cases found
  have stillEligible : other ∈ (e.entered c).model.eligibleOf e.options family :=
    List.mem_filter.2 ⟨List.mem_filter.2 ⟨remains, ours⟩, usable⟩
  have nobodyElse : (e.entered c).model.eligibleOf e.options family = [] := noneEligible
  rw [nobodyElse] at stillEligible
  cases stillEligible

end Engine

namespace Synced

open Engine

/-! ## The first sync, gateway by gateway -/

/-- Both families are settled, and what is remembered of the store is registered. -/
structure Underway (table : UInt32) (s : Synced (Watched Session)) : Prop where
  table : s.engine.model.table = table
  steady : Steady s.engine.unwatched s.engine.unwatched
  settled : ∀ family, Settled s.engine.unwatched s.engine.unwatched family
  consistent : ∀ c ∈ s.engine.model.candidates, c.Consistent
  faithful : s.Faithful

variable {table : UInt32} {s : Synced (Watched Session)}

/-- A gateway under a new key is registered, and no family loses its last default route. -/
theorem Underway.registerChanged
    (underway : s.Underway table) {g : StoredGateway} (accepted : g.Accepted)
    (fresh : s.applied.find? g.key = none) :
    ∃ t, (registerChanged g).runFrom s = (.ok .registered, t) ∧ t.Underway table ∧
      Takes g s t ∧
        ∀ family,
          s.engine.channel.Leads (Session.Holds table family) t.engine.channel := by
  let c := s.engine.freshCandidate g.key g.address g.source
  have unregistered : s.engine.model.candidate? c.key = none := by
    have known := underway.faithful.candidates g.key
    rwa [fresh] at known
  obtain ⟨reports, after, reevaluated, steady, sameTable, -, settled, holds⟩ :=
    Steady.settles_reevaluate (e := s.engine.entered c) [g.key.family] (underway.steady.entered c)
  have admitted :
      (s.admission g).runFrom s.engine = (.ok ⟨g.key, s.engine.lastVersion + 1⟩, after) := by
    have unfaulted :
        Registration.fault? g.key.family g.key.interface g.address g.source = none := accepted
    rw [admission, fresh]
    dsimp only
    rw [register, unfaulted]
    dsimp only
    rw [runFrom_putCandidate]
    exact Step.runFrom_bind_of_ok reevaluated
  have registered := runFrom_registerChanged g s
  rw [admitted, fresh] at registered
  have takes : Takes g s
      ⟨after, (s.applied.erase g.key).insert ⟨⟨g.key, s.engine.lastVersion + 1⟩, g⟩⟩ := by
    rcases registerChanged_cases underway.faithful.keyed registered with
      ⟨takes, -⟩ | ⟨-, rejected⟩
    · exact takes
    · cases rejected _ rfl
  refine ⟨_, registered, ?_, takes, fun family => ?_⟩
  · refine ⟨sameTable.trans underway.table, steady, fun family => settled family ?_,
      fun d known => ?_, takes.faithful underway.faithful⟩
    · by_cases ours : family = g.key.family
      · exact .inl (List.mem_singleton.2 ours)
      · exact .inr ((underway.settled family).entered ours underway.consistent)
    · have listed : d ∈ after.model.candidates := known
      rw [takes.candidates] at listed
      rcases KeyedSet.mem_insert.1 listed with rfl | ⟨before, -⟩
      · have admissible : (s.engine.freshCandidate g.key g.address g.source).Consistent :=
          consistent_of_fault?_eq_none accepted
        exact admissible
      · exact underway.consistent d before
  · have cleared := ((underway.settled family).cleared underway.steady).entered unregistered
    have table : (s.engine.entered c).model.table = table := underway.table
    rw [← table]
    exact holds family cleared

theorem Underway.countAll
    (underway : s.Underway table) {l : List StoredGateway} (accepted : ∀ g ∈ l, g.Accepted)
    (fresh : ∀ g ∈ l, s.applied.find? g.key = none)
    (distinct : (l.map StoredGateway.key).Nodup) (summary : SyncSummary) :
    ∃ final t, (countAll Synced.registerChanged summary l).runFrom s = (.ok final, t) ∧
      t.Underway table ∧
        ∀ family,
          s.engine.channel.Leads (Session.Holds table family) t.engine.channel := by
  induction l generalizing s summary with
  | nil => exact ⟨summary, s, rfl, underway, fun _ => .refl s.engine.channel⟩
  | cons g rest inductionHypothesis =>
      obtain ⟨acceptedFirst, acceptedRest⟩ := List.forall_mem_cons.1 accepted
      obtain ⟨freshFirst, freshRest⟩ := List.forall_mem_cons.1 fresh
      obtain ⟨apart, distinctRest⟩ := List.nodup_cons.1 distinct
      obtain ⟨t, registered, underwayThen, takes, leads⟩ :=
        underway.registerChanged acceptedFirst freshFirst
      -- The other keys are still new after this one.
      have stillFresh : ∀ h ∈ rest, t.applied.find? h.key = none := by
        intro h member
        have other : h.key ≠ g.key := fun same => apart (same ▸ List.mem_map_of_mem member)
        rw [(takes.apart other).applied]
        exact freshRest h member
      obtain ⟨final, u, ended, underwayAfter, leadsRest⟩ :=
        inductionHypothesis underwayThen acceptedRest stillFresh distinctRest
          (summary.add .registered)
      exact
        ⟨final, u, (Step.runFrom_bind_of_ok registered).trans ended, underwayAfter,
          fun family => (leads family).trans (leadsRest family)⟩

/-- The end of a sync may leave a family without a default route, but only if nobody can be chosen
for it any more. -/
theorem Underway.setDisabled
    (underway : s.Underway table) (disabled : SortedSet Selector) :
    ∃ reports t,
      (onEngine (Engine.setDisabled disabled)).runFrom s = (.ok reports, t) ∧
        t.Underway table ∧ s.engine.channel.Leads Session.Asks t.engine.channel ∧
        ∀ family, (t.engine.evaluate family).winner ≠ none →
          s.engine.channel.Leads (Session.Holds table family) t.engine.channel := by
  let families := if (s.engine.model.setDisabled disabled).2 then Family.all else []
  let changed : Engine (Watched Session) :=
    { s.engine with model := (s.engine.model.setDisabled disabled).1 }
  obtain ⟨reports, after, reevaluated, steady, sameTable, sameChoice, settled, holds⟩ :=
    Steady.settles_reevaluate (e := changed) families <|
      underway.steady.withRegistry s.engine.model.candidates disabled s.engine.lastVersion
  have disabling :
      (onEngine (Engine.setDisabled disabled)).runFrom s =
        (.ok reports, { s with engine := after }) := by
    rw [onEngine, Step.runFrom_on, runFrom_setDisabled, reevaluated]
  obtain ⟨-, candidates, -, -⟩ := state_disabling disabled s
  rw [disabling] at candidates
  have asks := asks_reevaluate families changed
  rw [reevaluated] at asks
  refine ⟨reports, _, disabling, ?_, asks, fun family somebody => ?_⟩
  · refine ⟨sameTable.trans underway.table, steady, fun family => settled family ?_,
      fun c known => ?_, underway.faithful.of_eq rfl candidates⟩
    · cases differs : (s.engine.model.setDisabled disabled).2 with
      | true => exact .inl (by simp [families, differs, Family.mem_all])
      | false =>
          -- The selectors are the same as before, and so is the engine.
          have same : disabled = s.engine.model.disabled := by
            simpa [Model.setDisabled] using differs
          subst same
          exact .inr (underway.settled family)
    · have listed : c ∈ s.engine.model.candidates := candidates ▸ known
      exact underway.consistent c listed
  · have chosen := congrArg Decision.winner (sameChoice family)
    have table : changed.model.table = table := underway.table
    rw [← table]
    exact holds family fun nobody => absurd (chosen.trans nobody) somebody

/-- A sync that brings new gateways only succeeds, and no family loses its last default route unless
nobody can be chosen for it in the end. -/
theorem Underway.apply
    (underway : s.Underway table) {store : Store} (accepted : ∀ g ∈ store.gateways, g.Accepted)
    (gone : s.vanished store = [])
    (fresh : ∀ g ∈ s.changed store, s.applied.find? g.key = none) :
    ∃ summary t, (apply store).runFrom s = (.ok summary, t) ∧ t.Underway table ∧
      s.engine.channel.Leads Session.Asks t.engine.channel ∧
      ∀ family, (t.engine.evaluate family).winner ≠ none →
        s.engine.channel.Leads (Session.Holds table family) t.engine.channel := by
  have acceptedChanged : ∀ g ∈ s.changed store, g.Accepted :=
    fun g member => accepted g (mem_gateways_of_changed member)
  obtain ⟨registered, u, registration, underwayThen, leads⟩ :=
    underway.countAll acceptedChanged fresh (nodup_keys_changed s store) {}
  obtain ⟨reports, t, disabling, underwayAfter, asksLast, leadsLast⟩ :=
    underwayThen.setDisabled store.disabled
  have asks := (leads .inet).imp fun _ _ holds => holds.asked
  refine ⟨registered, t, ?_, underwayAfter, asks.trans asksLast, fun family somebody =>
    (leads family).trans (leadsLast family somebody)⟩
  rw [Synced.apply, Step.runFrom_bind_of_ok (Step.runFrom_get s), gone, Synced.countAll, pure_bind,
    Step.runFrom_bind_of_ok (Step.runFrom_get s), Step.runFrom_bind_of_ok registration,
    Step.runFrom_bind_of_ok disabling]
  rfl

/-! ## The first reading -/

/-- The first reading of a new engine succeeds, and takes all default routes away. -/
theorem underway_seed
    {session : Session} (faultFree : session.FaultFree) (settings : EngineSettings)
    (policy : Policy) (orderly : ∀ family, session.kernel.Orderly settings.table family) :
    ∃ reports seeded,
      seed.runFrom (Engine.new (Watched.fresh session) settings policy) = (.ok reports, seeded) ∧
        (new seeded).Underway settings.table ∧
        (Watched.fresh session).Leads Session.Asks seeded.channel ∧
        ∀ family, seeded.channel.channel.kernel.managed settings.table family = [] := by
  let begun : Engine (Watched Session) := Engine.new (Watched.fresh session) settings policy
  obtain ⟨reports, read, seen, ended, model, -, -, steady, settled⟩ :=
    settled_resync (e := begun.unwatched) faultFree rfl orderly
  obtain ⟨seeded, seeding, rfl⟩ := (follows_resync Watched.follows).of_ended (t := begun) ended
  have readTable : read.model.table = settings.table := by
    rw [model]
    exact (Model.updatesFacts_replaceFacts begun.model _).table
  have readNobody : read.model.candidates = ∅ := by
    rw [model]
    exact (Model.updatesFacts_replaceFacts begun.model _).candidates
  have nobody : seeded.model.candidates = ∅ := by
    have same := congrArg Model.candidates steady.rerouted.rest
    exact same.trans readNobody
  have asks := asks_resync begun
  have whole : resync.runFrom begun = (.ok reports, seeded) := seeding
  rw [whole] at asks
  refine ⟨reports, seeded, seeding, ?_, asks, fun family => ?_⟩
  · refine ⟨steady.table_eq.trans readTable, steady.self, fun family => (settled family).self steady,
      fun c known => ?_, ⟨fun a known => ?_, fun key => ?_⟩⟩
    · have listed : c ∈ seeded.model.candidates := known
      rw [nobody] at listed
      exact absurd listed (KeyedSet.not_mem_empty c)
    · exact absurd known (KeyedSet.not_mem_empty a)
    · have missing : seeded.model.candidate? key = none := by
        rw [Model.candidate?, nobody]
        rfl
      exact missing
  · have noWinner : (read.evaluate family).winner = none :=
      Model.winner_eq_none_of_empty readNobody _ _ family
    have cleared := (settled family).suits.cleared noWinner
    rwa [readTable] at cleared

end Synced

namespace StatusReport

/-! ## Main result -/

/-- Where nothing fails, the first reading and the first sync of a new engine succeed. -/
theorem first_sync
    {store : Store} (accepted : ∀ g ∈ store.gateways, g.Accepted) (c : Config)
    {session : Session} (faultFree : session.FaultFree) :
    let fresh := Engine.new session c.engineSettings c.policy
    ∃ seeds seeded summary synced,
      Engine.seed.runFrom fresh = (.ok seeds, seeded) ∧
        (Synced.apply store).runFrom (.new seeded) = (.ok summary, synced) ∧
        summary.rejected = 0 ∧ Synced.Carries store summary (.new seeded) synced ∧
        synced.Ready
          { fresh with model := (fresh.model.replaceFacts session.kernel.snapshot).1 } := by
  intro fresh
  obtain ⟨seeds, seeded, seeding, calm, coherent⟩ :=
    Engine.calm_seed (e := fresh) faultFree
      (Engine.coherent_new session c.engineSettings c.policy)
  have faithful : (Synced.new seeded).Faithful := by
    have performed :
        (Engine.Task.call .seed).perform.runFrom fresh = (.ok (), seeded) :=
      Step.runFrom_bind_of_ok seeding
    have nobody := Engine.candidates_perform Synced.quiet_seed fresh
    rw [performed] at nobody
    refine ⟨fun a known => absurd known (KeyedSet.not_mem_empty a), fun key => ?_⟩
    exact congrArg (KeyedSet.find? · key) nobody
  have ready : (Synced.new seeded).Ready seeded := ⟨.refl calm.faultFree, coherent, faithful⟩
  obtain ⟨summary, synced, applied, unrejected, after⟩ := ready.apply accepted
  exact
    ⟨seeds, seeded, summary, synced, seeding, applied, unrejected,
      Synced.carries_apply faithful.keyed applied unrejected,
      calm.trans after.calm, after.coherent, after.faithful⟩

/-- For every configuration, every kernel with default routes in order, and every store of which the
registrar accepts all gateways: where nothing fails, the first reading and the first sync of a new
engine succeed. The first reading takes all default routes away. From then on, a family for which
the report selects a gateway keeps a default route through every single request once it has one,
and has one in the end. -/
theorem default_since_first
    {store : Store} (accepted : ∀ g ∈ store.gateways, g.Accepted) (c : Config)
    {session : Session} (faultFree : session.FaultFree)
    (orderly : ∀ family, session.kernel.Orderly c.table family) :
    ∃ report queried seeds seeded summary synced,
      (query c store).runFrom session = (.ok report, queried) ∧
        Engine.seed.runFrom (Engine.new (Watched.fresh session) c.engineSettings c.policy) =
          (.ok seeds, seeded) ∧
        (Synced.apply store).runFrom (.new seeded) = (.ok summary, synced) ∧
        summary.rejected = 0 ∧
        Engine.seed.runFrom (Engine.new session c.engineSettings c.policy) =
          (.ok seeds, seeded.unwatched) ∧
        (Synced.apply store).runFrom (.new seeded.unwatched) =
          (.ok summary, synced.seen Watched.channel) ∧
        synced.engine.channel.course.head? = some session ∧
        (synced.engine.channel.course.IsChain fun s next =>
          ∃ request, next.requests = s.requests ++ [request]) ∧
        seeded.channel.course <+: synced.engine.channel.course ∧
        (∀ family, seeded.channel.channel.kernel.managed c.table family = []) ∧
        ∀ status ∈ report.families, status.selected.isSome = true →
          ((synced.engine.channel.course.drop seeded.channel.past.length).Pairwise
            fun earlier later =>
              earlier.kernel.managed c.table status.family ≠ [] →
                later.kernel.managed c.table status.family ≠ []) ∧
          synced.engine.channel.channel.kernel.managed c.table status.family ≠ [] := by
  obtain ⟨queried, read, -⟩ := Session.FaultFree.snapshot_eq faultFree
  have reported :
      (query c store).runFrom session =
        (.ok (ofModel (modelOf c.table session.kernel.snapshot store) c.policy
          c.engineSettings.selection), queried) :=
    Step.runFrom_bind_of_ok read
  obtain ⟨seeds, seeded, seeding, underway, asks, bare⟩ :=
    Synced.underway_seed faultFree c.engineSettings c.policy orderly
  obtain ⟨summary, synced, applied, underwayAfter, asksLater, leads⟩ :=
    underway.apply accepted rfl fun _ _ => rfl
  have plainSeeding := (Engine.follows_resync Watched.follows).ended seeding
  have plainApplied := (Synced.follows_apply Watched.follows store).ended applied
  obtain ⟨_, _, _, _, alsoSeeding, alsoApplied, unrejected, carries, ready⟩ :=
    first_sync accepted c faultFree
  -- Watched or not, the engine goes the same way.
  obtain ⟨-, rfl⟩ := Prod.mk.inj (plainSeeding.symm.trans alsoSeeding)
  obtain ⟨same, rfl⟩ := Prod.mk.inj (plainApplied.symm.trans alsoApplied)
  obtain rfl := Except.ok.inj same
  have whole := (asks.trans asksLater).proceeds
  refine ⟨_, queried, seeds, seeded, summary, synced, reported, seeding, applied, unrejected,
    plainSeeding, plainApplied, whole.begins, whole.chain, asksLater.course_prefix, bare,
    fun status member selects => ?_⟩
  obtain ⟨family, -, rfl⟩ := List.mem_map.1 member
  dsimp only at selects ⊢
  have somebody : (synced.engine.evaluate family).winner ≠ none := by
    intro nobody
    have policy : synced.engine.policy = c.policy := ready.calm.policy
    have options : synced.engine.options = c.engineSettings.selection := ready.calm.options
    rw [Engine.evaluate, policy, options] at nobody
    have unselected :
        ((modelOf c.table session.kernel.snapshot store).evaluate c.policy
          c.engineSettings.selection family).winner = none :=
      (winner_eq_none_iff_carried ready.faithful carries ready.calm.scene c.policy
        c.engineSettings.selection family).1 nobody
    rw [unselected] at selects
    cases selects
  constructor
  · exact Session.Holds.pairwise (leads family somebody).isChain_drop
  · obtain ⟨winner, chosen⟩ := Option.ne_none_iff_exists'.1 somebody
    have served := (underwayAfter.settled family).suits.served winner chosen
    have table : synced.engine.unwatched.model.table = c.table := underwayAfter.table
    rwa [table] at served

/-- In place of the route that is there at first, the family has one at every moment once the
gateway of lower version has been registered, and in the end. -/
theorem default_since_first_readded :
    ∃ seeds seeded summary synced,
      Engine.seed.runFrom (Engine.new (Watched.fresh occupied) {} {}) = (.ok seeds, seeded) ∧
        (Synced.apply readded).runFrom (.new seeded) = (.ok summary, synced) ∧
        seeded.channel.channel.kernel.managed 254 .inet = [] ∧
        ((synced.engine.channel.course.drop seeded.channel.past.length).Pairwise
          fun earlier later =>
            earlier.kernel.managed 254 .inet ≠ [] → later.kernel.managed 254 .inet ≠ []) ∧
        synced.engine.channel.channel.kernel.managed 254 .inet ≠ [] := by
  have evaluated :
      ((query {} readded).runFrom occupied).1.map
          (fun report => report.families.map fun status =>
            (status.family, status.selected.isSome)) =
        .ok [(.inet, true), (.inet6, false)] := by
    decide +kernel
  have accepted : ∀ g ∈ readded.gateways, g.Accepted := by
    unfold StoredGateway.Accepted
    decide +kernel
  have faultFree : occupied.FaultFree := ⟨by decide +kernel, by decide +kernel⟩
  have orderly (family : Family) : occupied.kernel.Orderly 254 family := by
    cases family <;> exact ⟨by decide +kernel, by decide +kernel, by decide +kernel⟩
  obtain ⟨report, queried, seeds, seeded, summary, synced, reported, seeding, applied, -, -, -, -,
    -, -, bare, kept⟩ := default_since_first accepted {} faultFree orderly
  rw [reported] at evaluated
  have selects :
      report.families.map (fun status => (status.family, status.selected.isSome)) =
        [(.inet, true), (.inet6, false)] := Except.ok.inj evaluated
  have listed :
      (Family.inet, true) ∈
        report.families.map fun status => (status.family, status.selected.isSome) := by
    rw [selects]
    exact List.mem_cons_self
  obtain ⟨status, member, same⟩ := List.mem_map.1 listed
  obtain ⟨family, selected⟩ := Prod.mk.inj same
  obtain ⟨lasts, ended⟩ := kept status member selected
  rw [family] at lasts ended
  exact ⟨seeds, seeded, summary, synced, seeding, applied, bare .inet, lasts, ended⟩

/-- The default route of a kernel goes by the gateway that the store has. -/
def connected : Session where
  kernel := { Engine.twoUplinks.kernel with
    routes := [.defaultVia .inet (.v4 0x0a000001#32) (some 2) 254 0] }

def remembered : Store where
  gateways := [⟨.inet, "eth0", .dhcp, .v4 0x0a000001#32, none, 1, default⟩]

/-- The report selects the gateway of the route, but the route is deleted in the first reading, and
the first sync adds it again. -/
theorem disconnected_in_between :
    (∀ g ∈ remembered.gateways, g.Accepted) ∧ connected.FaultFree ∧
      (∀ family, connected.kernel.Orderly 254 family) ∧
      ((query {} remembered).runFrom connected).1.map
          (fun report => report.families.map fun status => status.selected.map (·.gateway)) =
        .ok [some (.v4 0x0a000001#32), none] ∧
      ((do
          let _ ← Synced.onEngine Engine.seed
          Synced.apply remembered : Step (Synced (Watched Session)) SyncSummary).runFrom
        (.new (Engine.new (.fresh connected) {} {}))).2.engine.channel.course.map
          (fun s => (s.kernel.managed 254 .inet).length) = [1, 1, 1, 1, 0, 1] := by
  refine ⟨?_, ⟨by decide +kernel, by decide +kernel⟩, fun family => ?_, by decide +kernel, ?_⟩
  · unfold StoredGateway.Accepted
    decide +kernel
  · cases family <;> exact ⟨by decide +kernel, by decide +kernel, by decide +kernel⟩
  · simp only [Synced.apply, Synced.changed_eq_insertionSort]
    decide +kernel

end StatusReport

end DefaultGateway
