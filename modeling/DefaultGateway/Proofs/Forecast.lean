import DefaultGateway.Proofs.Calm
import DefaultGateway.Proofs.VersionOrder
import DefaultGateway.StatusReport

/-!
# A report says what will be chosen

A report takes the store's gateways as candidates under the versions that they have in the store.
The engine registers them one after another under versions of its own, and reconciles in between.
It gives out the versions in the order of the store, and no reconciliation moves the ground of a
selection; so in the end it has chosen what the report says.
-/

namespace DefaultGateway

open Kernel (Session)

/-- What a candidate offers, whatever its version. -/
def Candidate.offer (c : Candidate) : Candidate.Key × Address × Option Address :=
  (c.key, c.gateway, c.source)

/-! ## Stores made by edits -/

namespace Store

/-- A store that has come about from nothing by edits, with the number of gateways added. -/
inductive Made : Nat → Store → Prop
  | nothing : Made 0 {}
  | add {n : Nat} {s after : Store} {now : Instant} {key : Candidate.Key} {address : Address}
      {source : Option Address} {added : StoredGateway} :
      Made n s → s.add now key address source = .ok (added, after) → Made (n + 1) after
  | remove {n : Nat} {s : Store} (selector : Selector) : Made n s → Made n (s.remove selector)
  | disable {n : Nat} {s : Store} (selector : Selector) : Made n s → Made n (s.disable selector)
  | enable {n : Nat} {s : Store} (selector : Selector) : Made n s → Made n (s.enable selector)

end Store

open Upkeep (Tended)

variable {n : Nat} {store : Store}

/-- What is disabled has no part in the order of versions. -/
theorem Upkeep.Tended.of_gateways_eq
    {σ : Type} {u : Upkeep σ} (tended : u.Tended n) (same : store.gateways = u.store.gateways) :
    Tended n { u with store := store } := by
  obtain ⟨keys, versions, low, due, faithful, given, ordered, apart⟩ := tended
  rw [← same] at keys versions low due apart
  exact ⟨keys, versions, low, due, faithful, given, ordered, apart⟩

/-- In a store made by edits neither a key nor a version occurs twice. -/
theorem Store.Made.tended
    {σ : Type} (made : Made n store) (channel : σ) (settings : EngineSettings)
    (policy : Policy) :
    Tended n ⟨store, .new (Engine.new channel settings policy)⟩ := by
  induction made with
  | nothing => exact Upkeep.tended_fresh channel settings policy
  | add made ended inductionHypothesis => exact inductionHypothesis.add ended rfl
  | remove selector made inductionHypothesis => exact inductionHypothesis.remove selector
  | disable selector made inductionHypothesis => exact inductionHypothesis.of_gateways_eq rfl
  | enable selector made inductionHypothesis => exact inductionHypothesis.of_gateways_eq rfl

namespace StatusReport

/-! ## The model of a report -/

theorem modelOf_eq (table : UInt32) (snapshot : Snapshot) (store : Store) :
    modelOf table snapshot store =
      { ((Model.empty table).replaceFacts snapshot).1 with
        candidates := .ofList (store.gateways.map StoredGateway.candidate)
        disabled := store.disabled } := by
  have registered (l : List StoredGateway) (m : Model) :
      l.foldl (fun m g => (m.register g.candidate).1) m =
        { m with candidates := m.candidates.insertAll (l.map StoredGateway.candidate) } := by
    induction l generalizing m with
    | nil => rfl
    | cons g rest inductionHypothesis => exact inductionHypothesis (m.register g.candidate).1
  simp only [modelOf, registered]
  rfl

theorem candidate?_modelOf
    (table : UInt32) (snapshot : Snapshot) (store : Store) (key : Candidate.Key) :
    (modelOf table snapshot store).candidate? key =
      (store.standing? key).map StoredGateway.candidate := by
  rw [modelOf_eq, Model.candidate?, KeyedSet.find?_ofList, ← List.map_reverse, List.find?_map]
  rfl

theorem scene_modelOf (table : UInt32) (snapshot : Snapshot) (store : Store) :
    Model.SameScene (modelOf table snapshot store)
      ((Model.empty table).replaceFacts snapshot).1 := by
  rw [modelOf_eq]
  exact .of_eq rfl rfl rfl

/-! ## The report and the engine -/

variable {table : UInt32} {snapshot : Snapshot} {summary : SyncSummary} {s t : Synced Session}

/-- The version that an engine has given to what it remembers under a key. -/
def given (t : Synced Session) (key : Candidate.Key) : UInt64 :=
  ((t.applied.find? key).map (·.registration.version)).getD 0

theorem candidate_eq_of_terms
    {g h : StoredGateway} (sameKey : g.key = h.key) (sameTerms : g.terms = h.terms) :
    g.candidate = h.candidate := by
  cases g
  cases h
  simp_all [StoredGateway.key, StoredGateway.terms, StoredGateway.candidate]

/-- Of a gateway in the store the candidate of the report is remembered. -/
theorem remembered_of_standing
    (carries : Synced.Carries store summary s t) {key : Candidate.Key} {g : StoredGateway}
    (stands : store.standing? key = some g) :
    ∃ a, t.applied.find? key = some a ∧ a.gateway.candidate = g.candidate := by
  have sameTerms := carries.terms key
  rw [stands] at sameTerms
  obtain ⟨a, found, same⟩ := Option.map_eq_some_iff.1 sameTerms
  have sameKey := (KeyedSet.find?_eq_some_iff_key_eq.1 found).2
  exact ⟨a, found, candidate_eq_of_terms (sameKey.trans (Store.key_of_standing? stands).symm) same⟩

/-- An engine into which a store has been carried over has the candidates of the report, under
versions of its own. -/
theorem candidate?_carried
    (faithful : t.Faithful) (carries : Synced.Carries store summary s t) (key : Candidate.Key) :
    t.engine.model.candidate? key =
      ((modelOf table snapshot store).candidate? key).map (Candidate.renumber (given t)) := by
  rw [candidate?_modelOf, faithful.candidates]
  cases stands : store.standing? key with
  | none =>
      have forgotten : t.applied.find? key = none := by
        simpa [stands] using carries.terms key
      rw [forgotten]
      rfl
  | some g =>
      obtain ⟨a, found, same⟩ := remembered_of_standing carries stands
      have ours : g.candidate.key = key := Store.key_of_standing? stands
      rw [found, Option.map_some, Option.map_some, Option.map_some, Applied.candidate, same,
        Candidate.renumber, ours, given, found]
      rfl

/-- Somebody can be chosen by the engine if and only if somebody can for the report. -/
theorem winner_eq_none_iff_carried
    (faithful : t.Faithful) (carries : Synced.Carries store summary s t)
    (scene : Model.SameScene ((Model.empty table).replaceFacts snapshot).1 t.engine.model)
    (policy : Policy) (options : SelectionOptions) (family : Family) :
    (t.engine.model.evaluate policy options family).winner = none ↔
      ((modelOf table snapshot store).evaluate policy options family).winner = none := by
  have disabled : (modelOf table snapshot store).disabled = t.engine.model.disabled := by
    rw [modelOf_eq, carries.disabled]
  rw [Model.winner_eq_none_iff, Model.winner_eq_none_iff,
    Model.eligibleOf_renumber ((scene_modelOf table snapshot store).trans scene) disabled
      (candidate?_carried faithful carries),
    List.map_eq_nil_iff]

/-- The versions of its own are in the order of those in the report. -/
theorem renumbered_modelOf
    (tended : Tended n ⟨store, s⟩) (few : n < UInt64.size)
    (carries : Synced.Carries store summary s t)
    (scene : Model.SameScene ((Model.empty table).replaceFacts snapshot).1 t.engine.model) :
    Model.Renumbered (given t) (modelOf table snapshot store) t.engine.model where
  scene := (scene_modelOf table snapshot store).trans scene
  disabled := by rw [modelOf_eq, carries.disabled]
  candidates := candidate?_carried (tended.carry few carries).faithful carries
  ordered := by
    have remembered (c : Candidate) (known : c ∈ (modelOf table snapshot store).candidates) :
        ∃ a ∈ t.applied, a.gateway.version = c.version ∧
          given t c.key = a.registration.version := by
      have listed := candidate?_modelOf table snapshot store c.key
      rw [Model.candidate?, KeyedSet.find?_key_of_mem known] at listed
      obtain ⟨g, stands, rfl⟩ := Option.map_eq_some_iff.1 listed.symm
      obtain ⟨a, found, same⟩ := remembered_of_standing carries stands
      refine ⟨a, (KeyedSet.find?_eq_some_iff_key_eq.1 found).1,
        congrArg Candidate.version same, ?_⟩
      rw [given, found]
      rfl
    intro c known d knownToo
    obtain ⟨a, aKnown, aVersion, aGiven⟩ := remembered c known
    obtain ⟨b, bKnown, bVersion, bGiven⟩ := remembered d knownToo
    rw [← aVersion, ← bVersion, aGiven, bGiven]
    exact (tended.carry few carries).ordered a aKnown b bKnown

/-- For every store made by edits in which the registrar accepts all gateways, and in fewer
additions than there are versions less one, every configuration and every kernel: where nothing
fails, the report succeeds, and so do the first reading and the first sync of a new engine. For both
families the report selects what the engine has chosen in the end, but for the version. -/
theorem selected_eq_winner
    {additions : Nat} (made : store.Made additions) (few : additions < UInt64.size - 1)
    (accepted : ∀ g ∈ store.gateways, g.Accepted) (c : Config) {session : Session}
    (faultFree : session.FaultFree) :
    ∃ report queried seeds seeded summary synced,
      (query c store).runFrom session = (.ok report, queried) ∧
        Engine.seed.runFrom (Engine.new session c.engineSettings c.policy) = (.ok seeds, seeded) ∧
        (Synced.apply store).runFrom (.new seeded) = (.ok summary, synced) ∧
        summary.rejected = 0 ∧
        report.families.map FamilyStatus.family = Family.all ∧
        ∀ status ∈ report.families,
          status.selected.map Candidate.offer =
            (synced.engine.decision status.family).winner.map Candidate.offer := by
  obtain ⟨queried, read, -⟩ := Session.FaultFree.snapshot_eq faultFree
  have reported :
      (query c store).runFrom session =
        (.ok (ofModel (modelOf c.table session.kernel.snapshot store) c.policy
          c.engineSettings.selection), queried) :=
    Step.runFrom_bind_of_ok read
  obtain ⟨seeds, seeded, seeding, calm, coherent⟩ :=
    Engine.calm_seed (e := Engine.new session c.engineSettings c.policy) faultFree
      (Engine.coherent_new session c.engineSettings c.policy)
  -- The reading is a task that the engine is given before the sync, so the order of the versions
  -- outlasts it like any other.
  have whileSeeding :
      (Synced.new (Engine.new session c.engineSettings c.policy)).after
        (.meanwhile (.call .seed) Synced.quiet_seed) = .new seeded := by
    have performed :
        (Engine.Task.call .seed).perform.runFrom
            (Engine.new session c.engineSettings c.policy) = (.ok (), seeded) :=
      Step.runFrom_bind_of_ok seeding
    rw [Synced.after, Synced.onEngine, Step.runFrom_on, Synced.new, performed]
    rfl
  have tended :=
    (made.tended session c.engineSettings c.policy).meanwhile (by omega)
      Synced.quiet_seed
  dsimp only at tended
  rw [whileSeeding] at tended
  have ready : (Synced.new seeded).Ready seeded :=
    ⟨.refl calm.faultFree, coherent, tended.faithful⟩
  obtain ⟨summary, synced, applied, unrejected, after⟩ := ready.apply accepted
  have carries := Synced.carries_apply tended.faithful.keyed applied unrejected
  have throughout := calm.trans after.calm
  have renumbered := renumbered_modelOf tended (by omega) carries throughout.scene
  refine ⟨_, queried, seeds, seeded, summary, synced, reported, seeding, applied, unrejected, rfl,
    fun status member => ?_⟩
  obtain ⟨family, -, rfl⟩ := List.mem_map.1 member
  dsimp only
  -- What the engine has decided in the end is what its model calls for by then.
  rw [after.coherent.decision_eq, Engine.evaluate, throughout.policy, throughout.options]
  refine Eq.trans ?_ (congrArg (Option.map Candidate.offer)
    (renumbered.winner_eq c.policy c.engineSettings.selection family)).symm
  rw [Option.map_map]
  rfl

/-- The gateway on the first interface has been replaced after one on the second was added. -/
def readded : Store where
  gateways := [
    ⟨.inet, "eth0", .dhcp, .v4 0x0a000002#32, none, 3, default⟩,
    ⟨.inet, "wlan0", .dhcp, .v4 0x0a010001#32, none, 2, default⟩]
  disabled := .ofList [{ link := some "tun0" }]

theorem made_readded : readded.Made 3 := by
  have first :
      ({} : Store).add default ⟨.dhcp, "eth0", .inet⟩ (.v4 0x0a000001#32) none =
        .ok (⟨.inet, "eth0", .dhcp, .v4 0x0a000001#32, none, 1, default⟩,
          { gateways := [⟨.inet, "eth0", .dhcp, .v4 0x0a000001#32, none, 1, default⟩] }) := by
    simp only [Store.add, Store.sortGateways_eq_insertionSort]
    decide +kernel
  have second :
      ({ gateways := [⟨.inet, "eth0", .dhcp, .v4 0x0a000001#32, none, 1, default⟩] } : Store).add
          default ⟨.dhcp, "wlan0", .inet⟩ (.v4 0x0a010001#32) none =
        .ok (⟨.inet, "wlan0", .dhcp, .v4 0x0a010001#32, none, 2, default⟩,
          { gateways := [
              ⟨.inet, "eth0", .dhcp, .v4 0x0a000001#32, none, 1, default⟩,
              ⟨.inet, "wlan0", .dhcp, .v4 0x0a010001#32, none, 2, default⟩] }) := by
    simp only [Store.add, Store.sortGateways_eq_insertionSort]
    decide +kernel
  have third :
      ({ gateways := [
          ⟨.inet, "eth0", .dhcp, .v4 0x0a000001#32, none, 1, default⟩,
          ⟨.inet, "wlan0", .dhcp, .v4 0x0a010001#32, none, 2, default⟩] } : Store).add
          default ⟨.dhcp, "eth0", .inet⟩ (.v4 0x0a000002#32) none =
        .ok (⟨.inet, "eth0", .dhcp, .v4 0x0a000002#32, none, 3, default⟩,
          { readded with disabled := ∅ }) := by
    simp only [Store.add, Store.sortGateways_eq_insertionSort]
    decide +kernel
  exact (((Store.Made.nothing.add first).add second).add third).disable { link := some "tun0" }

/-- A default route is there that nobody has registered a gateway for. -/
def occupied : Session where
  kernel := { Engine.twoUplinks.kernel with
    routes := [.defaultVia .inet (.v4 0x0a0000fe#32) (some 2) 254 100] }
  mutationFaults := [none]

/-- The newest gateway is selected and chosen, under different versions. -/
theorem selected_eq_winner_readded :
    ∃ report queried seeds seeded summary synced,
      (query {} readded).runFrom occupied = (.ok report, queried) ∧
        Engine.seed.runFrom (Engine.new occupied {} {}) = (.ok seeds, seeded) ∧
        (Synced.apply readded).runFrom (.new seeded) = (.ok summary, synced) ∧
        report.families.map (fun status => (status.family, status.selected)) = [
          (.inet, some ⟨.dhcp, .inet, "eth0", .v4 0x0a000002#32, none, 3⟩), (.inet6, none)] ∧
        (synced.engine.decision .inet).winner.map Candidate.offer =
          some (⟨.dhcp, "eth0", .inet⟩, .v4 0x0a000002#32, none) := by
  have evaluated :
      ((query {} readded).runFrom occupied).1.map
          (fun report => report.families.map fun status => (status.family, status.selected)) =
        .ok [
          (.inet, some ⟨.dhcp, .inet, "eth0", .v4 0x0a000002#32, none, 3⟩), (.inet6, none)] := by
    decide +kernel
  have accepted : ∀ g ∈ readded.gateways, g.Accepted := by
    unfold StoredGateway.Accepted
    decide +kernel
  have faultFree : occupied.FaultFree := ⟨by decide +kernel, by decide +kernel⟩
  obtain ⟨report, queried, seeds, seeded, summary, synced, reported, seeding, applied, -, -,
    agree⟩ :=
    selected_eq_winner made_readded (by decide) accepted {} faultFree
  rw [reported] at evaluated
  have selected :
      report.families.map (fun status => (status.family, status.selected)) = [
        (.inet, some ⟨.dhcp, .inet, "eth0", .v4 0x0a000002#32, none, 3⟩), (.inet6, none)] :=
    Except.ok.inj evaluated
  refine
    ⟨report, queried, seeds, seeded, summary, synced, reported, seeding, applied, selected, ?_⟩
  have listed :
      (Family.inet,
          some (Candidate.mk .dhcp .inet "eth0" (.v4 0x0a000002#32) none 3)) ∈
        report.families.map fun status => (status.family, status.selected) := by
    rw [selected]
    exact List.mem_cons_self
  obtain ⟨status, member, same⟩ := List.mem_map.1 listed
  obtain ⟨family, candidate⟩ := Prod.mk.inj same
  have agreed := agree status member
  rw [family, candidate] at agreed
  exact agreed.symm

end StatusReport

end DefaultGateway
