import DefaultGateway.Proofs.Registry
import DefaultGateway.Proofs.Store
import DefaultGateway.Store.Sync

/-!
# One sync, gateway by gateway

A sync withdraws what has vanished from the store and takes in what is new or changed. Each of its
steps touches a single key, in what is remembered and in the engine alike; a step that is refused
or fails forgets the key.
-/

namespace DefaultGateway

variable {σ : Type}

/-- The candidate that stands for a registered gateway. -/
def Applied.candidate (a : Applied) : Candidate :=
  { a.gateway.candidate with version := a.registration.version }

namespace Synced

variable {s t u : Synced σ}

theorem find?_wanted (store : Store) (key : Candidate.Key) :
    (wanted store).find? key = store.standing? key :=
  KeyedSet.find?_ofList store.gateways key

theorem mem_vanished {store : Store} {a : Applied} :
    a ∈ s.vanished store ↔ a ∈ s.applied ∧ a.gateway.key ∉ store.keys := by
  rw [← Store.isSome_standing?_iff, ← find?_wanted, vanished, List.mem_filter]
  simp [KeyedSet.containsKey, KeyedSet.mem_toList]

theorem mem_changed {store : Store} {g : StoredGateway} :
    g ∈ s.changed store ↔
      store.standing? g.key = some g ∧
        (s.applied.find? g.key).map (·.gateway.terms) ≠ some g.terms := by
  have wantedIff : g ∈ wanted store ↔ store.standing? g.key = some g := by
    rw [← find?_wanted, KeyedSet.find?_eq_some_iff_key_eq]
    simp
  rw [changed, List.mem_mergeSort, List.mem_filter, KeyedSet.mem_toList, wantedIff]
  refine and_congr_right fun _ => ?_
  cases s.applied.find? g.key with
  | none => simp
  | some a => simp [← StoredGateway.sameRegistration_iff]

theorem mem_gateways_of_changed {store : Store} {g : StoredGateway} (listed : g ∈ s.changed store) :
    g ∈ store.gateways :=
  List.mem_reverse.1 (List.mem_of_find?_eq_some (mem_changed.1 listed).1)

theorem changed_eq_insertionSort (s : Synced σ) (store : Store) :
    s.changed store =
      ((wanted store).toList.filter fun g =>
        (s.applied.find? g.key).all fun a => !a.gateway.sameRegistration g).insertionSort
          fun g h => decide (g.version ≤ h.version) = true :=
  mergeSort_eq_insertionSort StoredGateway.version_le_trans StoredGateway.version_le_total _

theorem sorted_changed (s : Synced σ) (store : Store) :
    (s.changed store).Pairwise fun g h => g.version ≤ h.version :=
  (List.pairwise_mergeSort StoredGateway.version_le_trans StoredGateway.version_le_total
    _).imp of_decide_eq_true

theorem nodup_keys_changed (s : Synced σ) (store : Store) :
    ((s.changed store).map StoredGateway.key).Nodup := by
  rw [changed, ((List.mergeSort_perm _ _).map StoredGateway.key).nodup_iff]
  exact (wanted store).nodup_map_key.sublist (List.filter_sublist.map StoredGateway.key)

theorem nodup_keys_vanished (s : Synced σ) (store : Store) :
    ((s.vanished store).map (·.gateway.key)).Nodup :=
  s.applied.nodup_map_key.sublist (List.filter_sublist.map _)

/-! ## States -/

/-- Each registration that is remembered is under the key of its gateway. -/
def Keyed (s : Synced σ) : Prop :=
  ∀ a ∈ s.applied, a.registration.key = a.gateway.key

/-- The engine has the candidates of what is remembered, and no others. -/
structure Faithful (s : Synced σ) : Prop where
  keyed : s.Keyed
  candidates :
    ∀ key, s.engine.model.candidate? key = (s.applied.find? key).map Applied.candidate

/-- What is remembered for a key, and the candidate under it, are the same before and after. -/
structure SameAt (key : Candidate.Key) (s t : Synced σ) : Prop where
  applied : t.applied.find? key = s.applied.find? key
  candidate : t.engine.model.candidate? key = s.engine.model.candidate? key

theorem SameAt.refl (key : Candidate.Key) (s : Synced σ) : SameAt key s s := ⟨rfl, rfl⟩

theorem SameAt.trans
    {key : Candidate.Key} (first : SameAt key s t) (second : SameAt key t u) :
    SameAt key s u where
  applied := second.applied.trans first.applied
  candidate := second.candidate.trans first.candidate

/-- The keys in a list are forgotten and their candidates gone. -/
structure Clears (keys : List Candidate.Key) (s t : Synced σ) : Prop where
  applied : ∀ key, t.applied.find? key = if key ∈ keys then none else s.applied.find? key
  candidates :
    ∀ key,
      t.engine.model.candidate? key =
        if key ∈ keys then none else s.engine.model.candidate? key
  lastVersion : t.engine.lastVersion = s.engine.lastVersion

/-- What is remembered of a gateway that is taken in under the next version. -/
def next (s : Synced σ) (g : StoredGateway) : Applied :=
  ⟨⟨g.key, s.engine.lastVersion + 1⟩, g⟩

/-- A gateway is registered and remembered under the next version. -/
structure Takes (g : StoredGateway) (s t : Synced σ) : Prop where
  applied : t.applied = s.applied.insert (s.next g)
  candidates :
    t.engine.model.candidates = s.engine.model.candidates.insert (s.next g).candidate
  lastVersion : t.engine.lastVersion = s.engine.lastVersion + 1

/-- A gateway is forgotten, and no other key is touched. -/
structure Loses (g : StoredGateway) (s t : Synced σ) : Prop where
  applied : t.applied = s.applied.erase g.key
  apart : ∀ key, key ≠ g.key → SameAt key s t

theorem Takes.find?
    {g : StoredGateway} (takes : Takes g s t) (key : Candidate.Key) :
    t.applied.find? key = if g.key = key then some (s.next g) else s.applied.find? key := by
  rw [takes.applied, KeyedSet.find?_insert]
  rfl

theorem Takes.candidate?
    {g : StoredGateway} (takes : Takes g s t) (key : Candidate.Key) :
    t.engine.model.candidate? key =
      if g.key = key then some (s.next g).candidate else s.engine.model.candidate? key := by
  rw [Model.candidate?, takes.candidates, KeyedSet.find?_insert]
  rfl

theorem Takes.apart
    {g : StoredGateway} (takes : Takes g s t) {key : Candidate.Key} (other : key ≠ g.key) :
    SameAt key s t where
  applied := by rw [takes.find?, if_neg other.symm]
  candidate := by rw [takes.candidate?, if_neg other.symm]

theorem Takes.keyed
    {g : StoredGateway} (takes : Takes g s t) (keyed : s.Keyed) : t.Keyed := by
  intro a member
  rw [takes.applied] at member
  rcases KeyedSet.mem_insert.1 member with rfl | ⟨known, _⟩
  · rfl
  · exact keyed a known

theorem Takes.faithful
    {g : StoredGateway} (takes : Takes g s t) (faithful : s.Faithful) : t.Faithful where
  keyed := takes.keyed faithful.keyed
  candidates key := by
    rw [takes.candidate?, takes.find?, faithful.candidates key]
    split
    · rfl
    · rfl

theorem Loses.keyed
    {g : StoredGateway} (loses : Loses g s t) (keyed : s.Keyed) : t.Keyed := by
  intro a member
  rw [loses.applied] at member
  exact keyed a (KeyedSet.mem_erase.1 member).1

theorem Clears.keyed
    {keys : List Candidate.Key} (clears : Clears keys s t) (keyed : s.Keyed) : t.Keyed := by
  intro a member
  have found := KeyedSet.find?_key_of_mem member
  rw [clears.applied] at found
  split at found
  · cases found
  · exact keyed a (KeyedSet.find?_eq_some_iff_key_eq.1 found).1

theorem Clears.faithful
    {keys : List Candidate.Key} (clears : Clears keys s t) (faithful : s.Faithful) :
    t.Faithful where
  keyed := clears.keyed faithful.keyed
  candidates key := by
    rw [clears.candidates, clears.applied, faithful.candidates key]
    split
    · rfl
    · rfl

theorem Clears.nil (s : Synced σ) : Clears [] s s := ⟨by simp, by simp, rfl⟩

theorem Clears.trans
    {keys more : List Candidate.Key} (first : Clears keys s t) (second : Clears more t u) :
    Clears (keys ++ more) s u where
  applied key := by
    rw [second.applied, first.applied]
    by_cases early : key ∈ keys
    · simp [early]
    · simp [early]
  candidates key := by
    rw [second.candidates, first.candidates]
    by_cases early : key ∈ keys
    · simp [early]
    · simp [early]
  lastVersion := second.lastVersion.trans first.lastVersion

/-- The gateways of a list are taken in one after the other. -/
inductive TakesAll : List StoredGateway → Synced σ → Synced σ → Prop
  | nil (s : Synced σ) : TakesAll [] s s
  | cons {g : StoredGateway} {rest : List StoredGateway} {s t u : Synced σ} :
      Takes g s t → TakesAll rest t u → TakesAll (g :: rest) s u

variable {l : List StoredGateway}

theorem TakesAll.faithful (takes : TakesAll l s t) (faithful : s.Faithful) : t.Faithful := by
  induction takes with
  | nil s => exact faithful
  | cons first _ inductionHypothesis => exact inductionHypothesis (first.faithful faithful)

theorem TakesAll.apart
    (takes : TakesAll l s t) {key : Candidate.Key} (unlisted : ∀ g ∈ l, g.key ≠ key) :
    SameAt key s t := by
  induction takes with
  | nil s => exact .refl key s
  | cons first _ inductionHypothesis =>
      obtain ⟨other, others⟩ := List.forall_mem_cons.1 unlisted
      exact (first.apart other.symm).trans (inductionHypothesis others)

theorem TakesAll.lastVersion (takes : TakesAll l s t) :
    t.engine.lastVersion = s.engine.lastVersion + UInt64.ofNat l.length := by
  induction takes with
  | nil s => simp
  | cons first _ inductionHypothesis =>
      rw [inductionHypothesis, first.lastVersion, List.length_cons, UInt64.ofNat_add,
        UInt64.add_assoc, UInt64.add_comm 1]
      rfl

/-- Each gateway gets the version that belongs to its place in the list. -/
theorem TakesAll.find?
    (takes : TakesAll l s t) (distinct : (l.map StoredGateway.key).Nodup)
    {i : Nat} {g : StoredGateway} (listed : l[i]? = some g) :
    t.applied.find? g.key =
      some ⟨⟨g.key, s.engine.lastVersion + UInt64.ofNat (i + 1)⟩, g⟩ := by
  induction takes generalizing i with
  | nil s => simp at listed
  | @cons h rest s u t first later inductionHypothesis =>
      rw [List.map_cons, List.nodup_cons] at distinct
      obtain ⟨apart, distinctRest⟩ := distinct
      cases i with
      | zero =>
          obtain rfl : h = g := by simpa using listed
          -- What is taken in later is of other keys.
          have unlisted : ∀ other ∈ rest, other.key ≠ h.key := fun other member same =>
            apart (same ▸ List.mem_map_of_mem member)
          rw [(later.apart unlisted).applied, first.find?, if_pos rfl]
          rfl
      | succ i =>
          rw [inductionHypothesis distinctRest (by simpa using listed), first.lastVersion,
            UInt64.ofNat_add (i + 1), UInt64.add_assoc, UInt64.add_comm 1]
          rfl

/-! ## Withdrawals -/

variable [RouteChannel σ]

theorem clears_withdrawVanished
    {a : Applied} (keyed : a.registration.key = a.gateway.key)
    {outcome : Except Error SyncSummary.Outcome}
    (ended : (withdrawVanished a).runFrom s = (outcome, t)) :
    Clears [a.gateway.key] s t ∧
      ∀ counted, outcome = .ok counted → counted = .withdrawn := by
  obtain ⟨candidates, -, lastVersion⟩ := Engine.state_withdraw a.registration s.engine
  have clears (after : Synced σ) (applied : after.applied = s.applied.erase a.gateway.key)
      (engine : after.engine = ((Engine.withdraw a.registration).runFrom s.engine).2) :
      Clears [a.gateway.key] s after := by
    refine ⟨fun key => ?_, fun key => ?_, engine ▸ lastVersion⟩
    · rw [applied, KeyedSet.find?_erase]
      simp [eq_comm]
    · rw [engine, Model.candidate?, candidates, keyed, KeyedSet.find?_erase]
      simp [eq_comm, Model.candidate?]
  rw [withdrawVanished, forget, Step.runFrom_bind_of_ok (Step.runFrom_modify _ s),
    Step.runFrom_bind_of_ok (Step.runFrom_attempt _ _)] at ended
  -- The key is cleared whatever the engine has answered; a failure is passed on only then.
  split at ended
  · cases ended
    exact ⟨clears _ rfl rfl, fun counted same => by cases same; rfl⟩
  · cases ended
    exact ⟨clears _ rfl rfl, fun counted same => by cases same; rfl⟩
  · cases ended
    exact ⟨clears _ rfl rfl, fun counted same => by cases same⟩

/-- The first of the vanished keys are cleared, and all of them unless a withdrawal fails. The one
that fails is cleared too. -/
theorem clears_countAll
    {l : List Applied} (keyed : ∀ a ∈ l, a.registration.key = a.gateway.key)
    {summary : SyncSummary} {outcome : Except Error SyncSummary}
    (ended : (countAll withdrawVanished summary l).runFrom s = (outcome, t)) :
    ∃ keys, keys <+: l.map (·.gateway.key) ∧ Clears keys s t ∧
      (∀ final, outcome = .ok final →
        keys = l.map (·.gateway.key) ∧
          final = { summary with withdrawn := summary.withdrawn + l.length }) ∧
      ∀ error, outcome = .error error → keys ≠ [] := by
  induction l generalizing s summary with
  | nil =>
      cases ended
      exact ⟨[], List.prefix_rfl, .nil _, fun final same => by cases same; simp,
        fun error same => by cases same⟩
  | cons a rest inductionHypothesis =>
      obtain ⟨keyedFirst, keyedRest⟩ := List.forall_mem_cons.1 keyed
      rw [countAll, Step.runFrom_bind] at ended
      cases first : (withdrawVanished a).runFrom s with
      | mk counted u =>
          obtain ⟨cleared, withdrawn⟩ := clears_withdrawVanished keyedFirst first
          rw [first] at ended
          cases counted with
          | error error =>
              cases ended
              exact ⟨[a.gateway.key], by simp, cleared, by simp, by simp⟩
          | ok counted =>
              obtain ⟨keys, listed, clearedRest, done, -⟩ :=
                inductionHypothesis keyedRest ended
              refine ⟨a.gateway.key :: keys, ?_, cleared.trans clearedRest, ?_, by simp⟩
              · exact (List.prefix_cons_inj _).2 listed
              · intro final same
                obtain ⟨allKeys, count⟩ := done final same
                refine ⟨by rw [allKeys]; rfl, ?_⟩
                rw [count, withdrawn counted rfl]
                simp [SyncSummary.add, Nat.add_assoc, Nat.add_comm 1]

/-! ## Registrations -/

/-- How a gateway is registered: under what is remembered for its key, if anything is. -/
def admission (s : Synced σ) (g : StoredGateway) : Step (Engine σ) Registration :=
  match s.applied.find? g.key with
  | some a => Engine.update a.registration g.address g.source
  | none => Engine.register g.key g.address g.source

theorem put_of_admission
    (keyed : s.Keyed) {g : StoredGateway} {outcome : Except Error Registration}
    {after : Engine σ} (ended : (s.admission g).runFrom s.engine = (outcome, after)) :
    (after = s.engine ∧ ∃ error, outcome = .error error) ∨
      (Engine.putCandidate g.key g.address g.source).runFrom s.engine = (outcome, after) := by
  rw [admission] at ended
  cases known : s.applied.find? g.key with
  | none =>
      rw [known] at ended
      exact Engine.put_of_register ended
  | some a =>
      rw [known] at ended
      obtain ⟨member, sameKey⟩ := KeyedSet.find?_eq_some_iff_key_eq.1 known
      have put := Engine.put_of_update ended
      rwa [keyed a member, sameKey] at put

/-- The engine is left as the admission leaves it, and the gateway is remembered only if it was
admitted. -/
theorem runFrom_registerChanged (g : StoredGateway) (s : Synced σ) :
    (registerChanged g).runFrom s =
      match (s.admission g).runFrom s.engine with
      | (.ok registration, after) =>
          (.ok (if (s.applied.find? g.key).isSome then .updated else .registered),
            ⟨after, (s.applied.erase g.key).insert ⟨registration, g⟩⟩)
      | (.error error, after) =>
          (match error with
            | .invalidRegistration _ | .unknownRegistration _ => .ok .rejected
            | error => .error error, ⟨after, s.applied.erase g.key⟩) := by
  rw [registerChanged, Step.runFrom_bind_of_ok (Step.runFrom_get s), forget,
    Step.runFrom_bind_of_ok (Step.runFrom_modify _ s)]
  have attempted :
      ((onEngine (s.admission g)).attempt).runFrom
          { s with applied := s.applied.erase g.key } =
        (.ok ((s.admission g).runFrom s.engine).1,
          ⟨((s.admission g).runFrom s.engine).2, s.applied.erase g.key⟩) := rfl
  refine (Step.runFrom_bind_of_ok attempted).trans ?_
  cases (s.admission g).runFrom s.engine with
  | mk outcome after =>
      cases outcome with
      | ok registration => rfl
      | error error => cases error <;> rfl

/-- A changed gateway is taken in, or lost. -/
theorem registerChanged_cases
    (keyed : s.Keyed) {g : StoredGateway} {outcome : Except Error SyncSummary.Outcome}
    (ended : (registerChanged g).runFrom s = (outcome, t)) :
    (Takes g s t ∧
        outcome = .ok (if (s.applied.find? g.key).isSome then .updated else .registered)) ∨
      (Loses g s t ∧ ∀ counted, outcome = .ok counted → counted = .rejected) := by
  rw [runFrom_registerChanged] at ended
  cases admitted : (s.admission g).runFrom s.engine with
  | mk admittedAs after =>
      rw [admitted] at ended
      have put := put_of_admission keyed admitted
      cases admittedAs with
      | ok registration =>
          cases ended
          rcases put with ⟨-, error, impossible⟩ | put
          · cases impossible
          · obtain ⟨same, version⟩ := Engine.sameRegistry_putCandidate put
            obtain rfl := version registration rfl
            exact
              .inl ⟨⟨KeyedSet.insert_erase_key s.applied (s.next g), same.candidates,
                same.lastVersion⟩, rfl⟩
      | error error =>
          refine .inr ?_
          -- The candidate may have been put in before the failure, so its own key is left out.
          have apart : ∀ key, key ≠ g.key →
              after.model.candidate? key = s.engine.model.candidate? key := by
            intro key other
            rcases put with ⟨rfl, -⟩ | put
            · rfl
            · obtain ⟨same, -⟩ := Engine.sameRegistry_putCandidate put
              rw [Model.candidate?, same.candidates]
              exact (KeyedSet.find?_insert _ _ _).trans (if_neg other.symm)
          have loses :
              Loses g s ⟨after, s.applied.erase g.key⟩ :=
            ⟨rfl, fun key other =>
              ⟨(KeyedSet.find?_erase ..).trans (if_neg other.symm), apart key other⟩⟩
          cases ended
          refine ⟨loses, fun counted same => ?_⟩
          split at same
          · cases same
            rfl
          · cases same
            rfl
          · cases same

/-- However it ends, only the keys of the changed gateways are touched. -/
theorem apart_countAll
    (keyed : s.Keyed) {summary : SyncSummary} {outcome : Except Error SyncSummary}
    (ended : (countAll registerChanged summary l).runFrom s = (outcome, t)) :
    t.Keyed ∧ ∀ key, (∀ g ∈ l, g.key ≠ key) → SameAt key s t := by
  induction l generalizing s summary with
  | nil =>
      cases ended
      exact ⟨keyed, fun key _ => .refl key _⟩
  | cons g rest inductionHypothesis =>
      rw [countAll, Step.runFrom_bind] at ended
      cases first : (registerChanged g).runFrom s with
      | mk counted u =>
          rw [first] at ended
          have done : u.Keyed ∧ ∀ key, key ≠ g.key → SameAt key s u := by
            rcases registerChanged_cases keyed first with ⟨takes, -⟩ | ⟨loses, -⟩
            · exact ⟨takes.keyed keyed, fun key other => takes.apart other⟩
            · exact ⟨loses.keyed keyed, loses.apart⟩
          cases counted with
          | error error =>
              cases ended
              exact ⟨done.1, fun key unlisted => done.2 key (unlisted g (by simp)).symm⟩
          | ok counted =>
              obtain ⟨keyedAfter, apart⟩ := inductionHypothesis done.1 ended
              refine ⟨keyedAfter, fun key unlisted => ?_⟩
              obtain ⟨other, others⟩ := List.forall_mem_cons.1 unlisted
              exact (done.2 key other.symm).trans (apart key others)

omit [RouteChannel σ] in
theorem rejected_le_countAll
    {β : Type} {step : β → Step (Synced σ) SyncSummary.Outcome} {l : List β}
    {summary final : SyncSummary} (ended : (countAll step summary l).runFrom s = (.ok final, t)) :
    summary.rejected ≤ final.rejected := by
  induction l generalizing s summary with
  | nil =>
      cases ended
      exact Nat.le_refl _
  | cons b rest inductionHypothesis =>
      obtain ⟨counted, u, -, later⟩ := Step.ok_of_runFrom_bind ended
      refine Nat.le_trans ?_ (inductionHypothesis later)
      cases counted <;> simp [SyncSummary.add]

omit [RouteChannel σ] in
theorem countP_known_congr
    (test : Option Applied → Bool)
    (unmoved : ∀ g ∈ l, t.applied.find? g.key = s.applied.find? g.key) :
    l.countP (fun g => test (t.applied.find? g.key)) =
      l.countP fun g => test (s.applied.find? g.key) :=
  List.countP_congr fun g member => by rw [unmoved g member]

/-- Where nothing is rejected, all gateways are taken in: those whose keys were remembered count as
updated, the others as registered. -/
theorem takesAll_countAll
    (keyed : s.Keyed) (distinct : (l.map StoredGateway.key).Nodup)
    {summary final : SyncSummary}
    (ended : (countAll registerChanged summary l).runFrom s = (.ok final, t))
    (unrejected : final.rejected = 0) :
    TakesAll l s t ∧
      final =
        { summary with
          registered := summary.registered + l.countP fun g => (s.applied.find? g.key).isNone
          updated := summary.updated + l.countP fun g => (s.applied.find? g.key).isSome } := by
  induction l generalizing s summary with
  | nil =>
      cases ended
      exact ⟨.nil _, rfl⟩
  | cons g rest inductionHypothesis =>
      obtain ⟨apart, distinctRest⟩ := List.nodup_cons.1 distinct
      obtain ⟨counted, u, first, later⟩ := Step.ok_of_runFrom_bind ended
      rcases registerChanged_cases keyed first with ⟨takes, asCounted⟩ | ⟨-, asCounted⟩
      · obtain ⟨takesRest, count⟩ :=
          inductionHypothesis (takes.keyed keyed) distinctRest later
        refine ⟨.cons takes takesRest, ?_⟩
        have unmoved : ∀ h ∈ rest, u.applied.find? h.key = s.applied.find? h.key := by
          intro h member
          have other : h.key ≠ g.key := fun same => apart (same ▸ List.mem_map_of_mem member)
          exact (takes.apart other).applied
        have news := countP_known_congr Option.isNone unmoved
        have updates := countP_known_congr Option.isSome unmoved
        cases asCounted
        rw [count, news, updates]
        cases known : s.applied.find? g.key with
        | none => simp [SyncSummary.add, known, Nat.add_assoc, Nat.add_comm 1]
        | some a => simp [SyncSummary.add, known, Nat.add_assoc, Nat.add_comm 1]
      · -- A rejection would still be counted at the end.
        cases asCounted counted rfl
        have more := rejected_le_countAll later
        simp [SyncSummary.add, unrejected] at more

/-! ## Whole syncs -/

omit [RouteChannel σ] in
/-- What is withdrawn does not bear on what is new or changed. -/
theorem changed_eq_of_clears
    {store : Store} {keys : List Candidate.Key} (clears : Clears keys s t)
    (foreign : ∀ key ∈ keys, key ∉ store.keys) : t.changed store = s.changed store := by
  rw [changed, changed]
  congr 1
  refine List.filter_congr fun g member => ?_
  have stored : g.key ∈ store.keys := by
    rw [← Store.isSome_standing?_iff, ← find?_wanted, KeyedSet.find?_key_of_mem member]
    rfl
  have kept : t.applied.find? g.key = s.applied.find? g.key := by
    rw [clears.applied, if_neg fun cleared => foreign g.key cleared stored]
  rw [kept]

omit [RouteChannel σ] in
theorem foreign_of_vanished
    {store : Store} {key : Candidate.Key}
    (gone : key ∈ (s.vanished store).map (·.gateway.key)) : key ∉ store.keys := by
  obtain ⟨a, member, rfl⟩ := List.mem_map.1 gone
  exact (mem_vanished.1 member).2

omit [RouteChannel σ] in
theorem stored_of_changed
    {store : Store} {g : StoredGateway} (changed : g ∈ s.changed store) : g.key ∈ store.keys :=
  Store.mem_keys_of_standing? (mem_changed.1 changed).1

omit [RouteChannel σ] in
/-- Once the vanished are gone, no key is remembered but such as are in the store. -/
theorem find?_eq_none_of_clears
    {store : Store} {key : Candidate.Key}
    (clears : Clears ((s.vanished store).map (·.gateway.key)) s t) (foreign : key ∉ store.keys) :
    t.applied.find? key = none := by
  rw [clears.applied]
  split
  · rfl
  · rename_i still
    refine Option.eq_none_iff_forall_ne_some.2 fun a known => still ?_
    obtain ⟨member, sameKey⟩ := KeyedSet.find?_eq_some_iff_key_eq.1 known
    exact List.mem_map.2 ⟨a, mem_vanished.2 ⟨member, sameKey ▸ foreign⟩, sameKey⟩

omit [RouteChannel σ] in
theorem Faithful.of_eq
    (faithful : s.Faithful) (applied : t.applied = s.applied)
    (candidates : t.engine.model.candidates = s.engine.model.candidates) : t.Faithful where
  keyed a member := faithful.keyed a (applied ▸ member)
  candidates key := by
    rw [Model.candidate?, candidates, applied]
    exact faithful.candidates key

/-- What a sync comes to that succeeds and rejects nothing. -/
structure Carries (store : Store) (summary : SyncSummary) (s t : Synced σ) : Prop where
  gone : ∀ key ∉ store.keys, t.applied.find? key = none
  kept :
    ∀ key ∈ store.keys, (∀ g ∈ s.changed store, g.key ≠ key) →
      t.applied.find? key = s.applied.find? key
  taken :
    ∀ i g, (s.changed store)[i]? = some g →
      t.applied.find? g.key =
        some ⟨⟨g.key, s.engine.lastVersion + UInt64.ofNat (i + 1)⟩, g⟩
  lastVersion :
    t.engine.lastVersion = s.engine.lastVersion + UInt64.ofNat (s.changed store).length
  faithful : s.Faithful → t.Faithful
  disabled : t.engine.model.disabled = store.disabled
  counts :
    summary = {
      registered := (s.changed store).countP fun g => (s.applied.find? g.key).isNone
      updated := (s.changed store).countP fun g => (s.applied.find? g.key).isSome
      withdrawn := (s.vanished store).length }

/-- The end of a sync changes nothing but what is disabled. -/
theorem state_disabling (disabled : SortedSet Selector) (s : Synced σ) :
    let after := ((onEngine (Engine.setDisabled disabled)).runFrom s).2
    after.applied = s.applied ∧
      after.engine.model.candidates = s.engine.model.candidates ∧
      after.engine.model.disabled = disabled ∧
      after.engine.lastVersion = s.engine.lastVersion :=
  ⟨rfl, Engine.state_setDisabled disabled s.engine⟩

theorem carries_apply
    (keyed : s.Keyed) {store : Store} {summary : SyncSummary}
    (ended : (apply store).runFrom s = (.ok summary, t)) (unrejected : summary.rejected = 0) :
    Carries store summary s t := by
  rw [apply, Step.runFrom_bind_of_ok (Step.runFrom_get s)] at ended
  obtain ⟨withdrawn, u, withdrawal, ended⟩ := Step.ok_of_runFrom_bind ended
  rw [Step.runFrom_bind_of_ok (Step.runFrom_get u)] at ended
  obtain ⟨registered, v, registration, ended⟩ := Step.ok_of_runFrom_bind ended
  obtain ⟨reports, w, disabling, ended⟩ := Step.ok_of_runFrom_bind ended
  cases ended
  obtain ⟨keys, -, clears, done, -⟩ :=
    clears_countAll (fun a member => keyed a (mem_vanished.1 member).1) withdrawal
  obtain ⟨rfl, counted⟩ := done withdrawn rfl
  -- What is new or changed is determined only now, but as it was before the withdrawals.
  rw [changed_eq_of_clears clears fun key => foreign_of_vanished] at registration
  obtain ⟨takes, count⟩ :=
    takesAll_countAll (clears.keyed keyed) (nodup_keys_changed s store) registration unrejected
  have unmoved : ∀ g ∈ s.changed store, u.applied.find? g.key = s.applied.find? g.key := by
    intro g member
    rw [clears.applied, if_neg fun cleared =>
      foreign_of_vanished cleared (stored_of_changed member)]
  obtain ⟨applied, candidates, disabled, lastVersion⟩ := state_disabling store.disabled v
  rw [disabling] at applied candidates disabled lastVersion
  exact {
    gone := fun key foreign => by
      have unlisted : ∀ g ∈ s.changed store, g.key ≠ key := fun g member same =>
        foreign (same ▸ stored_of_changed member)
      rw [applied, (takes.apart unlisted).applied, find?_eq_none_of_clears clears foreign]
    kept := fun key stored unlisted => by
      rw [applied, (takes.apart unlisted).applied, clears.applied,
        if_neg fun cleared => foreign_of_vanished cleared stored]
    taken := fun i g listed => by
      rw [applied, takes.find? (nodup_keys_changed s store) listed, clears.lastVersion]
    lastVersion := by rw [lastVersion, takes.lastVersion, clears.lastVersion]
    faithful := fun faithful =>
      (takes.faithful (clears.faithful faithful)).of_eq applied candidates
    disabled := disabled
    counts := by
      have news := countP_known_congr Option.isNone unmoved
      have updates := countP_known_congr Option.isSome unmoved
      rw [count, counted, news, updates]
      simp
  }

/-- However a sync goes on once the vanished have been withdrawn, no key is touched that is not in
the store. -/
theorem apart_registrations
    (keyed : s.Keyed) {store : Store} {withdrawn : SyncSummary}
    {outcome : Except Error SyncSummary}
    (ended :
      (do
        let summary ← countAll registerChanged withdrawn (s.changed store)
        let _ ← onEngine (Engine.setDisabled store.disabled)
        return summary : Step (Synced σ) SyncSummary).runFrom s = (outcome, t)) :
    t.Keyed ∧ ∀ key ∉ store.keys, SameAt key s t := by
  rw [Step.runFrom_bind] at ended
  cases registration : (countAll registerChanged withdrawn (s.changed store)).runFrom s with
  | mk registered v =>
      obtain ⟨keyedAfter, apart⟩ := apart_countAll keyed registration
      have foreign : ∀ key ∉ store.keys, SameAt key s v := fun key foreign =>
        apart key fun g member same => foreign (same ▸ stored_of_changed member)
      rw [registration] at ended
      cases registered with
      | error error =>
          cases ended
          exact ⟨keyedAfter, foreign⟩
      | ok registered =>
          obtain ⟨applied, candidates, -, -⟩ := state_disabling store.disabled v
          rw [← Step.state_bind_pure _ fun _ => registered] at applied candidates
          dsimp only at ended
          rw [ended] at applied candidates
          refine ⟨fun a member => keyedAfter a (applied ▸ member), fun key outside => ?_⟩
          refine (foreign key outside).trans ⟨congrArg (KeyedSet.find? · key) applied, ?_⟩
          exact congrArg (KeyedSet.find? · key) candidates

/-- However a sync ends, a key that is not in the store is left alone, or cleared if it was
remembered. After a success it is not remembered. -/
theorem apart_apply
    (keyed : s.Keyed) {store : Store} {outcome : Except Error SyncSummary}
    (ended : (apply store).runFrom s = (outcome, t)) :
    t.Keyed ∧
      ∀ key ∉ store.keys,
        (SameAt key s t ∨
            ((s.applied.find? key).isSome = true ∧ t.engine.model.candidate? key = none)) ∧
          ∀ summary, outcome = .ok summary → t.applied.find? key = none := by
  rw [apply, Step.runFrom_bind_of_ok (Step.runFrom_get s), Step.runFrom_bind] at ended
  cases withdrawal : (countAll withdrawVanished {} (s.vanished store)).runFrom s with
  | mk withdrawn u =>
      obtain ⟨keys, listed, clears, done, -⟩ :=
        clears_countAll (fun a member => keyed a (mem_vanished.1 member).1) withdrawal
      have cleared (key : Candidate.Key) :
          SameAt key s u ∨
            ((s.applied.find? key).isSome = true ∧ u.engine.model.candidate? key = none) := by
        by_cases gone : key ∈ keys
        · refine .inr ⟨?_, by rw [clears.candidates, if_pos gone]⟩
          obtain ⟨a, member, rfl⟩ := List.mem_map.1 (listed.subset gone)
          rw [KeyedSet.find?_key_of_mem (mem_vanished.1 member).1]
          rfl
        · refine .inl ⟨?_, ?_⟩
          · rw [clears.applied, if_neg gone]
          · rw [clears.candidates, if_neg gone]
      rw [withdrawal] at ended
      cases withdrawn with
      | error error =>
          cases ended
          exact ⟨clears.keyed keyed, fun key _ => ⟨cleared key, fun summary same => by
            cases same⟩⟩
      | ok withdrawn =>
          obtain ⟨rfl, -⟩ := done withdrawn rfl
          dsimp only at ended
          rw [Step.runFrom_bind_of_ok (Step.runFrom_get u)] at ended
          obtain ⟨keyedAfter, apart⟩ := apart_registrations (clears.keyed keyed) ended
          refine ⟨keyedAfter, fun key foreign => ⟨?_, fun _ _ => ?_⟩⟩
          · have same := apart key foreign
            rcases cleared key with before | ⟨remembered, gone⟩
            · exact .inl (before.trans same)
            · exact .inr ⟨remembered, same.candidate.trans gone⟩
          · rw [(apart key foreign).applied, find?_eq_none_of_clears clears foreign]

/-- Where nothing has vanished or changed, a sync asks nothing of the engine. -/
theorem apply_of_unchanged
    {store : Store} (vanished : s.vanished store = []) (changed : s.changed store = [])
    (disabled : s.engine.model.disabled = store.disabled) :
    (apply store).runFrom s = (.ok {}, s) := by
  have same : s.engine.model.setDisabled store.disabled = (s.engine.model, false) := by
    simp [Model.setDisabled, ← disabled]
  have disabling : (onEngine (Engine.setDisabled store.disabled)).runFrom s = (.ok [], s) := by
    have unmoved : (Engine.setDisabled store.disabled).runFrom s.engine = (.ok [], s.engine) := by
      rw [Engine.setDisabled, Step.runFrom_bind_of_ok (Engine.runFrom_changeModel _ s.engine), same]
      rfl
    rw [onEngine, Step.runFrom_on, unmoved]
  rw [apply, Step.runFrom_bind_of_ok (Step.runFrom_get s), vanished, countAll, pure_bind,
    Step.runFrom_bind_of_ok (Step.runFrom_get s), changed, countAll, pure_bind,
    Step.runFrom_bind_of_ok disabling]
  rfl

end Synced

end DefaultGateway
