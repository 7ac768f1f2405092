import DefaultGateway.Proofs.Sync
import Mathlib.Data.Finset.Basic
import Mathlib.Data.Finset.SDiff

/-!
# A history of syncs

Stores are carried over into an engine one after the other, and in between the engine is called for
anything but registrations. As long as every sync succeeds and rejects nothing, the engine mirrors
the store carried over last.
-/

namespace DefaultGateway

variable {σ : Type}

/-! ## What a sync should count -/

/-- What there is to be counted in going over from one store to another. -/
def SyncSummary.between (old new : Store) : SyncSummary where
  registered := (new.keys \ old.keys).card
  updated :=
    ((new.keys ∩ old.keys).filter fun key =>
      (old.standing? key).map StoredGateway.terms ≠
        (new.standing? key).map StoredGateway.terms).card
  withdrawn := (old.keys \ new.keys).card

/-- The rows of a list without double keys that pass a test are as many as their keys. -/
theorem countP_eq_card
    {α κ : Type} [DecidableEq κ] {key : α → κ} {l : List α} (distinct : (l.map key).Nodup)
    {test : α → Bool} {keys : Finset κ}
    (passing : ∀ k, k ∈ keys ↔ ∃ a ∈ l, test a = true ∧ key a = k) :
    l.countP test = keys.card := by
  have same : keys = ((l.filter test).map key).toFinset := by
    ext k
    simp [passing, and_assoc]
  rw [same, List.toFinset_card_of_nodup (distinct.sublist (List.filter_sublist.map key)),
    List.length_map, List.countP_eq_length_filter]

namespace Synced

variable {s t : Synced σ}

/-! ## Moves -/

/-- A sync, or anything that is asked of the engine but to register or withdraw. -/
inductive Move
  | sync (store : Store)
  | meanwhile (task : Engine.Task) (quiet : task.registers = false)

theorem quiet_seed : (Engine.Task.call .seed).registers = false := rfl

def lastSynced : Store → List Move → Store
  | store, [] => store
  | _, .sync store :: rest => lastSynced store rest
  | store, .meanwhile _ _ :: rest => lastSynced store rest

section Definitions

variable [RouteChannel σ]

/-- What a move leaves, however it ends. -/
def after (s : Synced σ) : Move → Synced σ
  | .sync store => ((apply store).runFrom s).2
  | .meanwhile task _ => ((onEngine task.perform).runFrom s).2

/-- Whether a move goes smoothly: a sync must succeed and reject nothing. -/
def smooth (s : Synced σ) : Move → Bool
  | .sync store =>
      match ((apply store).runFrom s).1 with
      | .ok summary => summary.rejected == 0
      | .error _ => false
  | .meanwhile _ _ => true

def run (s : Synced σ) : List Move → Synced σ
  | [] => s
  | move :: rest => (s.after move).run rest

def allSmooth (s : Synced σ) : List Move → Bool
  | [] => true
  | move :: rest => s.smooth move && (s.after move).allSmooth rest

end Definitions

/-! ## The engine mirrors the store -/

/-- What is remembered is what stands in the store, and the candidates are those of what is
remembered. -/
structure Mirrors (store : Store) (s : Synced σ) : Prop where
  faithful : s.Faithful
  terms :
    ∀ key,
      (s.applied.find? key).map (·.gateway.terms) =
        (store.standing? key).map StoredGateway.terms

theorem mirrors_new (channel : σ) (settings : EngineSettings) (policy : Policy) :
    Mirrors {} (new (Engine.new channel settings policy)) where
  faithful := ⟨fun _ member => absurd member (KeyedSet.not_mem_empty _), fun _ => rfl⟩
  terms _ := rfl

theorem Mirrors.isSome_find?_iff
    {store : Store} (mirrors : Mirrors store s) (key : Candidate.Key) :
    (s.applied.find? key).isSome = true ↔ key ∈ store.keys := by
  rw [← Store.isSome_standing?_iff, ← Option.isSome_map (f := StoredGateway.terms),
    ← mirrors.terms, Option.isSome_map]

variable {past store : Store} {summary : SyncSummary}

/-- A gateway that stands in the store is taken in anew, or was carried over on the same terms
before. -/
theorem Carries.of_standing
    (carries : Carries store summary s t) {g : StoredGateway}
    (stands : store.standing? g.key = some g) :
    (∃ i : Nat, (s.changed store)[i]? = some g) ∨
      ((s.applied.find? g.key).map (·.gateway.terms) = some g.terms ∧
        t.applied.find? g.key = s.applied.find? g.key) := by
  by_cases sameTerms : (s.applied.find? g.key).map (·.gateway.terms) = some g.terms
  · have stored := Store.mem_keys_of_standing? stands
    refine .inr ⟨sameTerms, carries.kept g.key stored fun h member sameKey => ?_⟩
    obtain ⟨standsToo, otherTerms⟩ := mem_changed.1 member
    rw [sameKey, stands] at standsToo
    cases standsToo
    exact otherTerms sameTerms
  · exact .inl (List.mem_iff_getElem?.1 (mem_changed.2 ⟨stands, sameTerms⟩))

theorem Carries.terms
    (carries : Carries store summary s t) (key : Candidate.Key) :
    (t.applied.find? key).map (·.gateway.terms) =
      (store.standing? key).map StoredGateway.terms := by
  cases stands : store.standing? key with
  | none =>
      have foreign : key ∉ store.keys := by
        rw [← Store.isSome_standing?_iff, stands]
        simp
      rw [carries.gone key foreign]
      rfl
  | some g =>
      obtain rfl := Store.key_of_standing? stands
      rcases carries.of_standing stands with ⟨i, listed⟩ | ⟨sameTerms, kept⟩
      · rw [carries.taken i g listed]
        rfl
      · rw [kept, sameTerms]
        rfl

theorem Carries.mirrors
    (carries : Carries store summary s t) (faithful : s.Faithful) : Mirrors store t where
  faithful := carries.faithful faithful
  terms := carries.terms

theorem Mirrors.exists_changed_iff
    (mirrors : Mirrors past s) (test : Option Applied → Bool) (key : Candidate.Key) :
    (∃ g ∈ s.changed store, test (s.applied.find? g.key) = true ∧ g.key = key) ↔
      key ∈ store.keys ∧ test (s.applied.find? key) = true ∧
        (past.standing? key).map StoredGateway.terms ≠
          (store.standing? key).map StoredGateway.terms := by
  rw [← mirrors.terms]
  constructor
  · rintro ⟨g, member, passed, rfl⟩
    obtain ⟨stands, otherTerms⟩ := mem_changed.1 member
    refine ⟨stored_of_changed member, passed, ?_⟩
    rw [stands]
    exact otherTerms
  · rintro ⟨stored, passed, otherTerms⟩
    obtain ⟨g, rfl, stands⟩ := Store.exists_standing stored
    rw [stands] at otherTerms
    exact ⟨g, mem_changed.2 ⟨stands, otherTerms⟩, passed, rfl⟩

/-- What a sync counts is what is new, changed and gone. -/
theorem Carries.counts_eq_between
    (carries : Carries store summary s t) (mirrors : Mirrors past s) :
    summary = .between past store := by
  have known (key : Candidate.Key) :
      (s.applied.find? key).isSome = true ↔ key ∈ past.keys := mirrors.isSome_find?_iff key
  have registered :
      ((s.changed store).countP fun g => (s.applied.find? g.key).isNone) =
        (store.keys \ past.keys).card := by
    refine countP_eq_card (nodup_keys_changed s store) fun key => ?_
    rw [mirrors.exists_changed_iff Option.isNone, Finset.mem_sdiff, ← known, ← mirrors.terms]
    refine and_congr_right fun stored => ?_
    obtain ⟨g, -, stands⟩ := Store.exists_standing stored
    cases s.applied.find? key with
    | none => simp [stands]
    | some a => simp
  have updated :
      ((s.changed store).countP fun g => (s.applied.find? g.key).isSome) =
        ((store.keys ∩ past.keys).filter fun key =>
          (past.standing? key).map StoredGateway.terms ≠
            (store.standing? key).map StoredGateway.terms).card := by
    refine countP_eq_card (nodup_keys_changed s store) fun key => ?_
    rw [mirrors.exists_changed_iff Option.isSome, Finset.mem_filter, Finset.mem_inter, known,
      and_assoc]
  have withdrawn : (s.vanished store).length = (past.keys \ store.keys).card := by
    rw [← List.countP_true]
    refine countP_eq_card (nodup_keys_vanished s store) fun key => ?_
    rw [Finset.mem_sdiff, ← known]
    constructor
    · rintro ⟨isKnown, foreign⟩
      obtain ⟨a, found⟩ := Option.isSome_iff_exists.1 isKnown
      obtain ⟨member, rfl⟩ := KeyedSet.find?_eq_some_iff_key_eq.1 found
      exact ⟨a, mem_vanished.2 ⟨member, foreign⟩, rfl, rfl⟩
    · rintro ⟨a, member, -, rfl⟩
      obtain ⟨remembered, foreign⟩ := mem_vanished.1 member
      rw [KeyedSet.find?_key_of_mem remembered]
      exact ⟨rfl, foreign⟩
  rw [carries.counts, registered, updated, withdrawn]
  rfl

/-- A store that is mirrored already is carried over without anything being done. -/
theorem Mirrors.apply_eq
    [RouteChannel σ] {store : Store} (mirrors : Mirrors store s)
    (disabled : s.engine.model.disabled = store.disabled) :
    (apply store).runFrom s = (.ok {}, s) := by
  refine apply_of_unchanged ?_ ?_ disabled
  · refine List.eq_nil_iff_forall_not_mem.2 fun a member => ?_
    obtain ⟨remembered, foreign⟩ := mem_vanished.1 member
    refine foreign ((mirrors.isSome_find?_iff a.gateway.key).1 ?_)
    rw [KeyedSet.find?_key_of_mem remembered]
    rfl
  · refine List.eq_nil_iff_forall_not_mem.2 fun g member => ?_
    obtain ⟨stands, otherTerms⟩ := mem_changed.1 member
    rw [mirrors.terms, stands] at otherTerms
    exact otherTerms rfl

/-! ## Main result -/

variable [RouteChannel σ]

theorem Mirrors.meanwhile
    {store : Store} (mirrors : Mirrors store s) {task : Engine.Task}
    (quiet : task.registers = false) : Mirrors store (s.after (.meanwhile task quiet)) where
  faithful := mirrors.faithful.of_eq rfl (Engine.candidates_perform quiet s.engine)
  terms := mirrors.terms

/-- A sync that goes smoothly carries the store over. -/
theorem carries_of_smooth
    (keyed : s.Keyed) (smooth : s.smooth (.sync store) = true) :
    ∃ summary, Carries store summary s (s.after (.sync store)) := by
  rw [Synced.smooth] at smooth
  rw [after]
  cases ended : (apply store).runFrom s with
  | mk outcome t =>
      rw [ended] at smooth
      cases outcome with
      | error error => cases smooth
      | ok summary => exact ⟨summary, carries_apply keyed ended (by simpa using smooth)⟩

theorem Mirrors.run
    {moves : List Move} (mirrors : Mirrors past s) (smooth : s.allSmooth moves = true) :
    Mirrors (lastSynced past moves) (s.run moves) := by
  induction moves generalizing s past with
  | nil => exact mirrors
  | cons move rest inductionHypothesis =>
      obtain ⟨first, later⟩ := Bool.and_eq_true_iff.1 smooth
      cases move with
      | meanwhile task quiet => exact inductionHypothesis (mirrors.meanwhile quiet) later
      | sync store =>
          obtain ⟨summary, carries⟩ := carries_of_smooth mirrors.faithful.keyed first
          exact inductionHypothesis (carries.mirrors mirrors.faithful) later

omit [RouteChannel σ] in
/-- What mirrors a store has its gateways for candidates. -/
theorem Mirrors.candidate?_eq
    {store : Store} (mirrors : Mirrors store s) (key : Candidate.Key) :
    (s.engine.model.candidate? key).map (fun c => (c.gateway, c.source)) =
      (store.standing? key).map fun g => (g.address, g.source) := by
  calc
    _ = ((s.applied.find? key).map (·.gateway.terms)).map fun terms => (terms.1, terms.2.1) := by
        rw [mirrors.faithful.candidates, Option.map_map, Option.map_map]
        rfl
    _ = ((store.standing? key).map StoredGateway.terms).map fun terms => (terms.1, terms.2.1) := by
        rw [mirrors.terms]
    _ = _ := by
        rw [Option.map_map]
        rfl

omit [RouteChannel σ] in
theorem Mirrors.mem_keys_candidates
    {store : Store} (mirrors : Mirrors store s) {key : Candidate.Key} :
    key ∈ s.engine.model.candidates.keys ↔ key ∈ store.keys := by
  have sameKeys := congrArg Option.isSome (mirrors.candidate?_eq key)
  rw [Option.isSome_map, Option.isSome_map] at sameKeys
  rw [← Store.isSome_standing?_iff, ← sameKeys, Option.isSome_iff_exists]
  simp [Model.candidate?, KeyedSet.find?_eq_some_iff_key_eq, KeyedSet.keys, KeyedSet.mem_rows]

/-- The same with an account of the requests that are put from now on. -/
def recorded (s : Synced σ) : Synced (Recorded σ) := ⟨s.engine.seen .fresh, s.applied⟩

omit [RouteChannel σ] in
theorem Mirrors.recorded
    {store : Store} (mirrors : Mirrors store s) : Mirrors store s.recorded where
  faithful := ⟨mirrors.faithful.keyed, mirrors.faithful.candidates⟩
  terms := mirrors.terms

/-- On an engine that was new when the first of several syncs came, where each has succeeded and
rejected nothing: the sync of a further store, if it too succeeds and rejects nothing, leaves the
candidates that the store's gateways call for, and no others, and counts what differs from the
store carried over before. The same store again changes nothing, and nothing is asked of the
channel. -/
theorem mirrors_of_apply
    {channel : σ} {settings : EngineSettings} {policy : Policy} {moves : List Move}
    (smooth : (new (Engine.new channel settings policy)).allSmooth moves = true)
    {store : Store} {summary : SyncSummary} {t : Synced σ}
    (ended :
      (apply store).runFrom ((new (Engine.new channel settings policy)).run moves) =
        (.ok summary, t))
    (unrejected : summary.rejected = 0) :
    (∀ key, key ∈ t.engine.model.candidates.keys ↔ key ∈ store.keys) ∧
      (∀ key,
        (t.engine.model.candidate? key).map (fun c => (c.gateway, c.source)) =
          (store.standing? key).map fun g => (g.address, g.source)) ∧
      t.engine.model.disabled = store.disabled ∧
      summary = .between (lastSynced {} moves) store ∧
      (apply store).runFrom t = (.ok {}, t) ∧
      (apply store).runFrom t.recorded = (.ok {}, t.recorded) := by
  have before : Mirrors (lastSynced {} moves) _ :=
    (mirrors_new channel settings policy).run smooth
  have carries := carries_apply before.faithful.keyed ended unrejected
  have mirrors : Mirrors store t := carries.mirrors before.faithful
  exact
    ⟨fun key => mirrors.mem_keys_candidates, mirrors.candidate?_eq, carries.disabled,
      carries.counts_eq_between before, mirrors.apply_eq carries.disabled,
      mirrors.recorded.apply_eq carries.disabled⟩

/-- Both interfaces of a kernel have had their gateways carried over. -/
def bothUplinks : List Move := [
  .meanwhile (.call .seed) quiet_seed,
  .sync { gateways := [
    ⟨.inet, "eth0", .dhcp, .v4 0x0a000001#32, none, 1, default⟩,
    ⟨.inet, "wlan0", .dhcp, .v4 0x0a010001#32, none, 2, default⟩] }]

/-- A store with two entries of one key, and another key in place of one there was. -/
def renumbered : Store where
  gateways := [
    ⟨.inet, "eth0", .dhcp, .v4 0x0a000002#32, none, 4, default⟩,
    ⟨.inet, "eth0", .dhcp, .v4 0x0a000003#32, none, 3, default⟩,
    ⟨.inet, "wlan0", .static, .v4 0x0a010001#32, none, 5, default⟩]
  disabled := .ofList [⟨none, some "wlan0", none⟩]

/-- Of the two entries the last is carried over. -/
theorem mirrors_of_apply_renumbered :
    ∃ t : Synced Kernel.Session,
      (apply renumbered).runFrom ((new (Engine.new Engine.twoUplinks {} {})).run bothUplinks) =
          (.ok { registered := 1, updated := 1, withdrawn := 1 }, t) ∧
        (t.engine.model.candidate? ⟨.dhcp, "eth0", .inet⟩).map
            (fun c => (c.gateway, c.source)) = some (.v4 0x0a000003#32, none) ∧
        t.engine.model.candidate? ⟨.dhcp, "wlan0", .inet⟩ = none ∧
        (apply renumbered).runFrom t = (.ok {}, t) := by
  have smooth : (new (Engine.new Engine.twoUplinks {} {})).allSmooth bothUplinks = true := by
    simp only [bothUplinks, allSmooth, Synced.smooth, after, apply, changed_eq_insertionSort]
    decide +kernel
  have counted :
      ((apply renumbered).runFrom
          ((new (Engine.new Engine.twoUplinks {} {})).run bothUplinks)).1 =
        .ok { registered := 1, updated := 1, withdrawn := 1 } := by
    simp only [bothUplinks, Synced.run, after, apply, changed_eq_insertionSort]
    decide +kernel
  cases ended :
      (apply renumbered).runFrom
        ((new (Engine.new Engine.twoUplinks {} {})).run bothUplinks) with
  | mk outcome t =>
      rw [ended] at counted
      cases counted
      obtain ⟨-, gateways, -, -, again, -⟩ := mirrors_of_apply smooth ended rfl
      refine ⟨t, rfl, ?_, ?_, again⟩
      · rw [gateways]
        decide +kernel
      · have unlisted := gateways ⟨.dhcp, "wlan0", .inet⟩
        rw [show renumbered.standing? ⟨.dhcp, "wlan0", .inet⟩ = none by decide +kernel] at unlisted
        exact Option.map_eq_none_iff.1 unlisted

end Synced

end DefaultGateway
