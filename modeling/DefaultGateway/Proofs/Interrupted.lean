import DefaultGateway.Proofs.Calm
import DefaultGateway.Proofs.Rounds
import DefaultGateway.Proofs.SyncHistory

/-!
# Interrupted syncs

A sync goes through a list of errands, and the first that fails is the last: the errand itself has
been done by then, as far as the engine goes, but those behind it are left. The recovery that
follows opens the connection again and reads the kernel, and does not come back to them. So the
engine holds the new store for the errands done, and the old one for the rest, until a store is
carried over again.
-/

namespace DefaultGateway

/-- Where a candidate leads. -/
def Candidate.hop (c : Candidate) : Address × Option Address := (c.gateway, c.source)

def StoredGateway.hop (g : StoredGateway) : Address × Option Address := (g.address, g.source)

namespace Synced

/-- What a sync has to see to, one thing after the other. -/
inductive Errand
  | withdraw (key : Candidate.Key)
  | register (g : StoredGateway)
  | disable
  deriving DecidableEq

namespace Errand

def key? : Errand → Option Candidate.Key
  | .withdraw key => some key
  | .register g => some g.key
  | .disable => none

def keys (errands : List Errand) : List Candidate.Key := errands.filterMap key?

@[simp]
theorem keys_append (errands more : List Errand) :
    keys (errands ++ more) = keys errands ++ keys more := List.filterMap_append

@[simp]
theorem keys_withdraw (l : List Candidate.Key) : keys (l.map .withdraw) = l := by
  simp [keys, List.filterMap_map, Function.comp_def, key?]

@[simp]
theorem keys_register (l : List StoredGateway) :
    keys (l.map .register) = l.map StoredGateway.key := by
  rw [keys, List.filterMap_map]
  exact congrFun List.filterMap_eq_map l

@[simp]
theorem keys_disable : keys [.disable] = [] := rfl

end Errand

def errands {σ : Type} (s : Synced σ) (store : Store) : List Errand :=
  ((s.vanished store).map (·.gateway.key)).map .withdraw ++
    ((s.changed store).map .register ++ [.disable])

end Synced

namespace Engine

variable {σ : Type}

/-- The engine's candidates lead where a store's gateways do, and the same is disabled. -/
structure Holds (store : Store) (e : Engine σ) : Prop where
  candidates :
    ∀ key,
      (e.model.candidate? key).map Candidate.hop =
        (store.standing? key).map StoredGateway.hop
  disabled : e.model.disabled = store.disabled

/-- The engine holds one store as far as some errands go, and otherwise another. -/
structure Halfway (past store : Store) (done : List Synced.Errand) (e : Engine σ) : Prop where
  candidates :
    ∀ key,
      (e.model.candidate? key).map Candidate.hop =
        ((if key ∈ Synced.Errand.keys done then store else past).standing? key).map
          StoredGateway.hop
  disabled :
    e.model.disabled = (if Synced.Errand.disable ∈ done then store else past).disabled

variable {e after : Engine σ} {past store : Store} {done : List Synced.Errand}

theorem Halfway.disables
    (halfway : Halfway past store done e)
    (candidates : after.model.candidates = e.model.candidates)
    (disabled : after.model.disabled = store.disabled) :
    Halfway past store (done ++ [.disable]) after where
  candidates key := by
    rw [Model.candidate?, candidates, Synced.Errand.keys_append, Synced.Errand.keys_disable,
      List.append_nil]
    exact halfway.candidates key
  disabled := by rw [disabled, if_pos (by simp)]

theorem Halfway.of_sameRegistry
    (halfway : Halfway past store done e) (same : SameRegistry e after) :
    Halfway past store done after where
  candidates key := by
    rw [Model.candidate?, same.candidates]
    exact halfway.candidates key
  disabled := same.disabled.trans halfway.disabled

end Engine

namespace Synced

variable {σ : Type} {s t u : Synced σ} {past store : Store}

/-! ## Registrations of accepted gateways -/

/-- What is remembered has a candidate. -/
structure Live (s : Synced σ) : Prop where
  keyed : s.Keyed
  candidates :
    ∀ key, (s.applied.find? key).isSome = true → (s.engine.model.candidate? key).isSome = true

theorem Faithful.live (faithful : s.Faithful) : s.Live where
  keyed := faithful.keyed
  candidates key known := by
    rw [faithful.candidates key, Option.isSome_map, known]

theorem Clears.live {keys : List Candidate.Key} (clears : Clears keys s t) (live : s.Live) :
    t.Live where
  keyed := clears.keyed live.keyed
  candidates key known := by
    rw [clears.applied] at known
    split at known
    · cases known
    · rename_i kept
      rw [clears.candidates, if_neg kept]
      exact live.candidates key known

/-- The candidates of some gateways are put in, each under its key, and nothing else changes. -/
structure Enters (l : List StoredGateway) (s t : Synced σ) : Prop where
  entered :
    ∀ g ∈ l, (t.engine.model.candidate? g.key).map Candidate.hop = some g.hop
  apart :
    ∀ key, (∀ g ∈ l, g.key ≠ key) →
      t.engine.model.candidate? key = s.engine.model.candidate? key
  disabled : t.engine.model.disabled = s.engine.model.disabled

theorem Enters.nil (s : Synced σ) : Enters [] s s := ⟨by simp, fun _ _ => rfl, rfl⟩

theorem Enters.cons
    {g : StoredGateway} {l : List StoredGateway} (first : Enters [g] s t) (later : Enters l t u)
    (distinct : ((g :: l).map StoredGateway.key).Nodup) : Enters (g :: l) s u where
  entered h member := by
    rcases List.mem_cons.1 member with rfl | inRest
    · have unlisted : ∀ other ∈ l, other.key ≠ h.key := fun other among same =>
        (List.nodup_cons.1 distinct).1 (same ▸ List.mem_map_of_mem among)
      rw [later.apart h.key unlisted]
      exact first.entered h (by simp)
    · exact later.entered h inRest
  apart key unlisted := by
    obtain ⟨other, others⟩ := List.forall_mem_cons.1 unlisted
    rw [later.apart key others, first.apart key (by simpa using other)]
  disabled := later.disabled.trans first.disabled

variable [RouteChannel σ]

/-- An accepted gateway is not refused: its candidate is put in, whatever comes after that. -/
theorem admission_eq_put (live : s.Live) {g : StoredGateway} (accepted : g.Accepted) :
    (s.admission g).runFrom s.engine =
      (Engine.putCandidate g.key g.address g.source).runFrom s.engine := by
  have valid :
      Registration.fault? g.key.family g.key.interface g.address g.source = none := accepted
  rw [admission]
  cases known : s.applied.find? g.key with
  | none => rw [Engine.register, valid]
  | some a =>
      obtain ⟨member, sameKey⟩ := KeyedSet.find?_eq_some_iff_key_eq.1 known
      have registered : a.registration.key = g.key := (live.keyed a member).trans sameKey
      have present : (s.engine.model.candidate? g.key).isSome = true :=
        live.candidates g.key (by rw [known]; rfl)
      have absent : ¬(s.engine.model.candidate? g.key).isNone = true := by
        simp [Option.isSome_iff_ne_none.1 present]
      simp only [Engine.update, registered, valid]
      rw [Step.runFrom_bind_of_ok (Step.runFrom_get _), if_neg absent]

/-- The candidate of an accepted gateway is put in whether or not the step succeeds. -/
theorem enters_registerChanged
    (live : s.Live) {g : StoredGateway} (accepted : g.Accepted)
    {outcome : Except Error SyncSummary.Outcome}
    (ended : (registerChanged g).runFrom s = (outcome, t)) : Enters [g] s t ∧ t.Live := by
  have kept : t.Keyed ∧ ∀ key, key ≠ g.key → t.applied.find? key = s.applied.find? key := by
    rcases registerChanged_cases live.keyed ended with ⟨takes, -⟩ | ⟨loses, -⟩
    · exact ⟨takes.keyed live.keyed, fun key other => (takes.apart other).applied⟩
    · exact ⟨loses.keyed live.keyed, fun key other => (loses.apart key other).applied⟩
  have put : Engine.SameRegistry
      (s.engine.entered (s.engine.freshCandidate g.key g.address g.source)) t.engine := by
    rw [runFrom_registerChanged, admission_eq_put live accepted] at ended
    cases admitted : (Engine.putCandidate g.key g.address g.source).runFrom s.engine with
    | mk admittedAs after =>
        rw [admitted] at ended
        obtain ⟨same, -⟩ := Engine.sameRegistry_putCandidate admitted
        cases admittedAs with
        | ok registration =>
            cases ended
            exact same
        | error error =>
            cases ended
            exact same
  have candidates (key : Candidate.Key) :
      t.engine.model.candidate? key =
        if g.key = key then some (s.engine.freshCandidate g.key g.address g.source)
        else s.engine.model.candidate? key := by
    rw [Model.candidate?, put.candidates]
    exact KeyedSet.find?_insert _ _ _
  refine ⟨⟨?_, ?_, put.disabled⟩, kept.1, fun key known => ?_⟩
  · intro h member
    obtain rfl := List.mem_singleton.1 member
    rw [candidates, if_pos rfl]
    rfl
  · intro key unlisted
    rw [candidates, if_neg (unlisted g (by simp))]
  · rw [candidates]
    split
    · rfl
    · rename_i other
      rw [kept.2 key fun same => other same.symm] at known
      exact live.candidates key known

/-- The candidates of the first of some gateways are put in, and of all of them unless a step
fails. That of the step that fails is put in too. -/
theorem enters_countAll
    {l : List StoredGateway} (live : s.Live) (accepted : ∀ g ∈ l, g.Accepted)
    (distinct : (l.map StoredGateway.key).Nodup)
    {summary : SyncSummary} {outcome : Except Error SyncSummary}
    (ended : (countAll registerChanged summary l).runFrom s = (outcome, t)) :
    ∃ done left, l = done ++ left ∧ Enters done s t ∧
      (∀ final, outcome = .ok final → left = []) ∧
      ∀ error, outcome = .error error → done ≠ [] := by
  induction l generalizing s summary with
  | nil =>
      cases ended
      exact ⟨[], [], rfl, .nil _, fun _ _ => rfl, by simp⟩
  | cons g rest inductionHypothesis =>
      obtain ⟨acceptedFirst, acceptedRest⟩ := List.forall_mem_cons.1 accepted
      rw [countAll, Step.runFrom_bind] at ended
      cases first : (registerChanged g).runFrom s with
      | mk counted u =>
          obtain ⟨enters, liveBetween⟩ := enters_registerChanged live acceptedFirst first
          rw [first] at ended
          cases counted with
          | error error =>
              cases ended
              exact ⟨[g], rest, rfl, enters, by simp, by simp⟩
          | ok counted =>
              obtain ⟨done, left, rfl, later, whole, -⟩ :=
                inductionHypothesis liveBetween acceptedRest (List.nodup_cons.1 distinct).2 ended
              have distinctDone : ((g :: done).map StoredGateway.key).Nodup := by
                refine distinct.sublist (List.Sublist.map _ ?_)
                exact (List.sublist_append_left done left).cons_cons g
              exact ⟨g :: done, left, rfl, enters.cons later distinctDone, whole, by simp⟩

/-! ## Whole syncs -/

section Halfway

omit [RouteChannel σ]

variable {done : List Errand}

/-- What mirrors a store has none of the errands for another behind it. -/
theorem Mirrors.halfway
    (mirrors : Mirrors past s) (disabled : s.engine.model.disabled = past.disabled) :
    s.engine.Halfway past store [] where
  candidates := mirrors.candidate?_eq
  disabled := disabled

theorem Clears.halfway
    {keys : List Candidate.Key} (clears : Clears keys s t)
    (halfway : s.engine.Halfway past store done)
    (disabled : t.engine.model.disabled = s.engine.model.disabled)
    (foreign : ∀ key ∈ keys, key ∉ store.keys) :
    t.engine.Halfway past store (done ++ keys.map .withdraw) where
  candidates key := by
    rw [clears.candidates]
    by_cases listed : key ∈ keys
    · have missing : store.standing? key = none := by
        rw [← Option.not_isSome_iff_eq_none, Store.isSome_standing?_iff]
        exact foreign key listed
      rw [if_pos listed, if_pos (by simp [listed]), missing]
      rfl
    · rw [if_neg listed, halfway.candidates key]
      simp [listed]
  disabled := by
    rw [disabled, halfway.disabled]
    simp

theorem Enters.halfway
    {l : List StoredGateway} (enters : Enters l s t) (halfway : s.engine.Halfway past store done)
    (standing : ∀ g ∈ l, store.standing? g.key = some g) :
    t.engine.Halfway past store (done ++ l.map .register) where
  candidates key := by
    by_cases listed : ∃ g ∈ l, g.key = key
    · obtain ⟨g, member, rfl⟩ := listed
      have seenTo : g.key ∈ Errand.keys (done ++ l.map .register) := by
        rw [Errand.keys_append, Errand.keys_register]
        exact List.mem_append_right _ (List.mem_map_of_mem member)
      rw [enters.entered g member, if_pos seenTo, standing g member]
      rfl
    · have unlisted : ∀ g ∈ l, g.key ≠ key := fun g member same => listed ⟨g, member, same⟩
      rw [enters.apart key unlisted, halfway.candidates key]
      simp [listed]
  disabled := by
    rw [enters.disabled, halfway.disabled]
    simp

/-- What neither vanishes nor changes was carried over on the terms of the store. -/
theorem terms_of_unlisted
    {key : Candidate.Key} (remaining : key ∉ (s.vanished store).map (·.gateway.key))
    (unchanged : key ∉ (s.changed store).map StoredGateway.key) :
    (s.applied.find? key).map (·.gateway.terms) =
      (store.standing? key).map StoredGateway.terms := by
  cases stands : store.standing? key with
  | none =>
      have foreign : key ∉ store.keys := by
        rw [← Store.isSome_standing?_iff, stands]
        simp
      cases known : s.applied.find? key with
      | none => rfl
      | some a =>
          obtain ⟨member, rfl⟩ := KeyedSet.find?_eq_some_iff_key_eq.1 known
          exact absurd (List.mem_map_of_mem (mem_vanished.2 ⟨member, foreign⟩)) remaining
  | some g =>
      obtain rfl := Store.key_of_standing? stands
      by_contra otherTerms
      exact unchanged (List.mem_map_of_mem (mem_changed.2 ⟨stands, otherTerms⟩))

/-- Where no errand is left, the store is held as a whole. -/
theorem holds_of_halfway
    (mirrors : Mirrors past s) {e : Engine σ} (halfway : e.Halfway past store (s.errands store)) :
    e.Holds store where
  candidates key := by
    rw [halfway.candidates key]
    split
    · rfl
    · rename_i unlisted
      rw [errands, Errand.keys_append, Errand.keys_withdraw, Errand.keys_append,
        Errand.keys_register, Errand.keys_disable, List.append_nil, List.mem_append,
        not_or] at unlisted
      have sameTerms := terms_of_unlisted unlisted.1 unlisted.2
      rw [mirrors.terms key] at sameTerms
      have sameHops := congrArg (Option.map fun terms => (terms.1, terms.2.1)) sameTerms
      rwa [Option.map_map, Option.map_map] at sameHops
  disabled := by
    rw [halfway.disabled, if_pos (by simp [errands])]

end Halfway

variable {outcome : Except Error SyncSummary}

theorem keeps_disabled_withdrawVanished (disabled : SortedSet Selector) (a : Applied) :
    Step.Keeps (fun s : Synced σ => s.engine.model.disabled = disabled) (withdrawVanished a) := by
  have withdrawn :
      Step.Keeps (fun s : Synced σ => s.engine.model.disabled = disabled)
        (onEngine (Engine.withdraw a.registration)) :=
    fun s held => (Engine.state_withdraw a.registration s.engine).2.1.trans held
  refine Step.Keeps.bind (fun _ held => held) fun _ => withdrawn.attempt.bind fun ended => ?_
  split
  · exact .pure _
  · exact .pure _
  · exact .throw _

omit [RouteChannel σ] in
theorem keeps_countAll
    {β : Type} {P : Synced σ → Prop} {step : β → Step (Synced σ) SyncSummary.Outcome}
    (keeps : ∀ b, Step.Keeps P (step b)) (summary : SyncSummary) (l : List β) :
    Step.Keeps P (countAll step summary l) := by
  induction l generalizing summary with
  | nil => exact .pure _
  | cons b rest inductionHypothesis =>
      exact (keeps b).bind fun outcome => inductionHypothesis (summary.add outcome)

/-- Once the vanished are withdrawn, the gateway that fails or else the last step is one more
errand done. -/
theorem halfway_registrations
    (live : s.Live) {done : List Errand} (halfway : s.engine.Halfway past store done)
    {l : List StoredGateway} (accepted : ∀ g ∈ l, g.Accepted)
    (distinct : (l.map StoredGateway.key).Nodup)
    (standing : ∀ g ∈ l, store.standing? g.key = some g) {withdrawn : SyncSummary}
    (ended :
      (do
        let summary ← countAll registerChanged withdrawn l
        let _ ← onEngine (Engine.setDisabled store.disabled)
        return summary : Step (Synced σ) SyncSummary).runFrom s = (outcome, t)) :
    ∃ more left, l.map .register ++ [.disable] = more ++ left ∧
      (∀ summary, outcome = .ok summary → left = []) ∧ more ≠ [] ∧
      t.engine.Halfway past store (done ++ more) := by
  rw [Step.runFrom_bind] at ended
  cases registration : (countAll registerChanged withdrawn l).runFrom s with
  | mk registered u =>
      obtain ⟨put, left, rfl, enters, whole, some⟩ :=
        enters_countAll live accepted distinct registration
      have between := enters.halfway halfway fun g member =>
        standing g (List.mem_append_left left member)
      rw [registration] at ended
      cases registered with
      | error error =>
          cases ended
          refine ⟨put.map .register, left.map .register ++ [.disable], ?_, by simp,
            by simpa using some error rfl, between⟩
          rw [List.map_append, List.append_assoc]
      | ok registered =>
          obtain rfl := whole registered rfl
          obtain ⟨-, candidates, disabled, -⟩ := state_disabling store.disabled u
          rw [← Step.state_bind_pure _ fun _ => registered] at candidates disabled
          dsimp only at ended
          rw [ended] at candidates disabled
          refine ⟨put.map .register ++ [.disable], [], by simp, by simp, by simp, ?_⟩
          rw [← List.append_assoc]
          exact between.disables candidates disabled

/-- However a sync ends, the engine holds the store as far as the errands done go. A sync that
fails has done at least the errand that failed. -/
theorem halfway_apply
    (mirrors : Mirrors past s) (disabled : s.engine.model.disabled = past.disabled)
    (accepted : ∀ g ∈ store.gateways, g.Accepted)
    (ended : (apply store).runFrom s = (outcome, t)) :
    ∃ done left, s.errands store = done ++ left ∧
      (∀ summary, outcome = .ok summary → left = []) ∧ done ≠ [] ∧
      t.engine.Halfway past store done := by
  rw [apply, Step.runFrom_bind_of_ok (Step.runFrom_get s), Step.runFrom_bind] at ended
  cases withdrawal : (countAll withdrawVanished {} (s.vanished store)).runFrom s with
  | mk withdrawn u =>
      obtain ⟨keys, ⟨remaining, split⟩, clears, whole, some⟩ :=
        clears_countAll (fun a member => mirrors.faithful.keyed a (mem_vanished.1 member).1)
          withdrawal
      have foreign : ∀ key ∈ keys, key ∉ store.keys := fun key member =>
        foreign_of_vanished (split ▸ List.mem_append_left remaining member)
      have sameDisabled : u.engine.model.disabled = s.engine.model.disabled := by
        have kept := keeps_countAll (keeps_disabled_withdrawVanished s.engine.model.disabled)
          {} (s.vanished store) s rfl
        rwa [withdrawal] at kept
      have between := clears.halfway (mirrors.halfway disabled) sameDisabled foreign
      rw [withdrawal] at ended
      cases withdrawn with
      | error error =>
          cases ended
          refine ⟨keys.map .withdraw,
            remaining.map .withdraw ++ ((s.changed store).map .register ++ [.disable]),
            ?_, by simp, by simpa using some error rfl, between⟩
          rw [errands, ← split, List.map_append, List.append_assoc]
      | ok withdrawn =>
          obtain ⟨rfl, -⟩ := whole withdrawn rfl
          dsimp only at ended
          rw [Step.runFrom_bind_of_ok (Step.runFrom_get u),
            changed_eq_of_clears clears fun key => foreign_of_vanished] at ended
          obtain ⟨more, left, errandsLeft, success, nonempty, halfway⟩ :=
            halfway_registrations (clears.live mirrors.faithful.live) between
              (fun g member => accepted g (mem_gateways_of_changed member))
              (nodup_keys_changed s store) (fun g member => (mem_changed.1 member).1) ended
          refine ⟨_, left, ?_, success, by simp [nonempty], halfway⟩
          rw [errands, errandsLeft, List.append_assoc, List.nil_append]

end Synced

namespace Loop

variable {σ : Type}

/-- Whether a round carries a store over. -/
def Round.carries : Round → Bool
  | .store (.ok _) => true
  | _ => false

/-! ## Rounds that keep the registrations -/

variable {start : Engine σ} {l : Loop σ} {past store : Store}

/-- The registrations in a loop are those of an engine. -/
def Registered (start : Engine σ) (l : Loop σ) : Prop := start.SameRegistry l.synced.engine

theorem keeps_registered_onEngine
    {α : Type} {step : Step (Engine σ) α} (keeps : Step.Keeps start.SameRegistry step) :
    Step.Keeps (Registered start) (onEngine step) :=
  fun l held => keeps l.synced.engine held

theorem keeps_registered_onRecovering
    {step : Step (Recovering σ) Unit}
    (keeps : Step.Keeps (fun r : Recovering σ => start.SameRegistry r.engine) step) :
    Step.Keeps (Registered start) (onRecovering step) :=
  keeps.on (fun _ held => held) fun _ _ _ held => held

variable [RouteChannel σ]

theorem keeps_registry_settle (outcome : Except Error Unit) :
    Step.Keeps (fun r : Recovering σ => start.SameRegistry r.engine)
      (Recovering.settle outcome) := by
  have recovered :
      Step.Keeps (fun r : Recovering σ => start.SameRegistry r.engine)
        (Recovering.onEngine Engine.recover) :=
    Engine.keeps_registry_recover.on (fun _ held => held) fun _ _ _ held => held
  cases outcome with
  | ok done => exact fun _ held => held
  | error error =>
      rw [Recovering.settle]
      split
      · refine recovered.attempt.bind fun again => ?_
        cases again with
        | ok reports => exact fun _ held => held
        | error failure => exact fun _ held => held
      · exact .pure _

theorem keeps_registry_tick :
    Step.Keeps (fun r : Recovering σ => start.SameRegistry r.engine) Recovering.tick := by
  refine Step.Keeps.bind (fun _ held => held) fun r => ?_
  have works :
      Step.Keeps start.SameRegistry
        (if r.pending then Engine.recover else Engine.resync) := by
    split
    · exact Engine.keeps_registry_recover
    · exact Engine.keeps_registry_resync
  exact (works.on (fun _ held => held) fun _ _ _ held => held).bind fun _ => .pure _

theorem keeps_registered_work {round : Round} (carries : round.carries = false) :
    Step.Keeps (Registered start) round.work := by
  cases round with
  | timer => exact keeps_registered_onRecovering keeps_registry_tick
  | batch events =>
      exact (keeps_registered_onEngine (Engine.keeps_registry_handleEvents events)).bind
        fun _ => .pure _
  | lost =>
      exact (keeps_registered_onEngine Engine.keeps_registry_resync).bind fun _ => .pure _
  | store loaded =>
      cases loaded with
      | ok read => cases carries
      | error error => exact .throw _
  | config loaded =>
      have reloads :
          Step.Keeps (fun c : Configured σ => start.SameRegistry c.engine)
            (Configured.reload loaded) := by
        cases loaded with
        | error error => exact .pure _
        | ok fresh =>
            exact ((Engine.keeps_registry_reloadPolicy fresh.policy).on (fun _ held => held)
              fun _ _ _ held => held).bind fun _ => fun _ held => held
      exact reloads.on (fun _ held => held) fun _ _ _ held => held

theorem registered_run
    {rounds : List Round} (registered : Registered start l)
    (withoutStore : ∀ round ∈ rounds, round.carries = false) :
    Registered start (l.run (rounds.map .round)) := by
  induction rounds generalizing l with
  | nil => exact registered
  | cons round rest inductionHypothesis =>
      obtain ⟨first, later⟩ := List.forall_mem_cons.1 withoutStore
      have worked : Step.Keeps (Registered start) (settled round.work) :=
        (keeps_registered_work first).attempt.bind fun outcome =>
          keeps_registered_onRecovering (keeps_registry_settle outcome)
      exact inductionHypothesis (worked l registered) later

/-! ## The round of a store -/

/-- What the round of a store leaves of the registrations is what the sync leaves, also where a
recovery follows. -/
theorem registered_store_round (store : Store) (l : Loop σ) :
    Registered ((Synced.apply store).runFrom l.synced).2.engine
      (l.after (.round (.store (.ok store)))) := by
  have worked :
      (((Round.store (.ok store)).work : Step (Loop σ) Unit).runFrom l).2 =
        { l with synced := ((Synced.apply store).runFrom l.synced).2 } := by
    rw [Round.work, Step.state_bind_pure]
    rfl
  rw [after, settled, Step.runFrom_bind_of_ok (Step.runFrom_attempt _ l), worked]
  exact keeps_registered_onRecovering (keeps_registry_settle _) _ (.refl _)

/-- When a store is carried over into an engine that mirrors an earlier one, the errands that are
seen to are the first of all there are: all of them if the sync succeeds, and else those up to the
one that fails. For them the engine holds the new store, for the others the earlier one, and that
is how it stays, whether or not the connection is recovered and whatever the rounds after that are
for, until a store is carried over again. Only if no errand was left, the new store is held. -/
theorem halfway_store_round
    (mirrors : Synced.Mirrors past l.synced)
    (disabled : l.synced.engine.model.disabled = past.disabled)
    (accepted : ∀ g ∈ store.gateways, g.Accepted) :
    ∃ done left, l.synced.errands store = done ++ left ∧ done ≠ [] ∧
      (∀ summary, ((Synced.apply store).runFrom l.synced).1 = .ok summary → left = []) ∧
      ∀ rounds : List Round, (∀ round ∈ rounds, round.carries = false) →
        let e := ((l.after (.round (.store (.ok store)))).run (rounds.map .round)).synced.engine
        e.Halfway past store done ∧ (left = [] → e.Holds store) := by
  obtain ⟨done, left, split, success, nonempty, halfway⟩ :=
    Synced.halfway_apply mirrors disabled accepted Prod.mk.eta.symm
  refine ⟨done, left, split, nonempty, success, fun rounds withoutStore => ?_⟩
  have later := halfway.of_sameRegistry <|
    registered_run (registered_store_round store l) withoutStore
  refine ⟨later, ?_⟩
  rintro rfl
  rw [List.append_nil] at split
  rw [← split] at later
  exact Synced.holds_of_halfway mirrors later

open Kernel (Session)

/-- The connection is lost when the first route is installed, and can be opened again. -/
def faltering : Session := { Engine.twoUplinks with mutationFaults := [some .connectionLost] }

/-- The kernel has been read, and no store carried over. -/
def losing : Loop Session where
  synced :=
    (Synced.new (.new faltering {} {})).after (.meanwhile (.call .seed) Synced.quiet_seed)

/-- A gateway on each of two interfaces, the second of which is disabled. -/
def twoGateways : Store where
  gateways := [
    ⟨.inet, "eth0", .dhcp, .v4 0x0a000001#32, none, 1, default⟩,
    ⟨.inet, "wlan0", .dhcp, .v4 0x0a010001#32, none, 2, default⟩]
  disabled := .ofList [{ link := some "wlan0" }]

/-- The new store is held for the first gateway only, and not for what is disabled either, also
after the timer has read the kernel again. -/
theorem halfway_store_round_losing :
    losing.synced.errands twoGateways =
        [.register ⟨.inet, "eth0", .dhcp, .v4 0x0a000001#32, none, 1, default⟩,
          .register ⟨.inet, "wlan0", .dhcp, .v4 0x0a010001#32, none, 2, default⟩, .disable] ∧
      ∃ done left, losing.synced.errands twoGateways = done ++ left ∧ done ≠ [] ∧
        let e := ((losing.after (.round (.store (.ok twoGateways)))).run
          [.round .timer]).synced.engine
        e.Halfway {} twoGateways done ∧ (left = [] → e.Holds twoGateways) := by
  have mirrors : Synced.Mirrors {} losing.synced :=
    (Synced.mirrors_new faltering {} {}).meanwhile Synced.quiet_seed
  have accepted : ∀ g ∈ twoGateways.gateways, g.Accepted := by
    unfold StoredGateway.Accepted
    decide +kernel
  obtain ⟨done, left, split, nonempty, -, halfway⟩ :=
    halfway_store_round mirrors (by decide +kernel) accepted
  refine ⟨?_, done, left, split, nonempty, halfway [.timer] (by simp [Round.carries])⟩
  simp only [Synced.errands, Synced.changed_eq_insertionSort]
  decide +kernel

/-- The recovery succeeds, and nothing is pending, but of the store the second gateway and the
selector of what is disabled are missing. -/
theorem store_round_unfinished :
    let l := losing.after (.round (.store (.ok twoGateways)))
    ((Synced.apply twoGateways).runFrom losing.synced).1 = .error (.netlink "connection reset") ∧
      l.pending = false ∧
      (l.synced.engine.model.candidate? ⟨.dhcp, "eth0", .inet⟩).isSome = true ∧
      (twoGateways.standing? ⟨.dhcp, "wlan0", .inet⟩).isSome = true ∧
      l.synced.engine.model.candidate? ⟨.dhcp, "wlan0", .inet⟩ = none ∧
      l.synced.engine.model.disabled ≠ twoGateways.disabled := by
  simp only [losing, Loop.after, settled, Round.work, Synced.apply,
    Synced.changed_eq_insertionSort]
  decide +kernel

end Loop

end DefaultGateway
