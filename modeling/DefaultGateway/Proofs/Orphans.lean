import DefaultGateway.Proofs.SyncHistory

/-!
# Orphans

A sync forgets what it remembers of a gateway before it asks for the registration. If that is
refused, or fails, the key is forsaken: a candidate that is in the engine for it all the same is one
of which nothing is known. It outlives the gateway, since only what is remembered is withdrawn.
-/

namespace DefaultGateway.Synced

variable {σ : Type} [RouteChannel σ] {s t : Synced σ} {key : Candidate.Key}

/-- The sync of a store does not go smoothly, and after it nothing is remembered of a key that is
in the store. -/
structure Forsakes (store : Store) (key : Candidate.Key) (s : Synced σ) : Prop where
  rough : s.smooth (.sync store) = false
  stored : key ∈ store.keys
  forgotten : (s.after (.sync store)).applied.find? key = none

/-- One of several moves has forsaken a key, and no move has touched it since. -/
def Forsaken (start : Synced σ) (moves : List Move) (key : Candidate.Key) (t : Synced σ) : Prop :=
  ∃ before store later,
    moves = before ++ .sync store :: later ∧ (start.run before).Forsakes store key ∧
      SameAt key ((start.run before).after (.sync store)) t

theorem run_append (s : Synced σ) (moves more : List Move) :
    s.run (moves ++ more) = (s.run moves).run more := by
  induction moves generalizing s with
  | nil => rfl
  | cons move rest inductionHypothesis => exact inductionHypothesis (s.after move)

variable {start : Synced σ} {moves : List Move}

theorem Forsaken.append
    (forsaken : start.Forsaken moves key t) (move : Move) :
    start.Forsaken (moves ++ [move]) key t := by
  obtain ⟨before, store, later, rfl, forsakes, since⟩ := forsaken
  exact ⟨before, store, later ++ [move], by simp, forsakes, since⟩

theorem Forsaken.of_sameAt
    (forsaken : start.Forsaken moves key s) (same : SameAt key s t) :
    start.Forsaken moves key t := by
  obtain ⟨before, store, later, split, forsakes, since⟩ := forsaken
  exact ⟨before, store, later, split, forsakes, since.trans same⟩

theorem sameAt_meanwhile
    {task : Engine.Task} (quiet : task.registers = false) (key : Candidate.Key)
    (s : Synced σ) : SameAt key s (s.after (.meanwhile task quiet)) where
  applied := rfl
  candidate := congrArg (KeyedSet.find? · key) (Engine.candidates_perform quiet s.engine)

theorem keyed_after (keyed : s.Keyed) (move : Move) : (s.after move).Keyed := by
  cases move with
  | meanwhile task quiet => exact keyed
  | sync store => exact (apart_apply keyed rfl).1

theorem apart_after
    (keyed : s.Keyed) {store : Store} (unstored : key ∉ store.keys) :
    SameAt key s (s.after (.sync store)) ∨
      ((s.applied.find? key).isSome = true ∧
        (s.after (.sync store)).engine.model.candidate? key = none) :=
  ((apart_apply (t := s.after (.sync store)) keyed rfl).2 key unstored).1

/-- A key that is in the store is remembered after the sync, or forsaken. -/
theorem forsakes_of_forgotten
    (keyed : s.Keyed) {store : Store} (stored : key ∈ store.keys)
    (forgotten : (s.after (.sync store)).applied.find? key = none) : s.Forsakes store key where
  rough := by
    refine Bool.eq_false_iff.2 fun smooth => ?_
    obtain ⟨summary, carries⟩ := carries_of_smooth keyed smooth
    have sameTerms := carries.terms key
    rw [forgotten] at sameTerms
    have missing : store.standing? key = none := Option.map_eq_none_iff.1 sameTerms.symm
    rw [← Store.isSome_standing?_iff, missing] at stored
    cases stored
  stored := stored
  forgotten := forgotten

/-- A candidate of which nothing is remembered has been forsaken. -/
theorem forsaken_of_forgotten
    (keyed : start.Keyed) (unregistered : ∀ key, start.engine.model.candidate? key = none)
    (moves : List Move) :
    (start.run moves).Keyed ∧
      ∀ key, ((start.run moves).engine.model.candidate? key).isSome = true →
        (start.run moves).applied.find? key = none →
          start.Forsaken moves key (start.run moves) := by
  induction moves using List.reverseRecOn with
  | nil =>
      refine ⟨keyed, fun key registered => ?_⟩
      rw [run, unregistered] at registered
      cases registered
  | append_singleton moves move inductionHypothesis =>
      obtain ⟨keyedBefore, forsakenBefore⟩ := inductionHypothesis
      rw [run_append, run, run]
      refine ⟨keyed_after keyedBefore move, fun key registered forgotten => ?_⟩
      have untouched (same : SameAt key (start.run moves) ((start.run moves).after move)) :
          start.Forsaken (moves ++ [move]) key ((start.run moves).after move) := by
        rw [same.candidate] at registered
        rw [same.applied] at forgotten
        exact ((forsakenBefore key registered forgotten).of_sameAt same).append move
      -- The last move forsakes the key itself, or does not touch it.
      cases move with
      | meanwhile task quiet => exact untouched (sameAt_meanwhile quiet key _)
      | sync store =>
          by_cases stored : key ∈ store.keys
          · exact
              ⟨moves, store, [], rfl, forsakes_of_forgotten keyedBefore stored forgotten,
                .refl key _⟩
          · rcases apart_after keyedBefore stored with same | ⟨-, gone⟩
            · exact untouched same
            · rw [gone] at registered
              cases registered

/-- Nothing touches a key that is not remembered until a store has it. -/
theorem sameAt_run
    (keyed : s.Keyed) (forgotten : s.applied.find? key = none) {moves : List Move}
    (unstored : ∀ store, .sync store ∈ moves → key ∉ store.keys) :
    SameAt key s (s.run moves) := by
  induction moves generalizing s with
  | nil => exact .refl key s
  | cons move rest inductionHypothesis =>
      have same : SameAt key s (s.after move) := by
        cases move with
        | meanwhile task quiet => exact sameAt_meanwhile quiet key s
        | sync store =>
            rcases apart_after keyed (unstored store (by simp)) with same | ⟨remembered, -⟩
            · exact same
            · rw [forgotten] at remembered
              cases remembered
      refine same.trans (inductionHypothesis (keyed_after keyed move) ?_ fun store later => ?_)
      · rw [same.applied, forgotten]
      · exact unstored store (List.mem_cons_of_mem move later)

/-- On an engine that was new when the first of several syncs came: after a sync that succeeds,
each candidate is of a key in the store, or an earlier sync has forsaken it. In that case it stays,
whatever is carried over, as long as its key is not in a store again. -/
theorem stored_or_forsaken
    {channel : σ} {settings : EngineSettings} {policy : Policy} {store : Store} {summary : SyncSummary}
    (ended :
      (apply store).runFrom ((new (Engine.new channel settings policy)).run moves) =
        (.ok summary, t))
    {c : Candidate} (remains : c ∈ t.engine.model.candidates) :
    c.key ∈ store.keys ∨
      ((new (Engine.new channel settings policy)).Forsaken moves c.key t ∧
        ∀ later : List Move, (∀ next, .sync next ∈ later → c.key ∉ next.keys) →
          (t.run later).engine.model.candidate? c.key = some c) := by
  by_cases stored : c.key ∈ store.keys
  · exact .inl stored
  · have isNew := (mirrors_new channel settings policy).faithful.keyed
    obtain ⟨keyed, forsaken⟩ := forsaken_of_forgotten isNew (fun _ => rfl) moves
    obtain ⟨keyedAfter, apart⟩ := apart_apply keyed ended
    obtain ⟨atKey, forgets⟩ := apart c.key stored
    have found : t.engine.model.candidate? c.key = some c := KeyedSet.find?_key_of_mem remains
    have forgotten : t.applied.find? c.key = none := forgets summary rfl
    rcases atKey with same | ⟨-, gone⟩
    · refine .inr ⟨?_, fun later unstored => ?_⟩
      · have registered : (((new (Engine.new channel settings policy)).run
            moves).engine.model.candidate? c.key).isSome = true := by
          rw [← same.candidate, found]
          rfl
        rw [same.applied] at forgotten
        exact (forsaken c.key registered forgotten).of_sameAt same
      · rw [(sameAt_run keyedAfter forgotten unstored).candidate, found]
    · rw [gone] at found
      cases found

/-- A gateway is carried over, and then another for its key that is refused. -/
def refusal : List Move := [
  .meanwhile (.call .seed) quiet_seed,
  .sync { gateways := [⟨.inet, "eth0", .dhcp, .v4 0x0a000001#32, none, 1, default⟩] },
  .sync { gateways := [⟨.inet, "eth0", .dhcp, .v4 0#32, none, 2, default⟩] }]

/-- After the refusal, the sync of a store from which everything has been removed. -/
def removal : Except Error SyncSummary × Synced Kernel.Session :=
  (apply {}).runFrom ((new (Engine.new Engine.twoUplinks {} {})).run refusal)

theorem left_after_removal :
    removal.1 = .ok {} ∧
      (removal.2.engine.decision .inet).gateway = some (.v4 0x0a000001#32) ∧
      removal.2.engine.model.candidate? ⟨.dhcp, "eth0", .inet⟩ =
        some ⟨.dhcp, .inet, "eth0", .v4 0x0a000001#32, none, 1⟩ := by
  simp only [removal, refusal, run, after, apply, changed_eq_insertionSort]
  decide +kernel

/-- The removal succeeds and rejects nothing, but the gateway that was carried over first still
has a candidate, and is chosen. -/
theorem chosen_after_removal :
    removal.1 = .ok {} ∧
      (removal.2.engine.decision .inet).gateway = some (.v4 0x0a000001#32) ∧
      ∃ c ∈ removal.2.engine.model.candidates, c.key ∉ ({} : Store).keys := by
  obtain ⟨ended, gateway, found⟩ := left_after_removal
  have member := (KeyedSet.find?_eq_some_iff_key_eq.1 found).1
  exact ⟨ended, gateway, _, member, by simp [Store.keys]⟩

/-- The gateway left over has been forsaken, and stays. -/
theorem forsaken_after_removal :
    ∃ c ∈ removal.2.engine.model.candidates,
      (new (Engine.new Engine.twoUplinks {} {})).Forsaken refusal c.key removal.2 ∧
        ∀ later : List Move, (∀ next, .sync next ∈ later → c.key ∉ next.keys) →
          (removal.2.run later).engine.model.candidate? c.key = some c := by
  obtain ⟨ended, -, found⟩ := left_after_removal
  have member := (KeyedSet.find?_eq_some_iff_key_eq.1 found).1
  have whole :
      (apply {}).runFrom ((new (Engine.new Engine.twoUplinks {} {})).run refusal) =
        (.ok {}, removal.2) := Prod.ext ended rfl
  refine ⟨_, member, ?_⟩
  rcases stored_or_forsaken whole member with stored | forsaken
  · simp [Store.keys] at stored
  · exact forsaken

end DefaultGateway.Synced
