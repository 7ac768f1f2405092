import DefaultGateway.Proofs.SyncHistory

/-!
# The order of versions

Among the gateways of a store the later added has the higher version, and among the candidates of
an engine the later registered. A sync registers what is new or changed in the order of the store,
after all that it leaves as it is. So both orders agree, unless a gateway that was removed comes
back under the very version it was carried over with: it is then left as it is, whatever has been
added before it in the meantime.
-/

namespace DefaultGateway

variable {σ : Type}

namespace Synced

variable {s t : Synced σ} {store : Store} {summary : SyncSummary}

/-! ## What is carried over already -/

/-- Whether a gateway has been carried over as it is. -/
def holds (s : Synced σ) (g : StoredGateway) : Bool :=
  (s.applied.find? g.key).map (·.gateway.terms) == some g.terms

section Distinct

variable (distinct : (store.gateways.map StoredGateway.key).Nodup)

include distinct

theorem mem_changed_iff_holds {g : StoredGateway} :
    g ∈ s.changed store ↔ g ∈ store.gateways ∧ s.holds g = false := by
  rw [mem_changed, Store.standing?_eq_some_iff distinct, holds, beq_eq_false_iff_ne]

theorem changed_perm : (s.changed store).Perm (store.gateways.filter (!s.holds ·)) := by
  have nodupChanged : (s.changed store).Nodup := (nodup_keys_changed s store).of_map
  have nodupFilter : (store.gateways.filter (!s.holds ·)).Nodup := distinct.of_map.filter _
  refine (List.perm_ext_iff_of_nodup nodupChanged nodupFilter).2 fun g => ?_
  rw [mem_changed_iff_holds distinct, List.mem_filter, Bool.not_eq_true']

theorem length_changed : (s.changed store).length = store.gateways.countP (!s.holds ·) := by
  rw [(changed_perm distinct).length_eq, List.countP_eq_length_filter]

/-- Of the gateways taken in, the later has the higher version. -/
theorem changed_increasing (versions : (store.gateways.map StoredGateway.version).Nodup) :
    (s.changed store).Pairwise fun g h => g.version < h.version := by
  have apart : ((s.changed store).map StoredGateway.version).Nodup := by
    rw [((changed_perm distinct).map StoredGateway.version).nodup_iff]
    exact versions.sublist (List.filter_sublist.map StoredGateway.version)
  refine ((sorted_changed s store).and (List.pairwise_map.1 apart)).imp fun ⟨below, other⟩ => ?_
  exact UInt64.lt_of_le_of_ne below other

/-- The places of the gateways taken in are in the order of their versions. -/
theorem version_lt_iff_place_lt
    (versions : (store.gateways.map StoredGateway.version).Nodup) {i j : Nat}
    {g h : StoredGateway} (atPlace : (s.changed store)[i]? = some g)
    (atOther : (s.changed store)[j]? = some h) : g.version < h.version ↔ i < j := by
  have increasing := List.pairwise_iff_getElem.1 (changed_increasing (s := s) distinct versions)
  obtain ⟨iInside, rfl⟩ := List.getElem?_eq_some_iff.1 atPlace
  obtain ⟨jInside, rfl⟩ := List.getElem?_eq_some_iff.1 atOther
  constructor
  · intro below
    by_contra notBefore
    rcases Nat.lt_or_eq_of_le (Nat.le_of_not_lt notBefore) with after | same
    · exact UInt64.lt_asymm below (increasing j i jInside iInside after)
    · subst same
      exact UInt64.lt_irrefl _ below
  · exact increasing i j iInside jInside

/-- What is remembered after a sync stands for a gateway of the store: it was remembered before,
or it has the version that belongs to the gateway's place among those taken in. -/
theorem Carries.origin
    (carries : Carries store summary s t) {a : Applied} (member : a ∈ t.applied) :
    ∃ g ∈ store.gateways, a.gateway.version = g.version ∧
      ((s.holds g = true ∧ a ∈ s.applied) ∨
        ∃ i : Nat, (s.changed store)[i]? = some g ∧
          a.registration.version = s.engine.lastVersion + UInt64.ofNat (i + 1)) := by
  have found := KeyedSet.find?_key_of_mem member
  have stored : a.gateway.key ∈ store.keys := by
    by_contra foreign
    rw [carries.gone _ foreign] at found
    cases found
  obtain ⟨g, sameKey, stands⟩ := Store.exists_standing stored
  rw [← sameKey] at found stands
  refine ⟨g, (Store.standing?_eq_some_iff distinct).1 stands, ?_⟩
  rcases carries.of_standing stands with ⟨i, listed⟩ | ⟨sameTerms, kept⟩
  · rw [carries.taken i g listed] at found
    cases found
    exact ⟨rfl, .inr ⟨i, listed, rfl⟩⟩
  · rw [kept] at found
    have held : s.holds g = true := beq_iff_eq.2 sameTerms
    rw [found] at sameTerms
    have versions : a.gateway.version = g.version :=
      congrArg (fun terms => terms.2.2) (Option.some.inj sameTerms)
    exact ⟨versions, .inl ⟨held, (KeyedSet.find?_eq_some_iff_key_eq.1 found).1⟩⟩

end Distinct

end Synced

/-! ## Upkeep -/

/-- A store, and the engine into which it is carried over from time to time. -/
structure Upkeep (σ : Type) where
  store : Store
  synced : Synced σ

namespace Upkeep

inductive Event
  | add (now : Instant) (key : Candidate.Key) (address : Address) (source : Option Address)
  | remove (selector : Selector)
  | sync
  | meanwhile (task : Engine.Task) (quiet : task.registers = false)

def fresh (channel : σ) (settings : EngineSettings) (policy : Policy) : Upkeep σ :=
  ⟨{}, .new (Engine.new channel settings policy)⟩

section Definitions

variable [RouteChannel σ]

/-- What an event leaves. An addition that fails leaves the store as it is. -/
def after (u : Upkeep σ) : Event → Upkeep σ
  | .add now key address source =>
      match u.store.add now key address source with
      | .ok (_, store) => { u with store := store }
      | .error _ => u
  | .remove selector => { u with store := u.store.remove selector }
  | .sync => { u with synced := u.synced.after (.sync u.store) }
  | .meanwhile task quiet => { u with synced := u.synced.after (.meanwhile task quiet) }

/-- Whether an event goes smoothly: a sync must succeed and reject nothing. -/
def smooth (u : Upkeep σ) : Event → Bool
  | .sync => u.synced.smooth (.sync u.store)
  | _ => true

/-- Whether a gateway is added that passes for one carried over before. -/
def revives (u : Upkeep σ) : Event → Bool
  | .add now key address source => u.synced.holds (u.store.entry now key address source)
  | _ => false

def run (u : Upkeep σ) : List Event → Upkeep σ
  | [] => u
  | event :: rest => (u.after event).run rest

def allSmooth (u : Upkeep σ) : List Event → Bool
  | [] => true
  | event :: rest => u.smooth event && (u.after event).allSmooth rest

def noneRevives (u : Upkeep σ) : List Event → Bool
  | [] => true
  | event :: rest => !u.revives event && (u.after event).noneRevives rest

end Definitions

/-! ## The invariant -/

/-- After a number of events: no key and no version occurs twice in the store, the versions given
out or due do not exceed the number, and those carried over are in the order of the store, before
all that are not carried over yet. -/
structure Tended (n : Nat) (u : Upkeep σ) : Prop where
  keys : (u.store.gateways.map StoredGateway.key).Nodup
  versions : (u.store.gateways.map StoredGateway.version).Nodup
  low : ∀ g ∈ u.store.gateways, g.version.toNat ≤ n
  due :
    u.synced.engine.lastVersion.toNat + u.store.gateways.countP (!u.synced.holds ·) ≤ n
  faithful : u.synced.Faithful
  given :
    ∀ a ∈ u.synced.applied,
      a.registration.version.toNat ≤ u.synced.engine.lastVersion.toNat
  ordered :
    ∀ a ∈ u.synced.applied, ∀ b ∈ u.synced.applied,
      (a.gateway.version < b.gateway.version ↔
        a.registration.version < b.registration.version)
  apart :
    ∀ g ∈ u.store.gateways, ∀ h ∈ u.store.gateways,
      u.synced.holds g = true → u.synced.holds h = false → g.version < h.version

theorem tended_fresh (channel : σ) (settings : EngineSettings) (policy : Policy) :
    Tended 0 (fresh channel settings policy) where
  keys := List.nodup_nil
  versions := List.nodup_nil
  low _ member := absurd member List.not_mem_nil
  due := Nat.le_refl 0
  faithful := (Synced.mirrors_new channel settings policy).faithful
  given _ member := absurd member (KeyedSet.not_mem_empty _)
  ordered _ member := absurd member (KeyedSet.not_mem_empty _)
  apart _ member := absurd member List.not_mem_nil

variable {n : Nat} {u : Upkeep σ}

theorem Tended.remove (tended : u.Tended n) (selector : Selector) :
    Tended n { u with store := u.store.remove selector } where
  keys := tended.keys.sublist (List.filter_sublist.map _)
  versions := tended.versions.sublist (List.filter_sublist.map _)
  low g member := tended.low g (List.mem_of_mem_filter member)
  due := by
    have fewer :
        (u.store.remove selector).gateways.countP (!u.synced.holds ·) ≤
          u.store.gateways.countP (!u.synced.holds ·) := List.filter_sublist.countP_le
    have due := tended.due
    dsimp only
    omega
  faithful := tended.faithful
  given := tended.given
  ordered := tended.ordered
  apart g member h memberToo :=
    tended.apart g (List.mem_of_mem_filter member) h (List.mem_of_mem_filter memberToo)

theorem Tended.add
    (tended : u.Tended n) {now : Instant} {key : Candidate.Key} {address : Address}
    {source : Option Address} {added : StoredGateway} {store : Store}
    (ended : u.store.add now key address source = .ok (added, store))
    (unheld : u.synced.holds (u.store.entry now key address source) = false) :
    Tended (n + 1) { u with store := store } := by
  have perm := Store.gateways_of_add ended
  have known : ∀ g ∈ u.store.gateways.filter (·.key ≠ key), g ∈ u.store.gateways :=
    fun g member => List.mem_of_mem_filter member
  exact {
    keys := Store.nodup_keys_of_add tended.keys ended
    versions := Store.nodup_versions_of_add tended.versions ended
    low := Store.version_le_of_add tended.low ended
    due := by
      have fewer :
          (u.store.gateways.filter (·.key ≠ key)).countP (!u.synced.holds ·) ≤
            u.store.gateways.countP (!u.synced.holds ·) := List.filter_sublist.countP_le
      have due := tended.due
      dsimp only
      rw [perm.countP_eq, List.countP_cons_of_pos (by simp [unheld])]
      omega
    faithful := tended.faithful
    given := tended.given
    ordered := tended.ordered
    apart := fun g member h memberToo held unheldToo => by
      rcases List.mem_cons.1 (perm.mem_iff.1 member) with rfl | other
      · rw [unheld] at held
        cases held
      · rcases List.mem_cons.1 (perm.mem_iff.1 memberToo) with rfl | otherToo
        -- The new entry is the last of all, so it does no harm that it is not carried over yet.
        · exact Store.version_lt_next (Store.room_of_add ended) (known g other)
        · exact tended.apart g (known g other) h (known h otherToo) held unheldToo
  }

theorem Tended.mono {m : Nat} (tended : u.Tended n) (within : n ≤ m) : u.Tended m :=
  { tended with
    low := fun g member => Nat.le_trans (tended.low g member) within
    due := Nat.le_trans tended.due within }

/-- The versions given out in a sync do not run over. -/
theorem Tended.toNat_given
    (tended : u.Tended n) (room : n < UInt64.size) {i : Nat}
    (inside : i ≤ (u.synced.changed u.store).length) :
    (u.synced.engine.lastVersion + UInt64.ofNat i).toNat =
      u.synced.engine.lastVersion.toNat + i := by
  have due := tended.due
  rw [← Synced.length_changed tended.keys] at due
  exact Store.toNat_add_ofNat (by omega)

theorem Tended.toNat_place
    (tended : u.Tended n) (room : n < UInt64.size) {i : Nat} {g : StoredGateway}
    (listed : (u.synced.changed u.store)[i]? = some g) :
    (u.synced.engine.lastVersion + UInt64.ofNat (i + 1)).toNat =
      u.synced.engine.lastVersion.toNat + (i + 1) :=
  tended.toNat_given room (List.getElem?_eq_some_iff.1 listed).1

section Carry

variable {summary : SyncSummary} {t : Synced σ}

/-- A sync that succeeds and rejects nothing gives the candidates versions in the order of the
store. -/
theorem Tended.ordered_carry
    (tended : u.Tended n) (room : n < UInt64.size)
    (carries : Synced.Carries u.store summary u.synced t) {a b : Applied}
    (member : a ∈ t.applied) (memberToo : b ∈ t.applied) :
    a.gateway.version < b.gateway.version ↔
      a.registration.version < b.registration.version := by
  have unheld {i : Nat} {g : StoredGateway} (listed : (u.synced.changed u.store)[i]? = some g) :
      u.synced.holds g = false :=
    ((Synced.mem_changed_iff_holds tended.keys).1 (List.mem_of_getElem? listed)).2
  obtain ⟨g, stored, gVersion, aOrigin⟩ := carries.origin tended.keys member
  obtain ⟨h, storedToo, hVersion, bOrigin⟩ := carries.origin tended.keys memberToo
  -- What is taken in comes after what is kept, in both orders.
  rcases aOrigin with ⟨gHeld, aBefore⟩ | ⟨i, atPlace, aVersion⟩
  · rcases bOrigin with ⟨hHeld, bBefore⟩ | ⟨j, atOther, bVersion⟩
    · exact tended.ordered a aBefore b bBefore
    · have above := tended.apart g stored h storedToo gHeld (unheld atOther)
      have aGiven := tended.given a aBefore
      have bPlaced := tended.toNat_place room atOther
      rw [gVersion, hVersion, bVersion]
      refine iff_of_true above ?_
      rw [UInt64.lt_iff_toNat_lt]
      omega
  · have aPlaced := tended.toNat_place room atPlace
    rcases bOrigin with ⟨hHeld, bBefore⟩ | ⟨j, atOther, bVersion⟩
    · have below := tended.apart h storedToo g stored hHeld (unheld atPlace)
      have bGiven := tended.given b bBefore
      rw [gVersion, hVersion, aVersion]
      refine iff_of_false (UInt64.lt_asymm below) ?_
      rw [UInt64.lt_iff_toNat_lt]
      omega
    · have bPlaced := tended.toNat_place room atOther
      rw [gVersion, hVersion, aVersion, bVersion,
        Synced.version_lt_iff_place_lt tended.keys tended.versions atPlace atOther,
        UInt64.lt_iff_toNat_lt]
      omega

theorem Tended.carry
    (tended : u.Tended n) (room : n < UInt64.size)
    (carries : Synced.Carries u.store summary u.synced t) :
    Tended n { u with synced := t } := by
  have due := tended.due
  rw [← Synced.length_changed tended.keys] at due
  have last := tended.toNat_given room (Nat.le_refl _)
  rw [← carries.lastVersion] at last
  have held : ∀ g ∈ u.store.gateways, t.holds g = true := by
    intro g member
    have sameTerms := carries.terms g.key
    rw [(Store.standing?_eq_some_iff tended.keys).2 member] at sameTerms
    exact beq_iff_eq.2 sameTerms
  exact {
    keys := tended.keys
    versions := tended.versions
    low := tended.low
    due := by
      have none : u.store.gateways.countP (!t.holds ·) = 0 :=
        List.countP_eq_zero.2 fun g member => by simp [held g member]
      dsimp only
      omega
    faithful := carries.faithful tended.faithful
    given := fun a member => by
      dsimp only
      obtain ⟨g, -, -, ⟨-, before⟩ | ⟨i, listed, version⟩⟩ := carries.origin tended.keys member
      · have given := tended.given a before
        omega
      · have inside := (List.getElem?_eq_some_iff.1 listed).1
        have placed := tended.toNat_place room listed
        rw [version]
        omega
    ordered := fun a member b memberToo => tended.ordered_carry room carries member memberToo
    apart := fun g _ h member _ unheld => by
      rw [held h member] at unheld
      cases unheld
  }

end Carry

variable [RouteChannel σ]

theorem Tended.meanwhile
    (tended : u.Tended n) (room : n + 1 < UInt64.size) {task : Engine.Task}
    (quiet : task.registers = false) :
    Tended (n + 1) { u with synced := u.synced.after (.meanwhile task quiet) } := by
  have due := tended.due
  have later :
      (u.synced.after (.meanwhile task quiet)).engine.lastVersion.toNat =
          u.synced.engine.lastVersion.toNat ∨
        (u.synced.after (.meanwhile task quiet)).engine.lastVersion.toNat =
          u.synced.engine.lastVersion.toNat + 1 := by
    rcases Engine.lastVersion_perform quiet u.synced.engine with same | next
    · exact .inl (congrArg UInt64.toNat same)
    · have fits : u.synced.engine.lastVersion.toNat + 1 < UInt64.size := by omega
      exact .inr ((congrArg UInt64.toNat next).trans (Store.toNat_add_ofNat fits))
  exact {
    keys := tended.keys
    versions := tended.versions
    low := fun g member => Nat.le_succ_of_le (tended.low g member)
    due := by
      change _ + u.store.gateways.countP (!u.synced.holds ·) ≤ _
      dsimp only
      omega
    faithful := tended.faithful.of_eq rfl (Engine.candidates_perform quiet u.synced.engine)
    given := fun a member => by
      have given := tended.given a member
      dsimp only
      omega
    ordered := tended.ordered
    apart := tended.apart
  }

theorem Tended.after
    (tended : u.Tended n) (room : n + 1 < UInt64.size) {event : Event}
    (smooth : u.smooth event = true) (unrevived : u.revives event = false) :
    (u.after event).Tended (n + 1) := by
  cases event with
  | remove selector => exact (tended.remove selector).mono (Nat.le_succ n)
  | meanwhile task quiet => exact tended.meanwhile room quiet
  | sync =>
      obtain ⟨summary, carries⟩ := Synced.carries_of_smooth tended.faithful.keyed smooth
      exact (tended.carry (by omega) carries).mono (Nat.le_succ n)
  | add now key address source =>
      rw [Upkeep.after]
      cases ended : u.store.add now key address source with
      | error error => exact tended.mono (Nat.le_succ n)
      | ok done => exact tended.add ended unrevived

theorem Tended.run
    (tended : u.Tended n) {events : List Event} (room : n + events.length < UInt64.size)
    (smooth : u.allSmooth events = true) (unrevived : u.noneRevives events = true) :
    (u.run events).Tended (n + events.length) := by
  induction events generalizing u n with
  | nil => exact tended
  | cons event rest inductionHypothesis =>
      obtain ⟨smoothFirst, smoothLater⟩ := Bool.and_eq_true_iff.1 smooth
      obtain ⟨first, later⟩ := Bool.and_eq_true_iff.1 unrevived
      rw [List.length_cons] at room ⊢
      have afterFirst := tended.after (by omega) smoothFirst (by simpa using first)
      have done := inductionHypothesis afterFirst (by omega) smoothLater later
      rwa [Nat.add_right_comm, Nat.add_assoc] at done

/-! ## Main result -/

/-- A store that was empty is edited, and carried over from time to time into an engine that was
new, each time successfully and without a rejection, in fewer events than there are versions. If no
gateway was added that passed for one carried over before, then after it is carried over once more,
of any two gateways of the store the one of higher version has the candidate of higher version. -/
theorem version_lt_iff_candidate
    {channel : σ} {settings : EngineSettings} {policy : Policy} {events : List Event}
    (few : events.length < UInt64.size)
    (smooth : (fresh channel settings policy).allSmooth events = true)
    (unrevived : (fresh channel settings policy).noneRevives events = true)
    {summary : SyncSummary} {t : Synced σ}
    (ended :
      (Synced.apply ((fresh channel settings policy).run events).store).runFrom
        ((fresh channel settings policy).run events).synced = (.ok summary, t))
    (unrejected : summary.rejected = 0) :
    ∀ g ∈ ((fresh channel settings policy).run events).store.gateways,
      ∀ h ∈ ((fresh channel settings policy).run events).store.gateways,
        ∃ c d,
          t.engine.model.candidate? g.key = some c ∧
            t.engine.model.candidate? h.key = some d ∧
            (g.version < h.version ↔ c.version < d.version) := by
  have tended := (tended_fresh channel settings policy).run (by omega) smooth unrevived
  generalize (fresh channel settings policy).run events = u at ended tended ⊢
  have carries := Synced.carries_apply tended.faithful.keyed ended unrejected
  have carried := tended.carry (by omega) carries
  have standing (g : StoredGateway) (stored : g ∈ u.store.gateways) :
      ∃ a ∈ t.applied, a.gateway.version = g.version ∧
        t.engine.model.candidate? g.key = some a.candidate := by
    have sameTerms := carries.terms g.key
    rw [(Store.standing?_eq_some_iff tended.keys).2 stored] at sameTerms
    obtain ⟨a, found, same⟩ := Option.map_eq_some_iff.1 sameTerms
    refine ⟨a, (KeyedSet.find?_eq_some_iff_key_eq.1 found).1, congrArg (·.2.2) same, ?_⟩
    rw [carried.faithful.candidates, found]
    rfl
  intro g stored h storedToo
  obtain ⟨a, aKnown, aVersion, aCandidate⟩ := standing g stored
  obtain ⟨b, bKnown, bVersion, bCandidate⟩ := standing h storedToo
  have agree := carried.ordered a aKnown b bKnown
  rw [aVersion, bVersion] at agree
  exact ⟨a.candidate, b.candidate, aCandidate, bCandidate, agree⟩

/-- Two gateways are added and carried over, and one is replaced. -/
def replacement : List Event := [
  .meanwhile (.call .seed) Synced.quiet_seed,
  .add default ⟨.dhcp, "eth0", .inet⟩ (.v4 0x0a000001#32) none,
  .add default ⟨.dhcp, "wlan0", .inet⟩ (.v4 0x0a010001#32) none,
  .sync,
  .remove ⟨none, some "eth0", none⟩,
  .add default ⟨.dhcp, "eth0", .inet⟩ (.v4 0x0a000002#32) none]

def replaced : Upkeep Kernel.Session := (fresh Engine.twoUplinks {} {}).run replacement

/-- What is newest in the store has the newest candidate. -/
theorem version_lt_iff_candidate_replaced :
    ∃ t, (Synced.apply replaced.store).runFrom replaced.synced = (.ok { updated := 1 }, t) ∧
      ∃ c d,
        t.engine.model.candidate? ⟨.dhcp, "wlan0", .inet⟩ = some c ∧
          t.engine.model.candidate? ⟨.dhcp, "eth0", .inet⟩ = some d ∧
          c.version < d.version := by
  have evaluated :
      (fresh Engine.twoUplinks {} {}).allSmooth replacement = true ∧
        (fresh Engine.twoUplinks {} {}).noneRevives replacement = true ∧
        ((Synced.apply replaced.store).runFrom replaced.synced).1 = .ok { updated := 1 } ∧
        replaced.store.gateways = [
          ⟨.inet, "eth0", .dhcp, .v4 0x0a000002#32, none, 3, default⟩,
          ⟨.inet, "wlan0", .dhcp, .v4 0x0a010001#32, none, 2, default⟩] := by
    simp only [replaced, replacement, run, allSmooth, noneRevives, Upkeep.smooth, Upkeep.revives,
      after, Synced.smooth, Synced.after, Synced.apply, Synced.changed_eq_insertionSort, Store.add,
      Store.sortGateways_eq_insertionSort]
    decide +kernel
  obtain ⟨smooth, unrevived, counted, listed⟩ := evaluated
  cases ended : (Synced.apply replaced.store).runFrom replaced.synced with
  | mk outcome t =>
      rw [ended] at counted
      cases counted
      have newest : ⟨.inet, "eth0", .dhcp, .v4 0x0a000002#32, none, 3, default⟩ ∈
          replaced.store.gateways := by
        rw [listed]
        exact List.mem_cons_self
      have older : ⟨.inet, "wlan0", .dhcp, .v4 0x0a010001#32, none, 2, default⟩ ∈
          replaced.store.gateways := by
        rw [listed]
        exact List.mem_cons_of_mem _ List.mem_cons_self
      obtain ⟨c, d, olderStands, newestStands, agree⟩ :=
        version_lt_iff_candidate (by decide) smooth unrevived ended rfl _ older _ newest
      exact ⟨t, rfl, c, d, olderStands, newestStands, agree.1 (by decide)⟩

/-- Two gateways are added and carried over. Both are removed, one is replaced, and the other comes
back with the version it had. -/
def revival : List Event := [
  .meanwhile (.call .seed) Synced.quiet_seed,
  .add default ⟨.dhcp, "eth0", .inet⟩ (.v4 0x0a000001#32) none,
  .add default ⟨.dhcp, "wlan0", .inet⟩ (.v4 0x0a010001#32) none,
  .sync,
  .remove {},
  .add default ⟨.dhcp, "eth0", .inet⟩ (.v4 0x0a000002#32) none,
  .add default ⟨.dhcp, "wlan0", .inet⟩ (.v4 0x0a010001#32) none]

def revived : Upkeep Kernel.Session := (fresh Engine.twoUplinks {} {}).run revival

def resynced : Except Error SyncSummary × Synced Kernel.Session :=
  (Synced.apply revived.store).runFrom revived.synced

/-- The gateway that came back is the newest in the store, but it is left as it is, and the engine
chooses the other as the newest. -/
theorem order_lost_by_revival :
    (fresh Engine.twoUplinks {} {}).allSmooth revival = true ∧
      resynced.1 = .ok { updated := 1 } ∧
      (resynced.2.engine.decision .inet).gateway = some (.v4 0x0a000002#32) ∧
      ∃ g ∈ revived.store.gateways, ∃ h ∈ revived.store.gateways, ∃ c d,
        g.version < h.version ∧ resynced.2.engine.model.candidate? g.key = some c ∧
          resynced.2.engine.model.candidate? h.key = some d ∧ d.version < c.version := by
  have evaluated :
      (fresh Engine.twoUplinks {} {}).allSmooth revival = true ∧
        resynced.1 = .ok { updated := 1 } ∧
        (resynced.2.engine.decision .inet).gateway = some (.v4 0x0a000002#32) ∧
        resynced.2.engine.model.candidate? ⟨.dhcp, "eth0", .inet⟩ =
          some ⟨.dhcp, .inet, "eth0", .v4 0x0a000002#32, none, 3⟩ ∧
        resynced.2.engine.model.candidate? ⟨.dhcp, "wlan0", .inet⟩ =
          some ⟨.dhcp, .inet, "wlan0", .v4 0x0a010001#32, none, 2⟩ ∧
        revived.store.gateways = [
          ⟨.inet, "eth0", .dhcp, .v4 0x0a000002#32, none, 1, default⟩,
          ⟨.inet, "wlan0", .dhcp, .v4 0x0a010001#32, none, 2, default⟩] := by
    simp only [resynced, revived, revival, run, allSmooth, Upkeep.smooth, after, Synced.smooth,
      Synced.after, Synced.apply, Synced.changed_eq_insertionSort, Store.add,
      Store.sortGateways_eq_insertionSort]
    decide +kernel
  obtain ⟨smooth, counted, chosen, first, second, listed⟩ := evaluated
  refine
    ⟨smooth, counted, chosen, ⟨.inet, "eth0", .dhcp, .v4 0x0a000002#32, none, 1, default⟩, ?_,
      ⟨.inet, "wlan0", .dhcp, .v4 0x0a010001#32, none, 2, default⟩, ?_, _, _, ?_, first, second,
      ?_⟩
  · rw [listed]
    exact List.mem_cons_self
  · rw [listed]
    exact List.mem_cons_of_mem _ List.mem_cons_self
  · decide
  · decide

end Upkeep

end DefaultGateway
