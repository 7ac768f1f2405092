import DefaultGateway.Proofs.KeyedSet
import DefaultGateway.Proofs.Sorting
import DefaultGateway.Store.Basic
import Mathlib.Data.Finset.Card

/-!
# The store and its edits

Which gateway stands under a key, and which gateways there are after one has been added or some
have been removed.
-/

namespace DefaultGateway

namespace StoredGateway

/-- What a gateway is registered with. -/
def terms (g : StoredGateway) : Address × Option Address × UInt64 :=
  (g.address, g.source, g.version)

theorem sameRegistration_iff {g h : StoredGateway} :
    g.sameRegistration h = true ↔ g.terms = h.terms := by
  simp [sameRegistration, terms, and_assoc]

theorem version_le_trans (g h k : StoredGateway)
    (first : decide (g.version ≤ h.version) = true)
    (second : decide (h.version ≤ k.version) = true) :
    decide (g.version ≤ k.version) = true :=
  decide_eq_true (UInt64.le_trans (of_decide_eq_true first) (of_decide_eq_true second))

theorem version_le_total (g h : StoredGateway) :
    (decide (g.version ≤ h.version) || decide (h.version ≤ g.version)) = true := by
  simpa using UInt64.le_total g.version h.version

theorem key_isLE_trans (g h k : StoredGateway)
    (first : (compare g.key h.key).isLE = true) (second : (compare h.key k.key).isLE = true) :
    (compare g.key k.key).isLE = true :=
  Std.TransCmp.isLE_trans first second

theorem key_isLE_total (g h : StoredGateway) :
    ((compare g.key h.key).isLE || (compare h.key g.key).isLE) = true := by
  have swapped : compare h.key g.key = (compare g.key h.key).swap := Std.OrientedCmp.eq_swap
  rw [swapped]
  cases compare g.key h.key <;> rfl

end StoredGateway

namespace Store

/-- The gateway that stands under a key: of several entries the last. -/
def standing? (store : Store) (key : Candidate.Key) : Option StoredGateway :=
  store.gateways.reverse.find? (·.key == key)

def keys (store : Store) : Finset Candidate.Key :=
  (store.gateways.map StoredGateway.key).toFinset

theorem mem_keys {store : Store} {key : Candidate.Key} :
    key ∈ store.keys ↔ ∃ g ∈ store.gateways, g.key = key := by
  simp [keys]

theorem isSome_standing?_iff {store : Store} {key : Candidate.Key} :
    (store.standing? key).isSome = true ↔ key ∈ store.keys := by
  simp [standing?, mem_keys]

theorem key_of_standing?
    {store : Store} {key : Candidate.Key} {g : StoredGateway}
    (stands : store.standing? key = some g) : g.key = key := by
  simpa using List.find?_some stands

theorem mem_keys_of_standing?
    {store : Store} {key : Candidate.Key} {g : StoredGateway}
    (stands : store.standing? key = some g) : key ∈ store.keys := by
  rw [← isSome_standing?_iff, stands]
  rfl

theorem exists_standing {store : Store} {key : Candidate.Key} (stored : key ∈ store.keys) :
    ∃ g, g.key = key ∧ store.standing? key = some g := by
  obtain ⟨g, stands⟩ := Option.isSome_iff_exists.1 (isSome_standing?_iff.2 stored)
  exact ⟨g, key_of_standing? stands, stands⟩

/-- Where no key occurs twice, every entry stands. -/
theorem standing?_eq_some_iff
    {store : Store} (distinct : (store.gateways.map StoredGateway.key).Nodup)
    {g : StoredGateway} : store.standing? g.key = some g ↔ g ∈ store.gateways := by
  constructor
  · intro stands
    simpa using List.mem_of_find?_eq_some stands
  · intro member
    obtain ⟨h, sameKey, stands⟩ := exists_standing (mem_keys.2 ⟨g, member, rfl⟩)
    have memberToo : h ∈ store.gateways := by simpa using List.mem_of_find?_eq_some stands
    have same : h = g := List.inj_on_of_nodup_map distinct memberToo member sameKey
    rw [stands, same]

variable {s : Store}

/-! ## Versions -/

theorem toNat_max (a b : UInt64) : (max a b).toNat = max a.toNat b.toNat := by
  have cases : max a b = if a ≤ b then b else a := rfl
  rw [cases]
  split
  · rename_i below
    rw [UInt64.le_iff_toNat_le] at below
    omega
  · rename_i above
    rw [UInt64.le_iff_toNat_le] at above
    omega

/-- A sum of versions that is not too large is the sum of the numbers. -/
theorem toNat_add_ofNat {version : UInt64} {n : Nat} (room : version.toNat + n < UInt64.size) :
    (version + UInt64.ofNat n).toNat = version.toNat + n := by
  have small : n < UInt64.size := by omega
  rw [UInt64.toNat_add, UInt64.toNat_ofNat_of_lt' small]
  exact Nat.mod_eq_of_lt room

theorem version_le_highest {g : StoredGateway} (member : g ∈ s.gateways) :
    g.version.toNat ≤ s.highest.toNat := by
  have accumulated (l : List StoredGateway) (start : UInt64) :
      let final := l.foldl (fun version g => max version g.version) start
      start.toNat ≤ final.toNat ∧ ∀ g ∈ l, g.version.toNat ≤ final.toNat := by
    induction l generalizing start with
    | nil => simp
    | cons first rest inductionHypothesis =>
        obtain ⟨above, aboveRest⟩ := inductionHypothesis (max start first.version)
        rw [toNat_max] at above
        exact ⟨by simp only [List.foldl_cons]; omega,
          List.forall_mem_cons.2 ⟨by simp only [List.foldl_cons]; omega, aboveRest⟩⟩
  exact (accumulated s.gateways 0).2 g member

theorem highest_le {n : Nat} (low : ∀ g ∈ s.gateways, g.version.toNat ≤ n) :
    s.highest.toNat ≤ n := by
  refine List.foldlRecOn (motive := fun version : UInt64 => version.toNat ≤ n) s.gateways _
    (Nat.zero_le n) fun version below g member => ?_
  rw [toNat_max]
  exact Nat.max_le.2 ⟨below, low g member⟩

/-- There is a next version as long as the highest of all is not taken. -/
theorem room_iff :
    s.highest.toNat + 1 < UInt64.size ↔ ∀ g ∈ s.gateways, g.version.toNat + 1 < UInt64.size := by
  constructor
  · intro room g member
    have below := version_le_highest member
    omega
  · intro free
    have low : ∀ g ∈ s.gateways, g.version.toNat ≤ UInt64.size - 2 := fun g member =>
      Nat.le_sub_of_add_le (free g member)
    have bounded := highest_le low
    have several : 2 ≤ UInt64.size := by decide
    omega

theorem no_room_iff :
    (¬s.highest.toNat + 1 < UInt64.size) ↔
      ∃ g ∈ s.gateways, g.version.toNat + 1 = UInt64.size := by
  rw [room_iff, not_forall₂]
  constructor
  · rintro ⟨g, member, last⟩
    have bound : g.version.toNat < UInt64.size := UInt64.toNat_lt_size _
    exact ⟨g, member, by omega⟩
  · rintro ⟨g, member, last⟩
    exact ⟨g, member, by omega⟩

theorem nextVersion_of_room (room : s.highest.toNat + 1 < UInt64.size) :
    s.nextVersion = .ok (s.highest + 1) :=
  if_pos room

theorem nextVersion_of_no_room (full : ¬s.highest.toNat + 1 < UInt64.size) :
    s.nextVersion = .error .overflow :=
  if_neg full

theorem toNat_next (room : s.highest.toNat + 1 < UInt64.size) :
    (s.highest + 1).toNat = s.highest.toNat + 1 :=
  toNat_add_ofNat room

theorem version_lt_next
    (room : s.highest.toNat + 1 < UInt64.size) {g : StoredGateway} (member : g ∈ s.gateways) :
    g.version < s.highest + 1 := by
  rw [UInt64.lt_iff_toNat_lt, toNat_next room]
  exact Nat.lt_succ_of_le (version_le_highest member)

/-! ## Edits -/

/-- The selector of a key alone matches no other key. -/
theorem matchesKey_exact (key k : Candidate.Key) :
    Selector.matchesKey ⟨some key.family, some key.interface, some key.protocol⟩ k =
      decide (k = key) := by
  rw [Bool.eq_iff_iff]
  cases key
  cases k
  simp only [Selector.matchesKey, Selector.admits, Bool.and_eq_true, beq_iff_eq,
    decide_eq_true_eq, Candidate.Key.mk.injEq]
  tauto

/-- The entry under which a gateway is added, if there is room for one. -/
def entry
    (s : Store) (now : Instant) (key : Candidate.Key) (address : Address)
    (source : Option Address) : StoredGateway :=
  ⟨key.family, key.interface, key.protocol, address, source, s.highest + 1, now⟩

theorem sortGateways_eq_insertionSort (gateways : List StoredGateway) :
    sortGateways gateways =
      gateways.insertionSort fun g h => (compare g.key h.key).isLE = true :=
  mergeSort_eq_insertionSort StoredGateway.key_isLE_trans StoredGateway.key_isLE_total gateways

/-- The gateways once a gateway stands in place of any other of its key. -/
def gatewaysWith
    (s : Store) (now : Instant) (key : Candidate.Key) (address : Address)
    (source : Option Address) : List StoredGateway :=
  sortGateways (s.gateways.filter (·.key ≠ key) ++ [s.entry now key address source])

section Add

variable {now : Instant} {key : Candidate.Key} {address : Address} {source : Option Address}

theorem gatewaysWith_perm :
    (s.gatewaysWith now key address source).Perm
      (s.entry now key address source :: s.gateways.filter (·.key ≠ key)) :=
  (List.mergeSort_perm _ _).trans (List.perm_append_singleton _ _)

theorem entry_mem_gatewaysWith :
    s.entry now key address source ∈ s.gatewaysWith now key address source :=
  gatewaysWith_perm.mem_iff.2 List.mem_cons_self

theorem add_of_fault
    (s : Store) (now : Instant) {fault : AddFault}
    (faulty : addFault? key address source = some fault) :
    s.add now key address source = .error fault.toError := by
  rw [add, faulty]

/-- A gateway without a fault is refused by a store without a next version. -/
theorem add_of_no_room
    (s : Store) (now : Instant) (sound : addFault? key address source = none)
    (full : ¬s.highest.toNat + 1 < UInt64.size) :
    s.add now key address source = .error .overflow := by
  rw [add, sound]
  dsimp only
  rw [nextVersion_of_no_room full]
  rfl

/-- While there is room, the new entry is the only one of its version, so that it is found. -/
theorem find?_gatewaysWith (room : s.highest.toNat + 1 < UInt64.size) :
    (s.gatewaysWith now key address source).find? (·.version == s.highest + 1) =
      some (s.entry now key address source) := by
  cases found : (s.gatewaysWith now key address source).find? (·.version == s.highest + 1) with
  | none =>
      have unlike := List.find?_eq_none.1 found _ entry_mem_gatewaysWith
      exact absurd (beq_self_eq_true _) unlike
  | some added =>
      have newest : added.version = s.highest + 1 := by simpa using List.find?_some found
      have listed := gatewaysWith_perm.mem_iff.1 (List.mem_of_find?_eq_some found)
      rcases List.mem_cons.1 listed with same | kept
      · rw [same]
      · have below := version_lt_next room (List.mem_of_mem_filter kept)
        rw [newest] at below
        exact absurd below (UInt64.lt_irrefl _)

theorem add_of_room
    (s : Store) (now : Instant) (sound : addFault? key address source = none)
    (room : s.highest.toNat + 1 < UInt64.size) :
    s.add now key address source =
      .ok (s.entry now key address source,
        { s with gateways := s.gatewaysWith now key address source }) := by
  have others :
      (s.remove ⟨some key.family, some key.interface, some key.protocol⟩).gateways =
        s.gateways.filter (·.key ≠ key) := by
    simp [remove, matchesKey_exact]
  have found :
      (s.gatewaysWith now key address source).find? (·.version == s.highest + 1) =
        some (s.entry now key address source) := find?_gatewaysWith room
  rw [gatewaysWith, ← others, entry] at found
  rw [add, sound]
  dsimp only
  rw [nextVersion_of_room room]
  dsimp only [bind, Except.bind]
  rw [found, gatewaysWith, ← others, entry]

variable {added : StoredGateway} {after : Store}

/-- An addition succeeds exactly where there is no fault and a next version. It then answers with
the new entry, which stands in place of any other of its key. -/
theorem add_eq_ok_iff :
    s.add now key address source = .ok (added, after) ↔
      addFault? key address source = none ∧ s.highest.toNat + 1 < UInt64.size ∧
        added = s.entry now key address source ∧
        after = { s with gateways := s.gatewaysWith now key address source } := by
  cases found : addFault? key address source with
  | some fault =>
      rw [s.add_of_fault now found]
      simp
  | none =>
      by_cases room : s.highest.toNat + 1 < UInt64.size
      · rw [s.add_of_room now found room]
        simp [room, eq_comm]
      · rw [s.add_of_no_room now found room]
        simp [room]

theorem sound_of_add (ended : s.add now key address source = .ok (added, after)) :
    addFault? key address source = none :=
  (add_eq_ok_iff.1 ended).1

theorem room_of_add (ended : s.add now key address source = .ok (added, after)) :
    s.highest.toNat + 1 < UInt64.size :=
  (add_eq_ok_iff.1 ended).2.1

theorem after_of_add (ended : s.add now key address source = .ok (added, after)) :
    after = { s with gateways := s.gatewaysWith now key address source } :=
  (add_eq_ok_iff.1 ended).2.2.2

/-- Whatever stood under the key of an added gateway gives way to it. -/
theorem gateways_of_add (ended : s.add now key address source = .ok (added, after)) :
    after.gateways.Perm
      (s.entry now key address source :: s.gateways.filter (·.key ≠ key)) := by
  rw [after_of_add ended]
  exact gatewaysWith_perm

/-- What tells the gateways of a store apart, and the new entry from those it leaves, tells the
gateways apart after an addition. -/
theorem nodup_map_of_add
    {β : Type} {f : StoredGateway → β} (distinct : (s.gateways.map f).Nodup)
    (apart : ∀ g ∈ s.gateways, g.key ≠ key → f g ≠ f (s.entry now key address source))
    (ended : s.add now key address source = .ok (added, after)) :
    (after.gateways.map f).Nodup := by
  rw [((gateways_of_add ended).map f).nodup_iff, List.map_cons, List.nodup_cons]
  refine ⟨fun listed => ?_, distinct.sublist (List.filter_sublist.map _)⟩
  obtain ⟨g, kept, same⟩ := List.mem_map.1 listed
  obtain ⟨member, other⟩ := List.mem_filter.1 kept
  exact apart g member (of_decide_eq_true other) same

theorem nodup_keys_of_add
    (distinct : (s.gateways.map StoredGateway.key).Nodup)
    (ended : s.add now key address source = .ok (added, after)) :
    (after.gateways.map StoredGateway.key).Nodup :=
  nodup_map_of_add distinct (fun _ _ other => other) ended

theorem nodup_versions_of_add
    (distinct : (s.gateways.map StoredGateway.version).Nodup)
    (ended : s.add now key address source = .ok (added, after)) :
    (after.gateways.map StoredGateway.version).Nodup :=
  nodup_map_of_add distinct
    (fun _ member _ => UInt64.ne_of_lt (version_lt_next (room_of_add ended) member)) ended

theorem version_le_of_add
    {n : Nat} (low : ∀ g ∈ s.gateways, g.version.toNat ≤ n)
    (ended : s.add now key address source = .ok (added, after)) :
    ∀ g ∈ after.gateways, g.version.toNat ≤ n + 1 := by
  intro g member
  rcases List.mem_cons.1 ((gateways_of_add ended).mem_iff.1 member) with rfl | other
  · exact (toNat_next (room_of_add ended)).trans_le (Nat.succ_le_succ (highest_le low))
  · exact Nat.le_succ_of_le (low g (List.mem_of_mem_filter other))

end Add

end Store

end DefaultGateway
