import DefaultGateway.Proofs.Coverage
import DefaultGateway.Proofs.Store
import DefaultGateway.Proofs.StoreText

/-!
# Edits of the store

A store that starts out empty and is edited is a map from keys to gateways with a version each: the
gateways stand in the order of their keys, and the later added has the higher version. A store that
is read from a file need not be one. What an addition makes of it depends on the highest version
alone: if there is one above it, the new gateway is put in and has it; if not, the program stops.
-/

namespace DefaultGateway

namespace Store

inductive Edit
  | add (now : Instant) (key : Candidate.Key) (address : Address) (source : Option Address)
  | remove (selector : Selector)
  | disable (selector : Selector)
  | enable (selector : Selector)

namespace Edit

def isAdd : Edit → Bool
  | .add .. => true
  | _ => false

end Edit

/-- The store after an edit. An addition that fails leaves it as it is. -/
def edit (s : Store) : Edit → Store
  | .add now key address source =>
      match s.add now key address source with
      | .ok (_, after) => after
      | .error _ => s
  | .remove selector => s.remove selector
  | .disable selector => s.disable selector
  | .enable selector => s.enable selector

def editAll (s : Store) (edits : List Edit) : Store := edits.foldl edit s

/-! ## The versioned map -/

/-- The gateways stand in the strict order of their keys. Their versions are all different, and
they lie between one and a number. -/
structure Versioned (n : Nat) (s : Store) : Prop where
  sorted : s.gateways.Pairwise fun g h => compare g.key h.key = .lt
  versions : (s.gateways.map StoredGateway.version).Nodup
  positive : ∀ g ∈ s.gateways, 1 ≤ g.version
  low : ∀ g ∈ s.gateways, g.version.toNat ≤ n

theorem versioned_empty : Versioned 0 {} where
  sorted := .nil
  versions := .nil
  positive _ member := absurd member List.not_mem_nil
  low _ member := absurd member List.not_mem_nil

variable {n : Nat} {s : Store}

theorem key_ne_of_compare {g h : StoredGateway} (before : compare g.key h.key = .lt) :
    g.key ≠ h.key := by
  intro same
  have tie : compare g.key h.key = .eq := same ▸ Std.ReflCmp.compare_self
  rw [before] at tie
  cases tie

theorem Versioned.keys (versioned : s.Versioned n) :
    (s.gateways.map StoredGateway.key).Nodup :=
  List.pairwise_map.2 (versioned.sorted.imp key_ne_of_compare)

theorem Versioned.remove (versioned : s.Versioned n) (selector : Selector) :
    (s.remove selector).Versioned n where
  sorted := versioned.sorted.sublist List.filter_sublist
  versions := versioned.versions.sublist (List.filter_sublist.map _)
  positive g member := versioned.positive g (List.mem_of_mem_filter member)
  low g member := versioned.low g (List.mem_of_mem_filter member)

theorem Versioned.mono {m : Nat} (versioned : s.Versioned n) (within : n ≤ m) :
    s.Versioned m :=
  { versioned with low := fun g member => Nat.le_trans (versioned.low g member) within }

theorem key_lt_of_isLE {g h : StoredGateway}
    (notAfter : (compare g.key h.key).isLE = true) (other : g.key ≠ h.key) :
    compare g.key h.key = .lt := by
  cases order : compare g.key h.key with
  | lt => rfl
  | eq => exact absurd (Std.LawfulEqCmp.eq_of_compare order) other
  | gt =>
      rw [order] at notAfter
      cases notAfter

/-- Sorting gateways of different keys puts them in the strict order of their keys. -/
theorem sorted_sortGateways
    {gateways : List StoredGateway} (distinct : (gateways.map StoredGateway.key).Nodup) :
    (sortGateways gateways).Pairwise fun g h => compare g.key h.key = .lt := by
  have ordered : (sortGateways gateways).Pairwise fun g h => (compare g.key h.key).isLE = true :=
    List.pairwise_mergeSort StoredGateway.key_isLE_trans StoredGateway.key_isLE_total gateways
  have apart : (sortGateways gateways).Pairwise fun g h => g.key ≠ h.key := by
    have perm := (List.mergeSort_perm gateways fun g h => (compare g.key h.key).isLE).map
      StoredGateway.key
    exact List.pairwise_map.1 (perm.nodup_iff.2 distinct)
  exact (ordered.and apart).imp fun ⟨notAfter, other⟩ => key_lt_of_isLE notAfter other

theorem Versioned.add
    (versioned : s.Versioned n) {now : Instant} {key : Candidate.Key} {address : Address}
    {source : Option Address} {added : StoredGateway} {after : Store}
    (ended : s.add now key address source = .ok (added, after)) :
    after.Versioned (n + 1) where
  sorted := by
    have distinct := nodup_keys_of_add versioned.keys ended
    rw [after_of_add ended] at distinct ⊢
    have unsorted := ((List.mergeSort_perm _ _).map StoredGateway.key).nodup_iff.1 distinct
    exact sorted_sortGateways unsorted
  versions := nodup_versions_of_add versioned.versions ended
  positive g member := by
    rcases List.mem_cons.1 ((gateways_of_add ended).mem_iff.1 member) with rfl | other
    · have next := toNat_next (room_of_add ended)
      rw [UInt64.le_iff_toNat_le]
      change 1 ≤ (s.highest + 1).toNat
      omega
    · exact versioned.positive g (List.mem_of_mem_filter other)
  low := version_le_of_add versioned.low ended

theorem Versioned.edit (versioned : s.Versioned n) (e : Edit) :
    (s.edit e).Versioned (n + if e.isAdd then 1 else 0) := by
  cases e with
  | remove selector => exact versioned.remove selector
  | disable selector =>
      exact ⟨versioned.sorted, versioned.versions, versioned.positive, versioned.low⟩
  | enable selector =>
      exact ⟨versioned.sorted, versioned.versions, versioned.positive, versioned.low⟩
  | add now key address source =>
      rw [Store.edit]
      cases ended : s.add now key address source with
      | error error => exact versioned.mono (Nat.le_succ n)
      | ok done => exact versioned.add ended

theorem Versioned.editAll (versioned : s.Versioned n) (edits : List Edit) :
    (s.editAll edits).Versioned (n + edits.countP Edit.isAdd) := by
  induction edits generalizing s n with
  | nil => exact versioned
  | cons e rest inductionHypothesis =>
      rw [List.countP_cons]
      have done := inductionHypothesis (versioned.edit e)
      rwa [Nat.add_assoc, Nat.add_comm (ite _ _ _)] at done

/-- Where fewer versions are in use than there are, there is one for the next entry. -/
theorem Versioned.room (versioned : s.Versioned n) (few : n + 1 < UInt64.size) :
    s.highest.toNat + 1 < UInt64.size := by
  have bounded := highest_le versioned.low
  omega

/-! ## Additions -/

section Add

variable {now : Instant} {key : Candidate.Key} {address : Address} {source : Option Address}
variable {added : StoredGateway} {after : Store}

/-- An addition that succeeds answers with the new entry. -/
theorem added_eq_entry (ended : s.add now key address source = .ok (added, after)) :
    added = s.entry now key address source :=
  (add_eq_ok_iff.1 ended).2.2.1

/-- What an addition answers with, and what it leaves. -/
structure Added
    (s : Store) (now : Instant) (key : Candidate.Key) (address : Address)
    (source : Option Address) (added : StoredGateway) (after : Store) : Prop where
  asGiven :
    added = ⟨key.family, key.interface, key.protocol, address, source, added.version, now⟩
  newest : ∀ g ∈ s.gateways, g.version < added.version
  member : added ∈ after.gateways
  alone : ∀ g ∈ after.gateways, g.key = key → g = added
  others : after.gateways.filter (·.key ≠ key) = s.gateways.filter (·.key ≠ key)
  disabled : after.disabled = s.disabled

theorem Versioned.added_of_add
    (versioned : s.Versioned n) (ended : s.add now key address source = .ok (added, after)) :
    s.Added now key address source added after := by
  have perm := gateways_of_add ended
  have isEntry := added_eq_entry ended
  have others_of_entry :
      (s.entry now key address source :: s.gateways.filter (·.key ≠ key)).filter (·.key ≠ key) =
        s.gateways.filter (·.key ≠ key) := by
    rw [List.filter_cons_of_neg (by simp [entry, StoredGateway.key]), List.filter_filter]
    simp only [Bool.and_self]
  exact {
    asGiven := by
      rw [isEntry]
      rfl
    newest := fun g member => by
      rw [isEntry]
      exact version_lt_next (room_of_add ended) member
    member := by
      rw [perm.mem_iff, isEntry]
      exact List.mem_cons_self
    alone := fun g member ours => by
      rcases List.mem_cons.1 (perm.mem_iff.1 member) with same | other
      · rw [same, isEntry]
      · exact absurd ours (of_decide_eq_true (List.mem_filter.1 other).2)
    -- Both lists have the same members in the strict order of their keys.
    others := by
      have samePerm := perm.filter (·.key ≠ key)
      rw [others_of_entry] at samePerm
      refine samePerm.eq_of_pairwise (fun g h _ _ before behind => ?_)
        ((versioned.add ended).sorted.sublist List.filter_sublist)
        (versioned.sorted.sublist List.filter_sublist)
      have swapped : compare h.key g.key = (compare g.key h.key).swap := Std.OrientedCmp.eq_swap
      rw [swapped, before] at behind
      cases behind
    disabled := by rw [after_of_add ended] }

end Add

theorem count_add_length_remove (s : Store) (selector : Selector) :
    s.count selector + (s.remove selector).gateways.length = s.gateways.length :=
  (List.length_eq_length_filter_add fun g : StoredGateway => selector.matchesKey g.key).symm

theorem mem_remove_iff {selector : Selector} {g : StoredGateway} :
    g ∈ (s.remove selector).gateways ↔ g ∈ s.gateways ∧ ¬selector.matchesKey g.key = true := by
  rw [remove, List.mem_filter, Bool.not_eq_true', Bool.not_eq_true]

/-- Whatever edits are made of an empty store, with fewer additions than there are versions less
one: its gateways stand in the strict order of their keys, and their versions are all different and
not zero. A gateway with a fault is refused, and leaves the store as it is; any other is put in as
`Added` says. A removal takes away what its selector matches and nothing else, and counts it. -/
theorem versioned_map_of_edits
    (edits : List Edit) (few : edits.countP Edit.isAdd < UInt64.size - 1) :
    let s := ({} : Store).editAll edits
    (s.gateways.Pairwise fun g h => compare g.key h.key = .lt) ∧
    (s.gateways.map StoredGateway.key).Nodup ∧
    (s.gateways.map StoredGateway.version).Nodup ∧
    (∀ g ∈ s.gateways, 1 ≤ g.version) ∧
    (∀ now key address source,
      (∃ fault, addFault? key address source = some fault ∧
        s.add now key address source = .error fault.toError ∧
        s.edit (.add now key address source) = s) ∨
      ∃ added after, addFault? key address source = none ∧
        s.add now key address source = .ok (added, after) ∧
        s.edit (.add now key address source) = after ∧
        s.Added now key address source added after) ∧
    ∀ selector : Selector,
      (∀ g, g ∈ (s.remove selector).gateways ↔
        g ∈ s.gateways ∧
          ¬((∀ family ∈ selector.family, family = g.family) ∧
            (∀ link ∈ selector.link, link = g.link) ∧
            ∀ protocol ∈ selector.protocol, protocol = g.protocol)) ∧
      s.count selector + (s.remove selector).gateways.length = s.gateways.length ∧
      (s.remove selector).disabled = s.disabled := by
  intro s
  have versioned : s.Versioned (0 + edits.countP Edit.isAdd) :=
    versioned_empty.editAll edits
  refine ⟨versioned.sorted, versioned.keys, versioned.versions, versioned.positive, ?_, ?_⟩
  · intro now key address source
    cases found : addFault? key address source with
    | some fault =>
        have refused := s.add_of_fault now found
        exact .inl ⟨fault, rfl, refused, by rw [edit, refused]⟩
    | none =>
        have ended := s.add_of_room now found (versioned.room (by omega))
        exact .inr ⟨_, _, rfl, ended, by rw [edit, ended], versioned.added_of_add ended⟩
  · intro selector
    refine ⟨fun g => ?_, s.count_add_length_remove selector, rfl⟩
    rw [mem_remove_iff, Selector.matchesKey_iff]
    rfl

/-- Two gateways, one of them replaced, with a refusal and a removal of neither in between. -/
def rewiring : List Edit := [
  .add default ⟨.dhcp, "wlan0", .inet⟩ (.v4 0x0a010001#32) none,
  .add default ⟨.dhcp, "eth0", .inet⟩ (.v4 0x0a000001#32) none,
  .add default ⟨.dhcp, "", .inet⟩ (.v4 0x0a000001#32) none,
  .disable { link := some "wlan0" },
  .remove { family := some .inet6 },
  .add default ⟨.dhcp, "wlan0", .inet⟩ (.v4 0x0a010002#32) (some (.v4 0x0a010009#32))]

theorem versioned_map_of_edits_rewiring :
    (({} : Store).editAll rewiring).gateways.map (fun g => (g.link, g.address, g.version)) =
        [("eth0", .v4 0x0a000001#32, 2), ("wlan0", .v4 0x0a010002#32, 3)] ∧
      ∃ added after,
        (({} : Store).editAll rewiring).add default ⟨.dhcp, "eth0", .inet⟩ (.v4 0x0a000002#32)
            none = .ok (added, after) ∧
          (({} : Store).editAll rewiring).Added default ⟨.dhcp, "eth0", .inet⟩
            (.v4 0x0a000002#32) none added after := by
  have evaluated :
      (({} : Store).editAll rewiring).gateways.map (fun g => (g.link, g.address, g.version)) =
        [("eth0", .v4 0x0a000001#32, 2), ("wlan0", .v4 0x0a010002#32, 3)] := by
    simp only [editAll, rewiring, List.foldl_cons, List.foldl_nil, edit, add,
      sortGateways_eq_insertionSort]
    decide +kernel
  refine ⟨evaluated, ?_⟩
  obtain ⟨-, -, -, -, additions, -⟩ := versioned_map_of_edits rewiring (by decide)
  rcases additions default ⟨.dhcp, "eth0", .inet⟩ (.v4 0x0a000002#32) none with refused | accepted
  · obtain ⟨fault, faulty, -⟩ := refused
    cases faulty
  · obtain ⟨added, after, -, ended, -, put⟩ := accepted
    exact ⟨added, after, ended, put⟩

/-! ## Additions to any store -/

/-- What becomes of the addition of a gateway without a fault to any store, whatever versions it
holds and however often. If and only if the highest of all versions is not taken, the addition
succeeds: the new gateway takes the place of whatever stood under its key, the others stay, and the
answer is its entry, under a version above all in the store. If and only if it is taken, the sum
for the next version overflows. -/
theorem newest_iff_of_add
    (s : Store) (now : Instant) {key : Candidate.Key} {address : Address}
    {source : Option Address} (sound : addFault? key address source = none) :
    ((∀ g ∈ s.gateways, g.version.toNat + 1 < UInt64.size) ↔
      ∃ added after,
        s.add now key address source = .ok (added, after) ∧
          added = ⟨key.family, key.interface, key.protocol, address, source, added.version, now⟩ ∧
          (∀ g ∈ s.gateways, g.version < added.version) ∧
          after.gateways.Perm (added :: s.gateways.filter (·.key ≠ key)) ∧
          after.disabled = s.disabled) ∧
    ((∃ g ∈ s.gateways, g.version.toNat + 1 = UInt64.size) ↔
      s.add now key address source = .error .overflow) := by
  rw [← room_iff, ← no_room_iff]
  by_cases room : s.highest.toNat + 1 < UInt64.size
  · have ended := s.add_of_room now sound room
    refine ⟨iff_of_true room ?_, ?_⟩
    · exact ⟨_, _, ended, rfl, fun g member => version_lt_next room member, gatewaysWith_perm, rfl⟩
    · rw [ended]
      simp [room]
  · have failed := s.add_of_no_room now sound room
    refine ⟨iff_of_false room ?_, iff_of_true room failed⟩
    rintro ⟨added, after, ended, -⟩
    rw [failed] at ended
    cases ended

/-- One key and one version occur twice. -/
def repetitive : Store where
  gateways := [
    ⟨.inet, "eth0", .dhcp, .v4 0x0a000001#32, none, 7, default⟩,
    ⟨.inet, "eth0", .dhcp, .v4 0x0a000002#32, none, 7, default⟩,
    ⟨.inet, "wlan0", .dhcp, .v4 0x0a010001#32, none, 3, default⟩]

theorem newest_iff_of_add_repetitive :
    ∃ version after,
      repetitive.add default ⟨.dhcp, "eth0", .inet⟩ (.v4 0x0a000003#32) none =
          .ok (⟨.inet, "eth0", .dhcp, .v4 0x0a000003#32, none, version, default⟩, after) ∧
        7 < version ∧
        after.gateways.length = 2 := by
  have sound : addFault? ⟨.dhcp, "eth0", .inet⟩ (.v4 0x0a000003#32) none = none := by
    decide +kernel
  have free : ∀ g ∈ repetitive.gateways, g.version.toNat + 1 < UInt64.size := by decide +kernel
  obtain ⟨succeeds_iff, -⟩ := newest_iff_of_add repetitive default sound
  obtain ⟨added, after, ended, asGiven, newest, perm, -⟩ := succeeds_iff.1 free
  rw [asGiven] at ended
  exact ⟨added.version, after, ended, newest _ List.mem_cons_self, perm.length_eq⟩

/-- The highest of all versions is taken. -/
def exhausted : Store where
  gateways := [
    ⟨.inet, "eth0", .dhcp, .v4 0x0a000001#32, none, 0, default⟩,
    ⟨.inet, "wlan0", .dhcp, .v4 0x0a010001#32, none, 0xffffffffffffffff, default⟩]

/-- To a store that is loaded from a file, a gateway without a fault may fail to be added, even in
place of the newest. -/
theorem overflow_of_add_exhausted :
    (∃ h, (load "/run/state.json").runFrom h = (.ok exhausted, h)) ∧
      addFault? ⟨.dhcp, "wlan0", .inet⟩ (.v4 0x0a010002#32) none = none ∧
      exhausted.add default ⟨.dhcp, "wlan0", .inet⟩ (.v4 0x0a010002#32) none =
        .error .overflow := by
  have saved : ((save "/run/state.json" exhausted).runFrom shelf).1 = .ok () := by decide +kernel
  have sound : addFault? ⟨.dhcp, "wlan0", .inet⟩ (.v4 0x0a010002#32) none = none := by
    decide +kernel
  have full : ¬exhausted.highest.toNat + 1 < UInt64.size := by decide +kernel
  exact ⟨⟨_, load_of_save (Step.runFrom_eq_of_ok saved)⟩, sound,
    exhausted.add_of_no_room default sound full⟩

end Store

end DefaultGateway
