import DefaultGateway.Family
import DefaultGateway.Proofs.KeyedSet

/-!
# Maps whose rows carry a key of their own

In a map a value stands under a key that need not be its own, and a set that has become empty may be
left standing. A map lists a keyed set if it has its rows under their own keys, and stocks a value
for each family if it has those that are not empty, and no others. Under these conditions two maps
are equal exactly if what they stand for is.
-/

namespace DefaultGateway

universe u v

/-- Rows of a key and a value. -/
abbrev Mapping (κ : Type v) (α : Type u) [Ord κ] := KeyedSet (Prod.fst : κ × α → κ)

namespace Mapping

section Definitions

variable {κ : Type v} {α : Type u} [Ord κ]

def get? (t : Mapping κ α) (k : κ) : Option α := (t.find? k).map Prod.snd

def put [Std.TransOrd κ] (t : Mapping κ α) (k : κ) (a : α) : Mapping κ α := t.insert (k, a)

def remove (t : Mapping κ α) (k : κ) : Mapping κ α := t.erase k

def mapValues (t : Mapping κ α) (f : α → α) : Mapping κ α where
  rows := t.rows.map fun row => (row.1, f row.2)
  ordered := List.pairwise_map.2 t.ordered

def retain (t : Mapping κ α) (keep : α → Bool) : Mapping κ α := t.filter fun row => keep row.2

end Definitions

/-! ## Look-ups -/

section LookUps

variable {κ : Type v} {α : Type u} [Ord κ] [Std.TransOrd κ] [Std.LawfulEqOrd κ]
  {t u : Mapping κ α} {k : κ} {a : α}

theorem mem_iff_get? : (k, a) ∈ t ↔ t.get? k = some a := by
  rw [get?, Option.map_eq_some_iff]
  constructor
  · intro member
    exact ⟨(k, a), KeyedSet.find?_key_of_mem member, rfl⟩
  · rintro ⟨⟨j, b⟩, found, rfl⟩
    obtain ⟨member, rfl⟩ := KeyedSet.find?_eq_some_iff_key_eq.1 found
    exact member

theorem ext_get? (same : ∀ k, t.get? k = u.get? k) : t = u := by
  apply KeyedSet.ext
  rintro ⟨k, a⟩
  rw [mem_iff_get?, mem_iff_get?, same k]

theorem get?_mapValues (t : Mapping κ α) (f : α → α) (k : κ) :
    (t.mapValues f).get? k = (t.get? k).map f := by
  apply Option.ext
  intro b
  rw [← mem_iff_get?, Option.map_eq_some_iff]
  simp only [mapValues, KeyedSet.mem_rows, List.mem_map, Prod.exists, Prod.mk.injEq]
  constructor
  · rintro ⟨j, a, member, rfl, rfl⟩
    exact ⟨a, mem_iff_get?.1 member, rfl⟩
  · rintro ⟨a, found, rfl⟩
    exact ⟨k, a, mem_iff_get?.2 found, rfl, rfl⟩

theorem get?_retain (t : Mapping κ α) (keep : α → Bool) (k : κ) :
    (t.retain keep).get? k = (t.get? k).filter keep := by
  apply Option.ext
  intro a
  rw [← mem_iff_get?, retain, KeyedSet.mem_filter, mem_iff_get?, Option.filter_eq_some_iff]

variable [DecidableEq κ]

theorem get?_put (t : Mapping κ α) (j : κ) (a : α) (k : κ) :
    (t.put j a).get? k = if j = k then some a else t.get? k := by
  rw [get?, put, KeyedSet.find?_insert]
  split
  · rfl
  · rfl

theorem get?_remove (t : Mapping κ α) (j k : κ) :
    (t.remove j).get? k = if j = k then none else t.get? k := by
  rw [get?, remove, KeyedSet.find?_erase]
  split
  · rfl
  · rfl

end LookUps

/-! ## Rows under their own keys -/

section Lists

variable {κ : Type v} {α : Type u} [Ord κ] [Std.TransOrd κ] [Std.LawfulEqOrd κ] {key : α → κ}
  {t u : Mapping κ α} {s r : KeyedSet key} {k : κ} {a : α}

/-- Under each key stands what the keyed set has under it. -/
def Lists (t : Mapping κ α) (s : KeyedSet key) : Prop := ∀ k, t.get? k = s.find? k

omit [Std.TransOrd κ] [Std.LawfulEqOrd κ] in
theorem Lists.empty : Lists (∅ : Mapping κ α) (∅ : KeyedSet key) := fun _ => rfl

theorem Lists.key_eq (lists : t.Lists s) (member : (k, a) ∈ t) : key a = k := by
  have found := lists k
  rw [mem_iff_get?.1 member] at found
  exact (KeyedSet.find?_eq_some_iff_key_eq.1 found.symm).2

theorem Lists.eq_iff (lists : t.Lists s) (other : u.Lists r) : t = u ↔ s = r := by
  constructor
  · rintro rfl
    exact KeyedSet.ext_find? fun k => (lists k).symm.trans (other k)
  · rintro rfl
    exact ext_get? fun k => (lists k).trans (other k).symm

variable [DecidableEq κ]

theorem Lists.put (lists : t.Lists s) (a : α) : (t.put (key a) a).Lists (s.insert a) := by
  intro k
  rw [get?_put, KeyedSet.find?_insert, lists k]

theorem Lists.remove (lists : t.Lists s) (k : κ) : (t.remove k).Lists (s.erase k) := by
  intro j
  rw [get?_remove, KeyedSet.find?_erase, lists j]

end Lists

/-! ## Sets that are not empty -/

section Stocks

variable {α : Type} [Ord α] {t u : Mapping Family (SortedSet α)}
  {values others : PerFamily (SortedSet α)} {family : Family} {s : SortedSet α}

/-- A set, unless it is empty. -/
def stocked (s : SortedSet α) : Option (SortedSet α) := if s.isEmpty then none else some s

/-- Each family has its set, unless that is empty. -/
def Stocks (t : Mapping Family (SortedSet α)) (values : PerFamily (SortedSet α)) : Prop :=
  ∀ family, t.get? family = stocked (values.get family)

theorem getD_stocked (s : SortedSet α) : (stocked s).getD ∅ = s := by
  rw [stocked]
  split
  · rename_i nothing
    exact (KeyedSet.eq_empty_of_isEmpty nothing).symm
  · rfl

theorem stocked_of_mem {a : α} (member : a ∈ s) : stocked s = some s := by
  rw [stocked, if_neg]
  intro nothing
  rw [KeyedSet.eq_empty_of_isEmpty nothing] at member
  exact KeyedSet.not_mem_empty a member

theorem Stocks.empty : Stocks (∅ : Mapping Family (SortedSet α)) (.both ∅) := by
  intro family
  rw [PerFamily.get_both]
  rfl

theorem Stocks.getD (stocks : t.Stocks values) (family : Family) :
    (t.get? family).getD ∅ = values.get family := by
  rw [stocks family, getD_stocked]

theorem Stocks.ne_empty (stocks : t.Stocks values) (member : (family, s) ∈ t) : s ≠ ∅ := by
  rintro rfl
  have found := stocks family
  rw [mem_iff_get?.1 member, stocked] at found
  split at found
  · cases found
  · rename_i something
    exact something (by rw [← Option.some.inj found]; rfl)

theorem Stocks.eq_iff (stocks : t.Stocks values) (other : u.Stocks others) :
    t = u ↔ values = others := by
  constructor
  · rintro rfl
    exact PerFamily.ext_get fun family => (stocks.getD family).symm.trans (other.getD family)
  · rintro rfl
    exact ext_get? fun family => (stocks family).trans (other family).symm

/-- What comes to stand under a family. -/
theorem Stocks.set (stocks : t.Stocks values)
    (found : ∀ other, u.get? other = if family = other then stocked s else t.get? other) :
    u.Stocks (values.set family s) := by
  intro other
  rw [found other]
  by_cases same : family = other
  · subst same
    rw [if_pos rfl, PerFamily.get_set_self]
  · rw [if_neg same, PerFamily.get_set_of_ne _ (Ne.symm same)]
    exact stocks other

/-- What a test leaves of each set; the sets of which it leaves nothing are dropped. -/
theorem Stocks.filter (stocks : t.Stocks values) (keep : α → Bool) :
    ((t.mapValues (·.filter keep)).retain (!·.isEmpty)).Stocks
      (values.map (·.filter keep)) := by
  intro family
  rw [get?_retain, get?_mapValues, stocks family, PerFamily.get_map]
  cases nothing : (values.get family).isEmpty with
  | true =>
      rw [KeyedSet.eq_empty_of_isEmpty nothing]
      rfl
  | false =>
      simp only [stocked, nothing, Bool.false_eq_true, if_false, Option.map_some,
        Option.filter_some]
      cases ((values.get family).filter keep).isEmpty <;> rfl

end Stocks

end Mapping

end DefaultGateway
