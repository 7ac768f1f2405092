import DefaultGateway.KeyedSet
import Mathlib.Data.List.Sort

/-!
# Look-ups and equality of keyed sets

The members determine a keyed set. From this follows what a change of one row leaves alone: the
rows that a test picks out, as long as the test refuses the row and all that share its key.
-/

namespace DefaultGateway.KeyedSet

universe u v

variable {α : Type u} {κ : Type v} [Ord κ] [Std.TransOrd κ] {key : α → κ}

theorem ext
    {s t : KeyedSet key} (same : ∀ a, a ∈ s ↔ a ∈ t) : s = t := by
  have irreflexive :
      Std.Irrefl fun a b : α => compare (key a) (key b) = .lt := by
    constructor
    intro a below
    have self : compare (key a) (key a) = .eq := Std.ReflCmp.compare_self
    rw [self] at below
    cases below
  have asymmetric :
      Std.Antisymm fun a b : α => compare (key a) (key b) = .lt := by
    constructor
    intro a b below above
    rw [Std.OrientedCmp.gt_of_lt below] at above
    cases above
  cases s with
  | mk rows ordered =>
      cases t with
      | mk otherRows otherOrdered =>
          congr
          exact List.Pairwise.eq_of_mem_iff ordered otherOrdered same

theorem eq_of_key_eq
    {s : KeyedSet key} {a b : α} (member : a ∈ s) (otherMember : b ∈ s)
    (tie : compare (key a) (key b) = .eq) : a = b := by
  have forward :
      s.rows.Pairwise fun a b => compare (key a) (key b) = .eq → a = b :=
    s.ordered.imp fun below tie => by
      rw [below] at tie
      cases tie
  have backward :
      s.rows.Pairwise fun a b => compare (key b) (key a) = .eq → b = a :=
    s.ordered.imp fun below tie => by
      rw [Std.OrientedCmp.gt_of_lt below] at tie
      cases tie
  exact
    List.Pairwise.forall_of_forall_of_flip (fun _ _ _ => rfl)
      forward backward member otherMember tie

theorem nodup_map_key (s : KeyedSet key) : (s.toList.map key).Nodup :=
  List.pairwise_map.2 <| s.ordered.imp fun {a b} below same => by
    have self : compare (key a) (key a) = .eq := Std.ReflCmp.compare_self
    rw [← same, self] at below
    cases below

theorem nodup_toList (s : KeyedSet key) : s.toList.Nodup := s.nodup_map_key.of_map

/-! ## Look-ups -/

theorem find?_eq_some_iff
    {s : KeyedSet key} {k : κ} {a : α} :
    s.find? k = some a ↔ a ∈ s ∧ compare (key a) k = .eq := by
  constructor
  · intro found
    exact ⟨List.mem_of_find?_eq_some found, by
      simpa using List.find?_some found⟩
  · rintro ⟨member, tie⟩
    cases found : s.find? k with
    | none =>
        have refused := List.find?_eq_none.1 found a member
        exact absurd tie (by simpa using refused)
    | some b =>
        have otherMember : b ∈ s := List.mem_of_find?_eq_some found
        have otherTie : compare (key b) k = .eq := by
          simpa using List.find?_some found
        have sameKey : compare (key b) (key a) = .eq :=
          Std.TransCmp.eq_trans otherTie (Std.OrientedCmp.eq_symm tie)
        rw [eq_of_key_eq otherMember member sameKey]

omit [Std.TransOrd κ] in
theorem find?_eq_none_iff
    {s : KeyedSet key} {k : κ} :
    s.find? k = none ↔ ∀ a ∈ s, compare (key a) k ≠ .eq := by
  simp [find?, List.find?_eq_none, mem_rows]

omit [Std.TransOrd κ] in
theorem containsKey_eq_false_iff
    {s : KeyedSet key} {k : κ} :
    s.containsKey k = false ↔ ∀ a ∈ s, compare (key a) k ≠ .eq := by
  rw [← find?_eq_none_iff, containsKey]
  simp

omit [Std.TransOrd κ] in
theorem find?_toList_eq_head?
    (s : KeyedSet key) (test : α → Bool) :
    s.toList.find? test = (s.filter test).rows.head? := by
  rw [filter, List.head?_filter, toList]

/-! ## Look-ups under a lawful order of keys -/

section Lawful

variable [Std.LawfulEqOrd κ]

theorem find?_eq_some_iff_key_eq
    {s : KeyedSet key} {k : κ} {a : α} :
    s.find? k = some a ↔ a ∈ s ∧ key a = k := by
  rw [find?_eq_some_iff, Std.compare_eq_iff_eq]

theorem find?_key_of_mem
    {s : KeyedSet key} {a : α} (member : a ∈ s) : s.find? (key a) = some a :=
  find?_eq_some_iff_key_eq.2 ⟨member, rfl⟩

theorem ext_find?
    {s t : KeyedSet key} (same : ∀ k, s.find? k = t.find? k) : s = t := by
  apply ext
  intro a
  have found := same (key a)
  constructor
  · intro member
    rw [find?_key_of_mem member] at found
    exact (find?_eq_some_iff.1 found.symm).1
  · intro member
    rw [find?_key_of_mem member] at found
    exact (find?_eq_some_iff.1 found).1

/-- A test of keys alone keeps the row under a key or drops it. -/
theorem find?_filter_key (s : KeyedSet key) (test : κ → Bool) (k : κ) :
    (s.filter fun row => test (key row)).find? k = if test k then s.find? k else none := by
  apply Option.ext
  intro a
  rw [find?_eq_some_iff_key_eq, mem_filter]
  cases passes : test k with
  | true =>
      simp only [if_true]
      rw [find?_eq_some_iff_key_eq]
      grind
  | false => grind

theorem containsKey_iff {s : KeyedSet key} {k : κ} :
    s.containsKey k = true ↔ ∃ a ∈ s, key a = k := by
  rw [containsKey, Option.isSome_iff_exists]
  simp only [find?_eq_some_iff_key_eq]

/-- Where a map of rows that keeps their keys makes one set's look-ups into another's, it makes its
rows into the other's. -/
theorem toList_eq_map
    {s t : KeyedSet key} {f : α → α} (keeps : ∀ a, key (f a) = key a)
    (found : ∀ k, t.find? k = (s.find? k).map f) : t.toList = s.toList.map f := by
  have ordered : (s.rows.map f).Pairwise fun a b => compare (key a) (key b) = .lt := by
    rw [List.pairwise_map]
    simpa only [keeps] using s.ordered
  have same : t = ⟨s.rows.map f, ordered⟩ := by
    apply ext
    intro b
    rw [mem_rows, mem_rows, List.mem_map]
    constructor
    · intro member
      have listed := found (key b)
      rw [find?_key_of_mem member] at listed
      obtain ⟨a, known, made⟩ := Option.map_eq_some_iff.1 listed.symm
      exact ⟨a, (find?_eq_some_iff_key_eq.1 known).1, made⟩
    · rintro ⟨a, member, rfl⟩
      have listed := found (key a)
      rw [find?_key_of_mem member] at listed
      exact (find?_eq_some_iff_key_eq.1 listed).1
  rw [same]
  rfl

variable [DecidableEq κ]

theorem find?_insert (s : KeyedSet key) (a : α) (k : κ) :
    (s.insert a).find? k = if key a = k then some a else s.find? k := by
  apply Option.ext
  intro b
  rw [find?_eq_some_iff_key_eq, mem_insert]
  by_cases same : key a = k
  · subst same
    simp only [if_true, Option.some.injEq]
    constructor
    · rintro ⟨rfl | ⟨_, apart⟩, sameKey⟩
      · rfl
      · exact absurd (Std.compare_eq_iff_eq.2 sameKey) apart
    · rintro rfl
      exact ⟨.inl rfl, rfl⟩
  · rw [if_neg same, find?_eq_some_iff_key_eq]
    constructor
    · rintro ⟨rfl | ⟨member, _⟩, sameKey⟩
      · exact absurd sameKey same
      · exact ⟨member, sameKey⟩
    · rintro ⟨member, rfl⟩
      refine ⟨.inr ⟨member, fun tie => same ?_⟩, rfl⟩
      exact (Std.compare_eq_iff_eq.1 tie).symm

theorem find?_erase (s : KeyedSet key) (k j : κ) :
    (s.erase k).find? j = if k = j then none else s.find? j := by
  apply Option.ext
  intro b
  rw [find?_eq_some_iff_key_eq, mem_erase, Ne, Std.compare_eq_iff_eq]
  by_cases same : k = j
  · subst same
    simp +contextual
  · rw [if_neg same, find?_eq_some_iff_key_eq]
    constructor
    · rintro ⟨⟨member, _⟩, sameKey⟩
      exact ⟨member, sameKey⟩
    · rintro ⟨member, rfl⟩
      exact ⟨⟨member, fun sameKey => same sameKey.symm⟩, rfl⟩

/-- Of several rows put in under one key the last is found. -/
theorem find?_insertAll (s : KeyedSet key) (l : List α) (k : κ) :
    (s.insertAll l).find? k = (l.reverse.find? (key · == k)).or (s.find? k) := by
  induction l generalizing s with
  | nil => simp [insertAll]
  | cons first rest inductionHypothesis =>
      have next := inductionHypothesis (s.insert first)
      simp only [insertAll, List.foldl_cons] at next ⊢
      rw [next, find?_insert, List.reverse_cons, List.find?_append, Option.or_assoc]
      congr 1
      by_cases same : key first = k
      · simp [same]
      · simp [same]

theorem find?_ofList (l : List α) (k : κ) :
    (ofList l : KeyedSet key).find? k = l.reverse.find? (key · == k) := by
  rw [ofList, find?_insertAll]
  exact Option.or_none

end Lawful

/-! ## What a change leaves alone -/

theorem insert_of_mem
    {s : KeyedSet key} {a : α} (member : a ∈ s) : s.insert a = s := by
  apply ext
  intro b
  rw [mem_insert]
  constructor
  · rintro (rfl | ⟨kept, _⟩)
    · exact member
    · exact kept
  · intro kept
    by_cases tie : compare (key b) (key a) = .eq
    · exact .inl (eq_of_key_eq kept member tie)
    · exact .inr ⟨kept, tie⟩

omit [Std.TransOrd κ] in
theorem filter_eq_self {s : KeyedSet key} {keep : α → Bool} (all : ∀ a ∈ s, keep a = true) :
    s.filter keep = s := by
  cases s with
  | mk rows ordered =>
      simp only [filter, mk.injEq, List.filter_eq_self]
      exact all

omit [Std.TransOrd κ] in
theorem filter_eq_self_of_size_eq
    {s : KeyedSet key} {keep : α → Bool} (same : (s.filter keep).size = s.size) :
    s.filter keep = s :=
  filter_eq_self <| List.length_filter_eq_length_iff.1 same

omit [Std.TransOrd κ] in
theorem eq_empty_of_isEmpty {s : KeyedSet key} (nothing : s.isEmpty = true) : s = ∅ := by
  cases s with
  | mk rows ordered =>
      have noRows : rows = [] := List.isEmpty_iff.1 nothing
      subst noRows
      rfl

omit [Std.TransOrd κ] in
theorem erase_of_find?_eq_none
    {s : KeyedSet key} {k : κ} (absent : s.find? k = none) : s.erase k = s :=
  filter_eq_self fun a member => by simpa using find?_eq_none_iff.1 absent a member

/-- Dropping the row under a key before a row of that key is put in makes no difference. -/
theorem insert_erase_key (s : KeyedSet key) (a : α) :
    (s.erase (key a)).insert a = s.insert a := by
  apply ext
  intro b
  simp only [mem_insert, mem_erase]
  constructor
  · rintro (same | ⟨⟨member, apart⟩, _⟩)
    · exact .inl same
    · exact .inr ⟨member, apart⟩
  · rintro (same | ⟨member, apart⟩)
    · exact .inl same
    · exact .inr ⟨⟨member, apart⟩, apart⟩

/-- Of two rows put in under one key the later stays. -/
theorem insert_insert_key
    (s : KeyedSet key) {a b : α} (same : key a = key b) : (s.insert a).insert b = s.insert b := by
  have tie : compare (key a) (key b) = .eq := by
    rw [same]
    exact Std.ReflCmp.compare_self
  apply ext
  intro c
  simp only [mem_insert]
  constructor
  · rintro (rfl | ⟨rfl | ⟨member, _⟩, apart⟩)
    · exact .inl rfl
    · exact absurd tie apart
    · exact .inr ⟨member, apart⟩
  · rintro (rfl | ⟨member, apart⟩)
    · exact .inl rfl
    · exact .inr ⟨.inr ⟨member, same ▸ apart⟩, apart⟩

/-- A test that refuses the new row, and the row in whose place it comes, does not see an
insertion. -/
theorem filter_insert_of_refused
    {s : KeyedSet key} {a : α} {keep : α → Bool} (refused : keep a = false)
    (refusedBefore :
      ∀ b ∈ s, compare (key b) (key a) = .eq → keep b = false) :
    (s.insert a).filter keep = s.filter keep := by
  apply ext
  intro b
  simp only [mem_filter, mem_insert]
  constructor
  · rintro ⟨rfl | ⟨member, _⟩, kept⟩
    · rw [refused] at kept
      cases kept
    · exact ⟨member, kept⟩
  · rintro ⟨member, kept⟩
    refine ⟨.inr ⟨member, fun tie => ?_⟩, kept⟩
    rw [refusedBefore b member tie] at kept
    cases kept

/-- A test that refuses the rows under a key does not see that they are dropped. -/
theorem filter_erase_of_refused
    {s : KeyedSet key} {k : κ} {keep : α → Bool}
    (refused : ∀ b ∈ s, compare (key b) k = .eq → keep b = false) :
    (s.erase k).filter keep = s.filter keep := by
  apply ext
  intro b
  simp only [mem_filter, mem_erase]
  constructor
  · rintro ⟨⟨member, _⟩, kept⟩
    exact ⟨member, kept⟩
  · rintro ⟨member, kept⟩
    refine ⟨⟨member, fun tie => ?_⟩, kept⟩
    rw [refused b member tie] at kept
    cases kept

/-! ## Sets of values ordered by their own comparison -/

section Sorted

variable {β : Type u} [Ord β] [Std.TransOrd β] [Std.LawfulEqOrd β]

theorem mem_insert_sorted
    {s : SortedSet β} {a b : β} : b ∈ s.insert a ↔ b = a ∨ b ∈ s := by
  rw [mem_insert]
  by_cases same : b = a
  · simp [same]
  · simp [same]

omit [Std.TransOrd β] in
theorem mem_erase_sorted
    {s : SortedSet β} {a b : β} : b ∈ s.erase a ↔ b ∈ s ∧ b ≠ a := by
  rw [mem_erase]
  simp

omit [Std.TransOrd β] in
theorem erase_of_not_mem {s : SortedSet β} {a : β} (missing : a ∉ s) : s.erase a = s :=
  erase_of_find?_eq_none <| find?_eq_none_iff.2 fun _ member tie =>
    missing (Std.compare_eq_iff_eq.1 tie ▸ member)

theorem mem_ofList_sorted
    {l : List β} {a : β} : a ∈ (ofList l : SortedSet β) ↔ a ∈ l := by
  have accumulated (s : SortedSet β) : a ∈ s.insertAll l ↔ a ∈ s ∨ a ∈ l := by
    induction l generalizing s with
    | nil => simp [insertAll]
    | cons first rest inductionHypothesis =>
        have next := inductionHypothesis (s.insert first)
        simp only [insertAll, List.foldl_cons, List.mem_cons] at next ⊢
        rw [next, mem_insert_sorted]
        grind
  rw [ofList, accumulated]
  simp

end Sorted

end DefaultGateway.KeyedSet
