import DefaultGateway.Order

/-!
Finite sets of rows kept in the order of their keys, at most one row a key. A map is such a set
whose rows carry their key; a plain set is one whose rows are their own keys.

Main statements: `mem_insert` and `mem_erase` say which rows an operation leaves.
-/

namespace DefaultGateway

universe u v

/-- Rows in strictly increasing order of `key`. -/
structure KeyedSet {α : Type u} {κ : Type v} [Ord κ] (key : α → κ) where
  rows : List α
  ordered : rows.Pairwise fun a b => compare (key a) (key b) = .lt

/-- A set of values ordered by their own comparison. -/
abbrev SortedSet (α : Type u) [Ord α] := KeyedSet (id : α → α)

namespace KeyedSet

variable {α : Type u} {κ : Type v} [Ord κ] {key : α → κ}

def empty : KeyedSet key := ⟨[], .nil⟩

instance : EmptyCollection (KeyedSet key) := ⟨empty⟩

instance : Inhabited (KeyedSet key) := ⟨empty⟩

instance [DecidableEq α] : DecidableEq (KeyedSet key) := fun s t =>
  match decEq s.rows t.rows with
  | isTrue sameRows => isTrue (by cases s; cases t; simp_all)
  | isFalse otherRows => isFalse fun same => otherRows (congrArg rows same)

instance : Membership α (KeyedSet key) := ⟨fun s a => a ∈ s.rows⟩

theorem mem_rows {s : KeyedSet key} {a : α} : a ∈ s ↔ a ∈ s.rows := Iff.rfl

instance [DecidableEq α] (a : α) (s : KeyedSet key) : Decidable (a ∈ s) :=
  inferInstanceAs (Decidable (a ∈ s.rows))

def toList (s : KeyedSet key) : List α := s.rows

def isEmpty (s : KeyedSet key) : Bool := s.rows.isEmpty

def size (s : KeyedSet key) : Nat := s.rows.length

def find? (s : KeyedSet key) (k : κ) : Option α :=
  s.rows.find? fun a => compare (key a) k == .eq

def containsKey (s : KeyedSet key) (k : κ) : Bool := (s.find? k).isSome

/-- Puts a row in its place; a row under the same key gives way. -/
def insertRow (key : α → κ) (a : α) : List α → List α
  | [] => [a]
  | b :: rest =>
    match compare (key a) (key b) with
    | .lt => a :: b :: rest
    | .eq => a :: rest
    | .gt => b :: insertRow key a rest

theorem mem_of_mem_insertRow {a c : α} {l : List α} (inserted : c ∈ insertRow key a l) :
    c = a ∨ c ∈ l := by
  induction l with
  | nil => simpa [insertRow] using inserted
  | cons b rest inductionHypothesis =>
    simp only [insertRow] at inserted
    split at inserted
    · simpa using inserted
    · rcases List.mem_cons.1 inserted with same | later
      · exact .inl same
      · exact .inr (List.mem_cons_of_mem _ later)
    · rcases List.mem_cons.1 inserted with same | later
      · exact .inr (same ▸ List.mem_cons_self)
      · exact (inductionHypothesis later).imp_right (List.mem_cons_of_mem _)

theorem ordered_insertRow [Std.TransOrd κ] (a : α) {l : List α}
    (ordered : l.Pairwise fun b c => compare (key b) (key c) = .lt) :
    (insertRow key a l).Pairwise fun b c => compare (key b) (key c) = .lt := by
  induction l with
  | nil => simp [insertRow]
  | cons b rest inductionHypothesis =>
    have ⟨belowRest, orderedRest⟩ := List.pairwise_cons.1 ordered
    simp only [insertRow]
    split
    · rename_i below
      refine List.pairwise_cons.2 ⟨fun c member => ?_, ordered⟩
      rcases List.mem_cons.1 member with same | later
      · exact same ▸ below
      · exact Std.TransCmp.lt_trans below (belowRest c later)
    · rename_i tie
      exact List.pairwise_cons.2
        ⟨fun c later => Std.TransCmp.lt_of_eq_of_lt tie (belowRest c later), orderedRest⟩
    · rename_i above
      refine List.pairwise_cons.2 ⟨fun c member => ?_, inductionHypothesis orderedRest⟩
      rcases mem_of_mem_insertRow member with same | later
      · exact same ▸ Std.OrientedCmp.lt_of_gt above
      · exact belowRest c later

/-- Adds a row, in place of the one under the same key if there is one. -/
def insert [Std.TransOrd κ] (s : KeyedSet key) (a : α) : KeyedSet key :=
  ⟨insertRow key a s.rows, ordered_insertRow a s.ordered⟩

def filter (s : KeyedSet key) (keep : α → Bool) : KeyedSet key :=
  ⟨s.rows.filter keep, s.ordered.filter keep⟩

def erase (s : KeyedSet key) (k : κ) : KeyedSet key :=
  s.filter fun a => compare (key a) k != .eq

/-- Adds the rows of a list one by one, so that of two rows under a key the later stays. -/
def insertAll [Std.TransOrd κ] (s : KeyedSet key) (l : List α) : KeyedSet key :=
  l.foldl insert s

def ofList [Std.TransOrd κ] (l : List α) : KeyedSet key := insertAll ∅ l

def keys (s : KeyedSet key) : List κ := s.rows.map key

def any (s : KeyedSet key) (test : α → Bool) : Bool := s.rows.any test

@[simp] theorem not_mem_empty (a : α) : a ∉ (∅ : KeyedSet key) := List.not_mem_nil

@[simp] theorem mem_filter {s : KeyedSet key} {keep : α → Bool} {a : α} :
    a ∈ s.filter keep ↔ a ∈ s ∧ keep a = true := List.mem_filter

theorem mem_toList {s : KeyedSet key} {a : α} : a ∈ s.toList ↔ a ∈ s := Iff.rfl

theorem mem_insertRow [Std.TransOrd κ] {a c : α} {l : List α}
    (ordered : l.Pairwise fun b c => compare (key b) (key c) = .lt) :
    c ∈ insertRow key a l ↔ c = a ∨ (c ∈ l ∧ compare (key c) (key a) ≠ .eq) := by
  induction l with
  | nil => simp [insertRow]
  | cons b rest inductionHypothesis =>
    have ⟨belowRest, orderedRest⟩ := List.pairwise_cons.1 ordered
    have restApart (x : α) (later : x ∈ rest) (near : compare (key a) (key b) ≠ .gt) :
        compare (key x) (key a) ≠ .eq := by
      intro tie
      have above : compare (key a) (key x) = .lt := by
        cases nearBy : compare (key a) (key b) with
        | lt => exact Std.TransCmp.lt_trans nearBy (belowRest x later)
        | eq => exact Std.TransCmp.lt_of_eq_of_lt nearBy (belowRest x later)
        | gt => exact absurd nearBy near
      rw [Std.OrientedCmp.eq_comm.1 tie] at above
      cases above
    simp only [insertRow]
    split
    · rename_i below
      have apart : compare (key b) (key a) ≠ .eq := by
        intro tie
        rw [Std.OrientedCmp.eq_comm.1 tie] at below
        cases below
      grind
    · rename_i tie
      have same : compare (key b) (key a) = .eq := Std.OrientedCmp.eq_comm.1 tie
      grind
    · rename_i above
      have apart : compare (key b) (key a) ≠ .eq := by
        intro tie
        rw [Std.OrientedCmp.eq_comm.1 tie] at above
        cases above
      have := inductionHypothesis orderedRest
      grind

/-- Insertion adds the new row and drops at most the one with its key. -/
theorem mem_insert [Std.TransOrd κ] {s : KeyedSet key} {a c : α} :
    c ∈ s.insert a ↔ c = a ∨ (c ∈ s ∧ compare (key c) (key a) ≠ .eq) :=
  mem_insertRow s.ordered

theorem mem_erase {s : KeyedSet key} {k : κ} {a : α} :
    a ∈ s.erase k ↔ a ∈ s ∧ compare (key a) k ≠ .eq := by
  simp [erase]

end KeyedSet

end DefaultGateway
