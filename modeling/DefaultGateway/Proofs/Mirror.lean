import DefaultGateway.Kernel
import DefaultGateway.Proofs.Facts

/-!
# The kernel's default routes and their image in the model

As long as the default routes of a family differ in their metrics, the kernel and the model treat
a granted request alike: a new route takes the place of the one with its metric, and a deletion
takes the one route that fits its description. No other route is touched.
-/

namespace DefaultGateway

namespace Route

/-- The default route of a family in a table, with a metric as the kernel records it. -/
structure Standard (table : UInt32) (family : Family) (r : Route) : Prop where
  destination : r.destination = .whole family
  table : r.table = table
  stored : r.stored = r

theorem Standard.family_eq
    {table : UInt32} {family : Family} {r : Route} (standard : r.Standard table family) :
    r.family = family := by
  simp [Route.family, standard.destination]

theorem Standard.isDefault
    {table : UInt32} {family : Family} {r : Route} (standard : r.Standard table family) :
    r.isDefault = true := by
  simp [Route.isDefault, standard.destination]

theorem storedMetric_storedMetric (family : Family) (metric : UInt32) :
    storedMetric family (storedMetric family metric) = storedMetric family metric := by
  cases family with
  | inet => rfl
  | inet6 =>
      by_cases zero : metric = 0
      · subst zero
        rfl
      · simp [storedMetric, zero]

theorem standard_defaultVia
    (family : Family) (gateway : Address) (oif : Option LinkIndex) (table metric : UInt32) :
    (defaultVia family gateway oif table metric).Standard table family where
  destination := rfl
  table := rfl
  stored := by
    simp only [stored, family_defaultVia]
    simp only [defaultVia, storedMetric_storedMetric]

end Route

namespace Kernel

variable {table : UInt32} {family : Family} {route : Route} {k after : Kernel}

/-- The default routes of a family in a table. -/
def managed (k : Kernel) (table : UInt32) (family : Family) : List Route :=
  k.routes.filter (·.isManaged table family)

/-- All the other routes. -/
def foreign (k : Kernel) (table : UInt32) (family : Family) : List Route :=
  k.routes.filter (!·.isManaged table family)

/-- The default routes of a family lead to the whole of it, have metrics as the kernel records
them, and no two the same one. -/
structure Orderly (k : Kernel) (table : UInt32) (family : Family) : Prop where
  canonical : ∀ r ∈ k.managed table family, r.destination = .whole family
  stored : ∀ r ∈ k.managed table family, r.stored = r
  distinct : ((k.managed table family).map Route.metric).Nodup

theorem Orderly.standard
    (orderly : k.Orderly table family) {r : Route} (member : r ∈ k.managed table family) :
    r.Standard table family where
  destination := orderly.canonical r member
  table := (Route.isManaged_iff.1 (List.mem_filter.1 member).2).2.2
  stored := orderly.stored r member

theorem Orderly.eq_of_metric_eq
    (orderly : k.Orderly table family) {r s : Route} (member : r ∈ k.managed table family)
    (otherMember : s ∈ k.managed table family) (same : r.metric = s.metric) : r = s :=
  List.inj_on_of_nodup_map orderly.distinct member otherMember same

/-! ## Places -/

/-- What claims the place of a default route is one, too. -/
theorem isManaged_of_sameSlot
    (standard : route.Standard table family) {r : Route} (slot : sameSlot route r = true) :
    r.isManaged table family = true := by
  simp only [sameSlot, Bool.and_eq_true, beq_iff_eq] at slot
  obtain ⟨⟨destination, sameTable⟩, _⟩ := slot
  rw [standard.destination] at destination
  refine Route.isManaged_iff.2 ⟨?_, ?_, sameTable.symm.trans standard.table⟩
  · simp [Route.isDefault, ← destination]
  · simp [Route.family, ← destination]

/-- Among the default routes of a family the place is the metric. -/
theorem sameSlot_iff_of_mem_managed
    (orderly : k.Orderly table family) (standard : route.Standard table family)
    {r : Route} (member : r ∈ k.managed table family) :
    sameSlot route r = true ↔ r.metric = route.metric := by
  have other := orderly.standard member
  rw [sameSlot, standard.destination, other.destination, standard.table, other.table]
  simp only [beq_self_eq_true, Bool.true_and, beq_iff_eq]
  exact eq_comm

theorem isManaged_of_deletes
    (standard : route.Standard table family) {r : Route} (fits : deletes route r = true) :
    r.isManaged table family = true := by
  simp only [deletes, Bool.and_eq_true] at fits
  exact isManaged_of_sameSlot standard fits.1.1

/-- Among the default routes of a family the kernel deletes what the model drops. -/
theorem deletes_eq_of_mem_managed
    (orderly : k.Orderly table family) (standard : route.Standard table family)
    {r : Route} (member : r ∈ k.managed table family) :
    deletes route r = Model.deletes route r := by
  have slot : sameSlot route r = (r.metric == route.metric) := by
    rw [Bool.eq_iff_iff, sameSlot_iff_of_mem_managed orderly standard member, beq_iff_eq]
  rw [deletes, Model.deletes, slot]

/-! ## Lists in which one element is put or dropped -/

section Lists

variable {α : Type} {p q : α → Bool}

theorem filter_eraseP_of_refused
    {l : List α} (refused : ∀ a, q a = true → p a = false) :
    (l.eraseP q).filter p = l.filter p := by
  induction l with
  | nil => rfl
  | cons a rest inductionHypothesis =>
      by_cases found : q a = true
      · simp [found, refused a found]
      · simp only [List.eraseP_cons_of_neg found, List.filter_cons, inductionHypothesis]

theorem filter_eraseP_of_kept
    {l : List α} (kept : ∀ a, q a = true → p a = true) :
    (l.eraseP q).filter p = (l.filter p).eraseP q := by
  have both : (fun a => q a && p a) = q := by
    funext a
    cases found : q a with
    | false => rfl
    | true => simp [kept a found]
  rw [List.eraseP_filter, both]

/-- Dropping the first of at most one drops all. -/
theorem mem_eraseP_of_pairwise
    {l : List α} (single : l.Pairwise fun a b => q a = true → q b = false) {a : α} :
    a ∈ l.eraseP q ↔ a ∈ l ∧ q a = false := by
  induction l with
  | nil => simp
  | cons b rest inductionHypothesis =>
      obtain ⟨alone, others⟩ := List.pairwise_cons.1 single
      by_cases found : q b = true
      · simp only [List.eraseP_cons_of_pos found, List.mem_cons]
        grind
      · simp only [List.eraseP_cons_of_neg found, List.mem_cons, inductionHypothesis others]
        grind

end Lists

section PutFirst

variable {test p : Route → Bool} {l : List Route}

theorem filter_putFirst_of_refused
    (refused : p route = false) (refusedBefore : ∀ r, test r = true → p r = false) :
    (putFirst test route l).filter p = l.filter p := by
  induction l with
  | nil => simp [putFirst, refused]
  | cons r rest inductionHypothesis =>
      by_cases found : test r = true
      · simp [putFirst, found, refused, refusedBefore r found]
      · simp only [putFirst, found, Bool.false_eq_true, if_false, List.filter_cons,
          inductionHypothesis]

theorem filter_putFirst_of_kept
    (kept : p route = true) (keptBefore : ∀ r, test r = true → p r = true) :
    (putFirst test route l).filter p = putFirst test route (l.filter p) := by
  induction l with
  | nil => simp [putFirst, kept]
  | cons r rest inductionHypothesis =>
      by_cases found : test r = true
      · simp [putFirst, found, kept, keptBefore r found]
      · by_cases passes : p r = true
        · simp [putFirst, found, passes, inductionHypothesis]
        · simp [putFirst, found, passes, inductionHypothesis]

theorem putFirst_eq_append (free : ∀ r ∈ l, test r = false) :
    putFirst test route l = l ++ [route] := by
  induction l with
  | nil => rfl
  | cons r rest inductionHypothesis =>
      have ⟨first, others⟩ := List.forall_mem_cons.1 free
      simp [putFirst, first, inductionHypothesis others]

theorem mem_of_mem_putFirst {r : Route} (member : r ∈ putFirst test route l) :
    r = route ∨ r ∈ l := by
  induction l with
  | nil => simpa [putFirst] using member
  | cons first rest inductionHypothesis =>
      simp only [putFirst] at member
      split at member <;> grind

/-- Where the test asks for the metric of the new route, and metrics do not recur, the new route
pushes out the one with its metric. -/
theorem mem_putFirst
    (byMetric : ∀ r ∈ l, test r = true ↔ r.metric = route.metric)
    (distinct : (l.map Route.metric).Nodup) {r : Route} :
    r ∈ putFirst test route l ↔ r = route ∨ (r ∈ l ∧ r.metric ≠ route.metric) := by
  induction l with
  | nil => simp [putFirst]
  | cons first rest inductionHypothesis =>
      obtain ⟨fresh, others⟩ := List.nodup_cons.1 distinct
      have ⟨here, later⟩ := List.forall_mem_cons.1 byMetric
      have apart (s : Route) (member : s ∈ rest) : s.metric ≠ first.metric := by
        intro same
        exact fresh (same ▸ List.mem_map_of_mem member)
      have known := inductionHypothesis later others
      simp only [putFirst]
      split <;> grind

theorem nodup_metric_putFirst
    (byMetric : ∀ r ∈ l, test r = true ↔ r.metric = route.metric)
    (distinct : (l.map Route.metric).Nodup) :
    ((putFirst test route l).map Route.metric).Nodup := by
  induction l with
  | nil => simp [putFirst]
  | cons first rest inductionHypothesis =>
      obtain ⟨fresh, others⟩ := List.nodup_cons.1 distinct
      have ⟨here, later⟩ := List.forall_mem_cons.1 byMetric
      have known := inductionHypothesis later others
      simp only [putFirst]
      split
      · rename_i found
        rw [List.map_cons, ← here.1 found]
        exact distinct
      · rename_i missing
        refine List.nodup_cons.2 ⟨fun recurs => ?_, known⟩
        obtain ⟨r, member, same⟩ := List.mem_map.1 recurs
        rcases mem_of_mem_putFirst member with rfl | old
        · exact missing (here.2 same.symm)
        · exact fresh (same ▸ List.mem_map_of_mem old)

end PutFirst

/-! ## Granted requests in the kernel -/

theorem managed_replace (standard : route.Standard table family) :
    (k.replace route).managed table family =
      putFirst (sameSlot route) route (k.managed table family) := by
  have isManaged : route.isManaged table family = true :=
    Route.isManaged_iff.2 ⟨standard.isDefault, standard.family_eq, standard.table⟩
  rw [replace, standard.stored]
  exact filter_putFirst_of_kept isManaged fun _ => isManaged_of_sameSlot standard

theorem foreign_replace (standard : route.Standard table family) :
    (k.replace route).foreign table family = k.foreign table family := by
  have isManaged : route.isManaged table family = true :=
    Route.isManaged_iff.2 ⟨standard.isDefault, standard.family_eq, standard.table⟩
  rw [replace, standard.stored]
  exact
    filter_putFirst_of_refused (by simp [isManaged])
      fun _ slot => by simp [isManaged_of_sameSlot standard slot]

/-- A route that is put into the table pushes out the one with its metric. -/
theorem mem_managed_replace
    (orderly : k.Orderly table family) (standard : route.Standard table family) {r : Route} :
    r ∈ (k.replace route).managed table family ↔
      r = route ∨ (r ∈ k.managed table family ∧ r.metric ≠ route.metric) := by
  rw [managed_replace standard]
  exact
    mem_putFirst (fun _ member => sameSlot_iff_of_mem_managed orderly standard member)
      orderly.distinct

theorem Orderly.replace
    (orderly : k.Orderly table family) (standard : route.Standard table family) :
    (k.replace route).Orderly table family where
  canonical r member := by
    rcases (mem_managed_replace orderly standard).1 member with rfl | ⟨old, _⟩
    · exact standard.destination
    · exact orderly.canonical r old
  stored r member := by
    rcases (mem_managed_replace orderly standard).1 member with rfl | ⟨old, _⟩
    · exact standard.stored
    · exact orderly.stored r old
  distinct := by
    rw [managed_replace standard]
    exact
      nodup_metric_putFirst
        (fun _ member => sameSlot_iff_of_mem_managed orderly standard member)
        orderly.distinct

/-- A route can be added where its place is free; then nothing is pushed out. -/
theorem add_eq_ok_iff (standard : route.Standard table family) :
    k.add route = .ok after ↔
      (∀ r ∈ k.routes, sameSlot route r = false) ∧ after = k.replace route := by
  rw [add, standard.stored]
  split
  · rename_i taken
    obtain ⟨r, member, slot⟩ := List.any_eq_true.1 taken
    constructor
    · intro granted
      cases granted
    · rintro ⟨free, _⟩
      rw [free r member] at slot
      cases slot
  · rename_i free
    have free : ∀ r ∈ k.routes, sameSlot route r = false := by simpa using free
    rw [Kernel.replace, standard.stored, putFirst_eq_append free]
    constructor
    · intro granted
      cases granted
      exact ⟨free, rfl⟩
    · rintro ⟨_, rfl⟩
      rfl

theorem routes_of_delete (granted : k.delete route = .ok after) :
    after.routes = k.routes.eraseP (deletes route.stored) := by
  rw [delete] at granted
  split at granted
  · cases granted
    rfl
  · cases granted

theorem managed_delete
    (standard : route.Standard table family) (granted : k.delete route = .ok after) :
    after.managed table family = (k.managed table family).eraseP (deletes route) := by
  rw [managed, routes_of_delete granted, standard.stored]
  exact filter_eraseP_of_kept fun _ => isManaged_of_deletes standard

theorem foreign_delete
    (standard : route.Standard table family) (granted : k.delete route = .ok after) :
    after.foreign table family = k.foreign table family := by
  rw [foreign, routes_of_delete granted, standard.stored]
  exact
    filter_eraseP_of_refused fun _ fits => by simp [isManaged_of_deletes standard fits]

/-- A deletion takes the routes that fit its description, of which there is one at most. -/
theorem mem_managed_delete
    (orderly : k.Orderly table family) (standard : route.Standard table family)
    (granted : k.delete route = .ok after) {r : Route} :
    r ∈ after.managed table family ↔
      r ∈ k.managed table family ∧ Model.deletes route r = false := by
  have single :
      (k.managed table family).Pairwise
        fun a b => deletes route a = true → deletes route b = false := by
    refine (List.pairwise_map.1 orderly.distinct).imp_of_mem fun {a b} left right apart fits => ?_
    cases alsoFits : deletes route b with
    | false => rfl
    | true =>
        simp only [deletes, Bool.and_eq_true] at fits alsoFits
        have first := (sameSlot_iff_of_mem_managed orderly standard left).1 fits.1.1
        have second := (sameSlot_iff_of_mem_managed orderly standard right).1 alsoFits.1.1
        exact absurd (first.trans second.symm) apart
  -- Only the first route that fits is dropped, but no other can have its metric.
  rw [managed_delete standard granted, mem_eraseP_of_pairwise single]
  exact
    and_congr_right fun member => by
      rw [deletes_eq_of_mem_managed orderly standard member]

theorem Orderly.delete
    (orderly : k.Orderly table family) (standard : route.Standard table family)
    (granted : k.delete route = .ok after) : after.Orderly table family where
  canonical r member :=
    orderly.canonical r ((mem_managed_delete orderly standard granted).1 member).1
  stored r member :=
    orderly.stored r ((mem_managed_delete orderly standard granted).1 member).1
  distinct := by
    rw [managed_delete standard granted]
    exact orderly.distinct.sublist (List.eraseP_sublist.map _)

/-- A default route that is there can be deleted. -/
theorem delete_of_mem_managed
    (standard : route.Standard table family) (member : route ∈ k.managed table family) :
    ∃ after, k.delete route = .ok after := by
  have fits : deletes route route = true := by
    cases route with
    | mk destination gateway oif table metric =>
        cases gateway <;> cases oif <;> simp [deletes, sameSlot]
  have present : k.routes.any (deletes route.stored) = true := by
    rw [standard.stored]
    exact List.any_eq_true.2 ⟨route, (List.mem_filter.1 member).1, fits⟩
  rw [delete, if_pos present]
  exact ⟨_, rfl⟩

/-- Of the default routes, only the one that is described fits its description. -/
theorem deletes_iff_of_mem_managed
    (orderly : k.Orderly table family) (member : route ∈ k.managed table family)
    {r : Route} (otherMember : r ∈ k.managed table family) :
    Model.deletes route r = true ↔ r = route := by
  constructor
  · intro fits
    simp only [Model.deletes, Bool.and_eq_true, beq_iff_eq] at fits
    exact orderly.eq_of_metric_eq otherMember member fits.1.1
  · rintro rfl
    cases r with
    | mk destination gateway oif table metric =>
        cases gateway <;> cases oif <;> simp [Model.deletes]

/-- Deleting one of the default routes leaves all others. -/
theorem mem_managed_delete_of_mem
    (orderly : k.Orderly table family) (member : route ∈ k.managed table family)
    (granted : k.delete route = .ok after) {r : Route} :
    r ∈ after.managed table family ↔ r ∈ k.managed table family ∧ r ≠ route := by
  rw [mem_managed_delete orderly (orderly.standard member) granted]
  refine and_congr_right fun otherMember => ?_
  rw [Ne, ← deletes_iff_of_mem_managed orderly member otherMember, Bool.not_eq_true]

end Kernel

namespace Model

variable {family : Family} {route : Route} {m : Model} {k after : Kernel}

/-- The model has the default routes of a family exactly as the kernel has them. -/
def Mirrors (m : Model) (k : Kernel) (family : Family) : Prop :=
  ∀ r, r ∈ m.defaultRoutes family ↔ r ∈ k.managed m.table family

/-! ## Granted requests in the model -/

@[simp]
theorem defaults_ensureOif (m : Model) (route : Route) :
    (m.ensureOif route).defaults = m.defaults := by
  unfold ensureOif
  split
  · unfold ensureLink
    split <;> rfl
  · rfl

@[simp]
theorem table_recordInstalled (m : Model) (route : Route) :
    (m.recordInstalled route).table = m.table :=
  (updatesFacts_addRoute m route true).table

@[simp]
theorem table_recordWithdrawn (m : Model) (route : Route) :
    (m.recordWithdrawn route).table = m.table :=
  (updatesFacts_dropRoute m route).table

theorem recordInstalled_eq
    (standard : route.Standard m.table family) :
    m.recordInstalled route =
      if route ∈ m.defaults.get family then m.ensureOif route
      else { m.ensureOif route with
        defaults := m.defaults.set family
          (((m.defaults.get family).filter (·.metric != route.metric)).insert route) } := by
  have sameTable : ¬ route.table ≠ (m.ensureOif route).table := by
    rw [(updatesFacts_ensureOif m route).table]
    exact not_not.2 standard.table
  simp only [recordInstalled, addRoute, standard.isDefault, if_true, addDefaultRoute,
    if_neg sameTable, standard.family_eq, defaults_ensureOif]
  split <;> rfl

theorem recordWithdrawn_eq
    (standard : route.Standard m.table family) :
    m.recordWithdrawn route =
      { m with
        defaults := m.defaults.set family
          ((m.defaults.get family).filter (!deletes route ·)) } := by
  simp only [recordWithdrawn, dropRoute, standard.isDefault, standard.table,
    standard.family_eq, Bool.not_true, Bool.false_eq_true, ne_eq, not_true_eq_false, if_false]

theorem mem_defaultRoutes_recordInstalled
    (standard : route.Standard m.table family) (missing : route ∉ m.defaultRoutes family)
    {r : Route} :
    r ∈ (m.recordInstalled route).defaultRoutes family ↔
      r = route ∨ (r ∈ m.defaultRoutes family ∧ r.metric ≠ route.metric) := by
  have unknown : route ∉ m.defaults.get family := missing
  rw [recordInstalled_eq standard, if_neg unknown]
  simp only [defaultRoutes, PerFamily.get_set_self, KeyedSet.mem_toList,
    KeyedSet.mem_insert_sorted, KeyedSet.mem_filter, bne_iff_ne]

theorem defaultRoutes_recordInstalled_of_mem
    (standard : route.Standard m.table family) (known : route ∈ m.defaultRoutes family) :
    (m.recordInstalled route).defaultRoutes family = m.defaultRoutes family := by
  have there : route ∈ m.defaults.get family := known
  rw [recordInstalled_eq standard, if_pos there, defaultRoutes, defaults_ensureOif]
  rfl

theorem mem_defaultRoutes_recordWithdrawn
    (standard : route.Standard m.table family) {r : Route} :
    r ∈ (m.recordWithdrawn route).defaultRoutes family ↔
      r ∈ m.defaultRoutes family ∧ deletes route r = false := by
  rw [recordWithdrawn_eq standard]
  simp only [defaultRoutes, PerFamily.get_set_self, KeyedSet.mem_toList,
    KeyedSet.mem_filter, Bool.not_eq_true']

theorem defaultRoutes_recordInstalled_of_ne
    {other : Family} (standard : route.Standard m.table family) (apart : other ≠ family) :
    (m.recordInstalled route).defaultRoutes other = m.defaultRoutes other := by
  rw [recordInstalled_eq standard]
  split
  · rw [defaultRoutes, defaults_ensureOif]
    rfl
  · simp only [defaultRoutes, PerFamily.get_set_of_ne _ apart]

theorem defaultRoutes_recordWithdrawn_of_ne
    {other : Family} (standard : route.Standard m.table family) (apart : other ≠ family) :
    (m.recordWithdrawn route).defaultRoutes other = m.defaultRoutes other := by
  rw [recordWithdrawn_eq standard]
  simp only [defaultRoutes, PerFamily.get_set_of_ne _ apart]

/-! ## Keeping the image true -/

/-- The kernel's default routes of a family are in order, and the model has them. -/
structure InStep (m : Model) (k : Kernel) (family : Family) : Prop where
  orderly : k.Orderly m.table family
  mirrors : m.Mirrors k family

theorem Mirrors.managed_eq_nil
    (mirrors : m.Mirrors k family) (nothing : m.defaultRoutes family = []) :
    k.managed m.table family = [] := by
  refine List.eq_nil_iff_forall_not_mem.2 fun r member => ?_
  rw [← mirrors r, nothing] at member
  cases member

theorem nodup_defaultRoutes (m : Model) (family : Family) : (m.defaultRoutes family).Nodup :=
  KeyedSet.nodup_toList _

theorem InStep.nodup_metric
    (inStep : m.InStep k family) : ((m.defaultRoutes family).map Route.metric).Nodup := by
  refine (nodup_defaultRoutes m family).map_on fun r listed s alsoListed same => ?_
  exact
    inStep.orderly.eq_of_metric_eq ((inStep.mirrors r).1 listed)
      ((inStep.mirrors s).1 alsoListed) same

/-- Putting a route into the kernel and recording it keep model and kernel in step. -/
theorem InStep.replace
    (inStep : m.InStep k family) (standard : route.Standard m.table family) :
    (m.recordInstalled route).InStep (k.replace route) family where
  orderly := by
    rw [table_recordInstalled]
    exact inStep.orderly.replace standard
  mirrors r := by
    rw [table_recordInstalled, Kernel.mem_managed_replace inStep.orderly standard]
    -- The model leaves a route it knows alone, and the kernel puts it in its own place.
    by_cases known : route ∈ m.defaultRoutes family
    · rw [defaultRoutes_recordInstalled_of_mem standard known, inStep.mirrors r]
      have there := (inStep.mirrors route).1 known
      constructor
      · intro member
        by_cases same : r = route
        · exact .inl same
        · exact .inr ⟨member, fun tie =>
            same (inStep.orderly.eq_of_metric_eq member there tie)⟩
      · rintro (rfl | ⟨member, _⟩)
        · exact there
        · exact member
    · rw [mem_defaultRoutes_recordInstalled standard known, inStep.mirrors r]

/-- Deleting a route from the kernel and recording it keep model and kernel in step. -/
theorem InStep.delete
    (inStep : m.InStep k family) (standard : route.Standard m.table family)
    (granted : k.delete route = .ok after) :
    (m.recordWithdrawn route).InStep after family where
  orderly := by
    rw [table_recordWithdrawn]
    exact inStep.orderly.delete standard granted
  mirrors r := by
    rw [table_recordWithdrawn, mem_defaultRoutes_recordWithdrawn standard,
      Kernel.mem_managed_delete inStep.orderly standard granted, inStep.mirrors r]

/-- Reading the routes of a family again sets the image right. -/
theorem mirrors_resyncRoutes (m : Model) (k : Kernel) (family : Family) :
    (m.resyncRoutes family (k.routesOf (some family))).1.Mirrors k family := by
  intro r
  simp only [resyncRoutes, defaultRoutes, PerFamily.get_set_self, KeyedSet.mem_toList,
    KeyedSet.mem_ofList_sorted, Kernel.routesOf, Kernel.managed, List.mem_filter]
  constructor
  · rintro ⟨⟨member, _⟩, managed⟩
    exact ⟨member, managed⟩
  · rintro ⟨member, managed⟩
    have ours : r.family = family := (Route.isManaged_iff.1 managed).2.1
    exact ⟨⟨member, by simp [ours]⟩, managed⟩

theorem defaultRoutes_resyncRoutes_of_ne
    {other : Family} (m : Model) (routes : List Route) (apart : other ≠ family) :
    (m.resyncRoutes family routes).1.defaultRoutes other = m.defaultRoutes other := by
  simp only [resyncRoutes, defaultRoutes, PerFamily.get_set_of_ne _ apart]

end Model

end DefaultGateway
