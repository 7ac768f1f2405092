import DefaultGateway.Proofs.Mirroring

/-!
# Default routes that fit one description

Default routes may share a metric, and a description without a gateway fits every route through its
interface. The kernel then takes one route for each request, and the model drops all that fit.
The model never has a route that the kernel has not; whether it has all of them is a matter of
counting.
-/

namespace DefaultGateway

open Kernel (Session)

variable {table : UInt32} {family : Family} {k after : Kernel} {m : Model}

/-- The route that an action puts into the kernel, if there is one. -/
def Action.placed : Action → Option Route
  | .noOp | .withdraw _ => none
  | .install route | .replace _ route => some route

/-- The routes that an action deletes after that. -/
def Action.deletions : Action → List Route
  | .noOp | .install _ => []
  | .replace old new => Reconciler.leftovers old new
  | .withdraw routes => routes

/-- Whether the model has a route no more once an action is over: it gave way to the one that was
put in, or fits the description of a deleted one. -/
def Action.drops (action : Action) (r : Route) : Bool :=
  action.placed.any (fun route => r.metric == route.metric && r != route) ||
    action.deletions.any (Model.deletes · r)

theorem Action.drops_of_deletes
    {action : Action} {d r : Route} (deleted : d ∈ action.deletions)
    (fits : Model.deletes d r = true) : action.drops r = true :=
  Bool.or_eq_true_iff.2 (.inr (List.any_eq_true.2 ⟨d, deleted, fits⟩))

/-- The kernel once an action has put its route in, before the first deletion. -/
def Kernel.afterPlacing (k : Kernel) (action : Action) : Kernel :=
  action.placed.elim k k.replace

def Model.afterPlacing (m : Model) (action : Action) : Model :=
  action.placed.elim m m.recordInstalled

/-! ## Single deletions -/

namespace Kernel

/-- Where one of the elements dropped counts, the count goes down by one. -/
theorem countP_eraseP_add_one
    {α : Type} {p q : α → Bool} {l : List α} (present : l.any q = true)
    (counts : ∀ a ∈ l, q a = true → p a = true) :
    (l.eraseP q).countP p + 1 = l.countP p := by
  induction l with
  | nil => cases present
  | cons a rest inductionHypothesis =>
      obtain ⟨first, others⟩ := List.forall_mem_cons.1 counts
      by_cases found : q a = true
      · rw [List.eraseP_cons_of_pos found, List.countP_cons_of_pos (first found)]
      · have later : rest.any q = true := by simpa [found] using present
        rw [List.eraseP_cons_of_neg found, List.countP_cons, List.countP_cons,
          ← inductionHypothesis later others]
        omega

/-- Whatever their metrics, the kernel deletes from among the routes that the model drops. -/
theorem deletes_eq_of_standard
    {route r : Route} (standard : route.Standard table family) (other : r.Standard table family) :
    deletes route r = Model.deletes route r := by
  rw [deletes, Model.deletes, sameSlot, standard.destination, other.destination,
    standard.table, other.table]
  simp only [beq_self_eq_true, Bool.true_and]
  rw [Bool.beq_comm]

theorem any_deletes_of_granted
    {route : Route} (standard : route.Standard table family)
    (granted : k.delete route = .ok after) :
    (k.managed table family).any (deletes route) = true := by
  rw [delete, standard.stored] at granted
  split at granted
  · rename_i present
    obtain ⟨r, member, fits⟩ := List.any_eq_true.1 present
    exact
      List.any_eq_true.2 ⟨r, List.mem_filter.2 ⟨member, isManaged_of_deletes standard fits⟩, fits⟩
  · cases granted

/-- Where only one element is dropped, of two that differ one stays. -/
theorem mem_eraseP_or_mem_eraseP
    {α : Type} {q : α → Bool} {l : List α} {a b : α} (first : a ∈ l) (second : b ∈ l)
    (apart : a ≠ b) :
    a ∈ l.eraseP q ∨ b ∈ l.eraseP q := by
  induction l with
  | nil => cases first
  | cons c rest inductionHypothesis =>
      by_cases found : q c = true
      · rw [List.eraseP_cons_of_pos found]
        rcases List.mem_cons.1 first with rfl | later
        · exact .inr ((List.mem_cons.1 second).resolve_left apart.symm)
        · exact .inl later
      · rw [List.eraseP_cons_of_neg found]
        rcases List.mem_cons.1 first with rfl | firstLater
        · exact .inl List.mem_cons_self
        · rcases List.mem_cons.1 second with rfl | secondLater
          · exact .inr List.mem_cons_self
          · exact
              (inductionHypothesis firstLater secondLater).imp
                (List.mem_cons_of_mem _) (List.mem_cons_of_mem _)

section PutFirst

variable {test : Route → Bool} {route r : Route} {l : List Route}

theorem mem_putFirst_self : route ∈ putFirst test route l := by
  induction l with
  | nil => exact List.mem_cons_self
  | cons first rest inductionHypothesis =>
      simp only [putFirst]
      split
      · exact List.mem_cons_self
      · exact List.mem_cons_of_mem _ inductionHypothesis

theorem mem_putFirst_of_refused (member : r ∈ l) (refused : test r = false) :
    r ∈ putFirst test route l := by
  induction l with
  | nil => cases member
  | cons first rest inductionHypothesis =>
      simp only [putFirst]
      rcases List.mem_cons.1 member with rfl | later
      · rw [if_neg (by simp [refused])]
        exact List.mem_cons_self
      · split
        · exact List.mem_cons_of_mem _ later
        · exact List.mem_cons_of_mem _ (inductionHypothesis later)

theorem nodup_putFirst (fresh : route ∉ l) (distinct : l.Nodup) :
    (putFirst test route l).Nodup := by
  induction l with
  | nil => exact List.nodup_singleton route
  | cons first rest inductionHypothesis =>
      have freshRest := List.not_mem_of_not_mem_cons fresh
      obtain ⟨single, distinctRest⟩ := List.nodup_cons.1 distinct
      simp only [putFirst]
      split
      · exact List.nodup_cons.2 ⟨freshRest, distinctRest⟩
      · refine List.nodup_cons.2 ⟨fun member => ?_, inductionHypothesis freshRest distinctRest⟩
        rcases mem_of_mem_putFirst member with same | again
        · exact List.ne_of_not_mem_cons fresh same.symm
        · exact single again

/-- One of those that satisfy the test has given way. -/
theorem exists_not_mem_putFirst
    (fresh : route ∉ l) (distinct : l.Nodup) (member : r ∈ l) (passes : test r = true) :
    ∃ s ∈ l, test s = true ∧ s ∉ putFirst test route l := by
  induction l with
  | nil => cases member
  | cons first rest inductionHypothesis =>
      have freshRest := List.not_mem_of_not_mem_cons fresh
      obtain ⟨single, distinctRest⟩ := List.nodup_cons.1 distinct
      simp only [putFirst]
      split
      · rename_i hit
        have gone : first ∉ route :: rest :=
          List.not_mem_cons_of_ne_of_not_mem (List.ne_of_not_mem_cons fresh).symm single
        exact ⟨first, List.mem_cons_self, hit, gone⟩
      · rename_i missed
        have later : r ∈ rest :=
          (List.mem_cons.1 member).resolve_left fun same => missed (same ▸ passes)
        obtain ⟨s, listed, hit, gone⟩ := inductionHypothesis freshRest distinctRest later
        have apart : s ≠ first := fun same => single (same ▸ listed)
        exact
          ⟨s, List.mem_cons_of_mem _ listed, hit,
            List.not_mem_cons_of_ne_of_not_mem apart gone⟩

end PutFirst

end Kernel

/-! ## A model that is behind -/

/-- The model has of the kernel's default routes those that are not dropped, and, as long as some
descriptions are due to be deleted, the ones that they fit besides. -/
structure Behind
    (table : UInt32) (family : Family) (drops : Route → Bool) (due : List Route)
    (k : Kernel) (m : Model) : Prop where
  sameTable : m.table = table
  standard : ∀ r ∈ k.managed table family, r.Standard table family
  known : ∀ r ∈ m.defaultRoutes family, r ∈ k.managed table family
  kept : ∀ r ∈ k.managed table family, drops r = false → r ∈ m.defaultRoutes family
  due :
    ∀ r ∈ m.defaultRoutes family, drops r = true → ∃ d ∈ due, Model.deletes d r = true

namespace Behind

variable {drops : Route → Bool} {due : List Route}

/-- Once no deletion is due, the model lacks exactly those routes that count as dropped. -/
theorem mirrors_iff (behind : Behind table family drops [] k m) :
    m.Mirrors k family ↔ (k.managed table family).countP drops = 0 := by
  rw [Model.Mirrors, behind.sameTable, List.countP_eq_zero]
  constructor
  · intro mirrors r member dropped
    obtain ⟨d, nothing, -⟩ := behind.due r ((mirrors r).2 member) dropped
    cases nothing
  · intro none r
    refine ⟨behind.known r, fun member => behind.kept r member ?_⟩
    exact Bool.eq_false_iff.2 (none r member)

/-- Each deletion that the kernel grants takes one of the routes that count as dropped. -/
theorem delete
    {d : Route} (behind : Behind table family drops (d :: due) k m)
    (standard : d.Standard table family) (counts : ∀ r, Model.deletes d r = true → drops r = true)
    (granted : k.delete d = .ok after) :
    Behind table family drops due after (m.recordWithdrawn d) ∧
      (after.managed table family).countP drops + 1 = (k.managed table family).countP drops := by
  have managed := Kernel.managed_delete standard granted
  have listed : ∀ r ∈ after.managed table family, r ∈ k.managed table family := by
    intro r member
    rw [managed] at member
    exact List.mem_of_mem_eraseP member
  have left (r : Route) :
      r ∈ (m.recordWithdrawn d).defaultRoutes family ↔
        r ∈ m.defaultRoutes family ∧ Model.deletes d r = false :=
    Model.mem_defaultRoutes_recordWithdrawn (behind.sameTable ▸ standard)
  have fitsAlike : ∀ r ∈ k.managed table family, Kernel.deletes d r = Model.deletes d r :=
    fun r member => Kernel.deletes_eq_of_standard standard (behind.standard r member)
  refine ⟨⟨?_, ?_, ?_, ?_, ?_⟩, ?_⟩
  · exact (Model.table_recordWithdrawn m d).trans behind.sameTable
  · exact fun r member => behind.standard r (listed r member)
  · intro r member
    obtain ⟨there, unfit⟩ := (left r).1 member
    have known := behind.known r there
    have refused : ¬Kernel.deletes d r = true := by simp [fitsAlike r known, unfit]
    rw [managed, List.mem_eraseP_of_neg refused]
    exact known
  · intro r member keeps
    have unfit : Model.deletes d r = false :=
      Bool.eq_false_iff.2 fun fits => by rw [counts r fits] at keeps; cases keeps
    exact (left r).2 ⟨behind.kept r (listed r member) keeps, unfit⟩
  · intro r member dropped
    obtain ⟨there, unfit⟩ := (left r).1 member
    obtain ⟨other, isDue, fits⟩ := behind.due r there dropped
    rcases List.mem_cons.1 isDue with rfl | later
    · rw [unfit] at fits
      cases fits
    · exact ⟨other, later, fits⟩
  · rw [managed]
    refine Kernel.countP_eraseP_add_one (Kernel.any_deletes_of_granted standard granted) ?_
    exact fun r member fits => counts r ((fitsAlike r member).symm.trans fits)

/-- A route put into the kernel and recorded leaves the model behind by the routes of its metric
that the kernel keeps. -/
theorem of_afterPlacing
    {action : Action} (mirrors : m.Mirrors k family) (sameTable : m.table = table)
    (allStandard : ∀ r ∈ k.managed table family, r.Standard table family)
    (fresh :
      ∀ route ∈ action.placed,
        route.Standard table family ∧ route ∉ m.defaultRoutes family) :
    Behind table family action.drops action.deletions (k.afterPlacing action)
      (m.afterPlacing action) := by
  subst sameTable
  unfold Kernel.afterPlacing Model.afterPlacing Action.drops
  cases placed : action.placed with
  | none =>
      refine ⟨rfl, allStandard, fun r => (mirrors r).1, fun r member _ => (mirrors r).2 member,
        fun r _ dropped => ?_⟩
      exact List.any_eq_true.1 dropped
  | some route =>
      obtain ⟨standard, missing⟩ := fresh route placed
      have recorded (r : Route) :=
        Model.mem_defaultRoutes_recordInstalled standard missing (r := r)
      have managed := Kernel.managed_replace (k := k) standard
      have before : ∀ r ∈ (k.replace route).managed m.table family,
          r = route ∨ r ∈ k.managed m.table family := by
        intro r member
        rw [managed] at member
        exact Kernel.mem_of_mem_putFirst member
      refine ⟨Model.table_recordInstalled m route, ?_, ?_, ?_, ?_⟩
      · intro r member
        rcases before r member with rfl | old
        · exact standard
        · exact allStandard r old
      · intro r member
        simp only [Option.elim_some]
        rw [managed]
        rcases (recorded r).1 member with rfl | ⟨old, apart⟩
        · exact Kernel.mem_putFirst_self
        · refine Kernel.mem_putFirst_of_refused ((mirrors r).1 old) ?_
          simp [Kernel.sameSlot, apart.symm]
      · intro r member kept
        rcases before r member with rfl | old
        · exact (recorded r).2 (.inl rfl)
        · -- A route of the new one's metric is dropped, unless it is the new one.
          have known := (mirrors r).2 old
          refine (recorded r).2 (.inr ⟨known, fun sameMetric => ?_⟩)
          have isNew : r = route := by
            simpa [sameMetric] using (Bool.or_eq_false_iff.1 kept).1
          exact missing (isNew ▸ known)
      · intro r member dropped
        rcases Bool.or_eq_true_iff.1 dropped with replaced | fits
        · simp only [Option.any_some, Bool.and_eq_true, beq_iff_eq, bne_iff_ne] at replaced
          rcases (recorded r).1 member with isNew | ⟨-, apart⟩
          · exact absurd isNew replaced.2
          · exact absurd replaced.1 apart
        · exact List.any_eq_true.1 fits

end Behind

namespace Reconciler

variable {t u v : Managed Session} {decision : Decision} {drops : Route → Bool}

theorem granted_of_submit
    {request : Kernel.Request} {operation : Operation} {change : Kernel → Except Errno Kernel}
    {record : Model → Model}
    (submitted :
      (Managed.submit (Session.mutate request operation change) record).runFrom u = (.ok (), v)) :
    change u.channel.kernel = .ok v.channel.kernel ∧ v.model = record u.model := by
  rw [Managed.runFrom_submit] at submitted
  rcases Session.mutate_cases request operation change u.channel with
    ⟨error, after, failed, -⟩ | ⟨after, succeeded, changed⟩
  · rw [failed] at submitted
    cases submitted
  · rw [succeeded] at submitted
    cases submitted
    exact ⟨changed, rfl⟩

/-- Deletions that have all succeeded have taken as many of the routes that count as dropped. -/
theorem behind_of_withdrawAll
    {routes : List Route}
    (behind : Behind table family drops routes u.channel.kernel u.model)
    (standard : ∀ d ∈ routes, d.Standard table family)
    (counts : ∀ d ∈ routes, ∀ r, Model.deletes d r = true → drops r = true)
    (withdrawn : (withdrawAll routes).runFrom u = (.ok (), v)) :
    Behind table family drops [] v.channel.kernel v.model ∧
      (v.channel.kernel.managed table family).countP drops + routes.length =
        (u.channel.kernel.managed table family).countP drops := by
  induction routes generalizing u with
  | nil =>
      cases withdrawn
      exact ⟨behind, rfl⟩
  | cons d rest inductionHypothesis =>
      obtain ⟨standardFirst, standardRest⟩ := List.forall_mem_cons.1 standard
      obtain ⟨countsFirst, countsRest⟩ := List.forall_mem_cons.1 counts
      rw [withdrawAll_cons] at withdrawn
      obtain ⟨_, between, submitted, later⟩ := Step.ok_of_runFrom_bind withdrawn
      obtain ⟨granted, recorded⟩ := granted_of_submit submitted
      obtain ⟨behindRest, one⟩ := behind.delete standardFirst countsFirst granted
      rw [← recorded] at behindRest
      obtain ⟨atEnd, others⟩ := inductionHypothesis behindRest standardRest countsRest later
      refine ⟨atEnd, ?_⟩
      rw [List.length_cons, ← one, ← others]
      omega

theorem mem_of_mem_deletions
    {d : Route} (deleted : d ∈ (planned t decision).deletions) :
    d ∈ t.model.defaultRoutes decision.family := by
  have shape := planCase_planned t decision
  generalize planned t decision = action at shape deleted
  cases shape with
  | absent => cases deleted
  | inPlace => cases deleted
  | first => cases deleted
  | unwanted => exact deleted
  | strays => exact (List.mem_filter.1 deleted).1
  | foreign => exact List.mem_of_mem_eraseP deleted

/-- Of the routes that are there, an action that puts one in spares the first of its metric. -/
theorem deletions_of_placed {route : Route} (placed : route ∈ (planned t decision).placed) :
    (planned t decision).deletions = leftovers (t.model.defaultRoutes decision.family) route := by
  have shape := planCase_planned t decision
  generalize planned t decision = action at shape placed
  cases shape with
  | absent => cases placed
  | inPlace => cases placed
  | unwanted => cases placed
  | strays => cases placed
  | first winner chosen nothing =>
      rw [nothing]
      rfl
  | foreign winner =>
      cases placed
      rfl

/-- What is planned to be put in is a default route as the kernel records it, and not there yet. -/
theorem fresh_of_placed
    (sameTable : t.reconciler.table = t.model.table)
    (winnerFamily : ∀ winner ∈ decision.winner, winner.family = decision.family)
    {route : Route} (placed : route ∈ (planned t decision).placed) :
    route.Standard t.model.table decision.family ∧
      route ∉ t.model.defaultRoutes decision.family := by
  have standard (winner : Candidate) (chosen : decision.winner = some winner) :
      (t.reconciler.target winner (winnerOif t.model decision)).Standard t.model.table
        decision.family := by
    rw [target, winnerFamily winner chosen, sameTable]
    exact Route.standard_defaultVia ..
  have shape := planCase_planned t decision
  generalize planned t decision = action at shape placed
  cases shape with
  | absent => cases placed
  | inPlace => cases placed
  | unwanted => cases placed
  | strays => cases placed
  | first winner chosen nothing =>
      cases placed
      exact ⟨standard winner chosen, by simp [nothing]⟩
  | foreign winner chosen something others =>
      cases placed
      refine ⟨standard winner chosen, fun known => ?_⟩
      have elsewhere := others _ known
      rw [forwardsVia_target] at elsewhere
      cases elsewhere

/-- An action that has succeeded has put its route in, and then made its deletions. -/
theorem placed_of_execute
    {action : Action} (standard : ∀ route ∈ action.placed, route.Standard table family)
    (executed : (execute action).runFrom t = (.ok (), v)) :
    ∃ u,
      u.channel.kernel = t.channel.kernel.afterPlacing action ∧
        u.model = t.model.afterPlacing action ∧
        (withdrawAll action.deletions).runFrom u = (.ok (), v) := by
  cases action with
  | noOp => exact ⟨t, rfl, rfl, executed⟩
  | withdraw routes => exact ⟨t, rfl, rfl, executed⟩
  | install route =>
      obtain ⟨granted, recorded⟩ := granted_of_submit executed
      obtain ⟨-, placed⟩ := (Kernel.add_eq_ok_iff (standard route rfl)).1 granted
      exact ⟨v, placed, recorded, rfl⟩
  | replace old route =>
      rw [execute_replace] at executed
      obtain ⟨_, u, submitted, withdrawn⟩ := Step.ok_of_runFrom_bind executed
      obtain ⟨granted, recorded⟩ := granted_of_submit submitted
      exact ⟨u, (Except.ok.inj granted).symm, recorded, withdrawn⟩

/-- Deletions that have all succeeded have each found a route. -/
theorem fits_of_withdrawAll
    {routes : List Route} (standard : ∀ d ∈ routes, d.Standard table family)
    (withdrawn : (withdrawAll routes).runFrom u = (.ok (), v)) :
    ∀ d ∈ routes, ∃ r ∈ u.channel.kernel.managed table family, Kernel.deletes d r = true := by
  induction routes generalizing u with
  | nil => exact List.forall_mem_nil _
  | cons d rest inductionHypothesis =>
      obtain ⟨standardFirst, standardRest⟩ := List.forall_mem_cons.1 standard
      rw [withdrawAll_cons] at withdrawn
      obtain ⟨_, between, submitted, later⟩ := Step.ok_of_runFrom_bind withdrawn
      obtain ⟨granted, -⟩ := granted_of_submit submitted
      refine List.forall_mem_cons.2 ⟨?_, fun other listed => ?_⟩
      · exact List.any_eq_true.1 (Kernel.any_deletes_of_granted standardFirst granted)
      · obtain ⟨r, member, fits⟩ := inductionHypothesis standardRest later other listed
        rw [Kernel.managed_delete standardFirst granted] at member
        exact ⟨r, List.mem_of_mem_eraseP member, fits⟩

/-- If each description fits one route only, and all are there, the routes dropped are those whose
deletion was planned. -/
theorem mem_deletions_of_drops
    (sameTable : t.reconciler.table = t.model.table)
    (allStandard :
      ∀ r ∈ t.channel.kernel.managed t.model.table decision.family,
        r.Standard t.model.table decision.family)
    (mirrors : t.model.Mirrors t.channel.kernel decision.family)
    (winnerFamily : ∀ winner ∈ decision.winner, winner.family = decision.family)
    (distinct : (t.channel.kernel.managed t.model.table decision.family).Nodup)
    (there :
      ∀ d ∈ (planned t decision).deletions,
        d ∈ (t.channel.kernel.afterPlacing (planned t decision)).managed t.model.table
          decision.family)
    (exact :
      ∀ d ∈ (planned t decision).deletions,
        ∀ r ∈ (t.channel.kernel.afterPlacing (planned t decision)).managed t.model.table
          decision.family, Model.deletes d r = true → r = d)
    {r : Route}
    (member :
      r ∈ (t.channel.kernel.afterPlacing (planned t decision)).managed t.model.table
        decision.family)
    (dropped : (planned t decision).drops r = true) :
    r ∈ (planned t decision).deletions := by
  rcases Bool.or_eq_true_iff.1 dropped with replaced | fits
  · obtain ⟨route, placed, gaveWay⟩ := (Option.any_eq_true ..).1 replaced
    obtain ⟨sameMetric, isOld⟩ : r.metric = route.metric ∧ r ≠ route := by
      simpa using gaveWay
    obtain ⟨standard, missing⟩ := fresh_of_placed sameTable winnerFamily placed
    have fresh : route ∉ t.channel.kernel.managed t.model.table decision.family :=
      fun known => missing ((mirrors route).2 known)
    have kernel :
        (t.channel.kernel.afterPlacing (planned t decision)).managed t.model.table
            decision.family =
          Kernel.putFirst (Kernel.sameSlot route) route
            (t.channel.kernel.managed t.model.table decision.family) := by
      rw [Kernel.afterPlacing, placed]
      exact Kernel.managed_replace standard
    rw [kernel] at member there
    have old := (Kernel.mem_of_mem_putFirst member).resolve_left isOld
    have slot : Kernel.sameSlot route r = true := by
      simp [Kernel.sameSlot, standard.destination, standard.table, sameMetric,
        (allStandard r old).destination, (allStandard r old).table]
    -- The kernel has taken the place of one route, and the action has spared one.
    obtain ⟨s, oldToo, -, gone⟩ := Kernel.exists_not_mem_putFirst fresh distinct old slot
    have apart : r ≠ s := fun same => gone (same ▸ member)
    rw [deletions_of_placed placed, leftovers] at there ⊢
    rcases Kernel.mem_eraseP_or_mem_eraseP ((mirrors r).2 old) ((mirrors s).2 oldToo) apart with
      deleted | spared
    · exact deleted
    · exact absurd (there s spared) gone
  · obtain ⟨d, deleted, fits⟩ := List.any_eq_true.1 fits
    exact exact d deleted r member fits ▸ deleted

theorem nodup_afterPlacing
    {action : Action} (distinct : (k.managed table family).Nodup)
    (fresh :
      ∀ route ∈ action.placed, route.Standard table family ∧ route ∉ k.managed table family) :
    ((k.afterPlacing action).managed table family).Nodup := by
  unfold Kernel.afterPlacing
  cases placed : action.placed with
  | none => exact distinct
  | some route =>
      obtain ⟨standard, missing⟩ := fresh route placed
      rw [Option.elim_some, Kernel.managed_replace standard]
      exact Kernel.nodup_putFirst missing distinct

theorem status_of_settleFailure
    {action : Action} {error : Error} {status : Status}
    (settled : (settleFailure family action error).runFrom t = (.ok status, v)) :
    status ≠ .completed := by
  rw [settleFailure] at settled
  split at settled
  · cases settled
  · split at settled
    · rw [resynced_eq] at settled
      obtain ⟨_, _, -, last⟩ := Step.ok_of_runFrom_bind settled
      cases last
      exact Status.noConfusion
    · obtain ⟨_, _, -, last⟩ := Step.ok_of_runFrom_bind settled
      cases last
      exact Status.noConfusion

/-- A reconciliation that is completed has carried out its action. -/
theorem execute_of_completed
    {report : Report} {after : Managed Session}
    (ended : (reconcile decision).runFrom t = (.ok report, after))
    (completed : report.status = .completed) :
    ∃ v, (execute (planned t decision)).runFrom t = (.ok (), v) ∧
      after = v.withPending decision.family none := by
  rw [runFrom_reconcile] at ended
  split at ended
  · cases ended
    cases completed
  · cases executed : (execute (planned t decision)).runFrom t with
    | mk outcome v =>
        rw [executed] at ended
        cases outcome with
        | ok _ =>
            cases ended
            exact ⟨v, rfl, rfl⟩
        | error error =>
            obtain ⟨status, u, settled, last⟩ := Step.ok_of_runFrom_bind ended
            cases last
            exact absurd completed (status_of_settleFailure settled)

/-- Whatever the routes have in common: after a reconciliation that is completed, the model has only
default routes of the family that the kernel has. It has them all if and only if, when the deletions
begin, the kernel has as many routes that the model has dropped in the end as there are deletions;
so it has them all where each description fits no other route. -/
theorem mirrors_iff_of_completed
    (sameTable : t.reconciler.table = t.model.table)
    (allStandard :
      ∀ r ∈ t.channel.kernel.managed t.model.table decision.family,
        r.Standard t.model.table decision.family)
    (mirrors : t.model.Mirrors t.channel.kernel decision.family)
    (winnerFamily : ∀ winner ∈ decision.winner, winner.family = decision.family)
    {report : Report} {after : Managed Session}
    (ended : (reconcile decision).runFrom t = (.ok report, after))
    (completed : report.status = .completed) :
    (∀ r ∈ after.model.defaultRoutes decision.family,
        r ∈ after.channel.kernel.managed t.model.table decision.family) ∧
      ((∀ r,
          r ∈ after.model.defaultRoutes decision.family ↔
            r ∈ after.channel.kernel.managed t.model.table decision.family) ↔
        ((t.channel.kernel.afterPlacing (planned t decision)).managed t.model.table
            decision.family).countP (planned t decision).drops =
          (planned t decision).deletions.length) ∧
      ((t.channel.kernel.managed t.model.table decision.family).Nodup →
        (∀ d ∈ (planned t decision).deletions,
          ∀ r ∈ (t.channel.kernel.afterPlacing (planned t decision)).managed t.model.table
            decision.family, Model.deletes d r = true → r = d) →
        ∀ r,
          r ∈ after.model.defaultRoutes decision.family ↔
            r ∈ after.channel.kernel.managed t.model.table decision.family) := by
  obtain ⟨v, executed, rfl⟩ := execute_of_completed ended completed
  have fresh (route : Route) (placed : route ∈ (planned t decision).placed) :=
    fresh_of_placed sameTable winnerFamily placed
  have standard :
      ∀ d ∈ (planned t decision).deletions, d.Standard t.model.table decision.family :=
    fun d deleted => allStandard d ((mirrors d).1 (mem_of_mem_deletions deleted))
  obtain ⟨u, kernel, model, withdrawn⟩ :=
    placed_of_execute (fun route placed => (fresh route placed).1) executed
  have behind := Behind.of_afterPlacing mirrors rfl allStandard fresh
  rw [← kernel, ← model] at behind
  obtain ⟨atEnd, count⟩ :=
    behind_of_withdrawAll behind standard
      (fun d deleted r => Action.drops_of_deletes deleted) withdrawn
  have whole :
      (∀ r,
          r ∈ v.model.defaultRoutes decision.family ↔
            r ∈ v.channel.kernel.managed t.model.table decision.family) ↔
        (u.channel.kernel.managed t.model.table decision.family).countP
            (planned t decision).drops =
          (planned t decision).deletions.length := by
    have exact := atEnd.mirrors_iff
    rw [Model.Mirrors, atEnd.sameTable] at exact
    exact exact.trans (by omega)
  rw [← kernel]
  refine ⟨atEnd.known, whole, fun distinct exact => whole.2 (le_antisymm ?_ (by omega))⟩
  have there :
      ∀ d ∈ (planned t decision).deletions,
        d ∈ u.channel.kernel.managed t.model.table decision.family := by
    intro d deleted
    obtain ⟨r, member, fits⟩ := fits_of_withdrawAll standard withdrawn d deleted
    rw [Kernel.deletes_eq_of_standard (standard d deleted) (behind.standard r member)] at fits
    exact exact d deleted r member fits ▸ member
  rw [kernel] at there exact ⊢
  have distinctThen :
      ((t.channel.kernel.afterPlacing (planned t decision)).managed t.model.table
        decision.family).Nodup :=
    nodup_afterPlacing distinct fun route placed =>
      (fresh route placed).imp_right fun missing known => missing ((mirrors route).2 known)
  rw [List.countP_eq_length_filter]
  refine (List.subperm_of_subset (distinctThen.filter _) fun r dropped => ?_).length_le
  obtain ⟨member, dropped⟩ := List.mem_filter.1 dropped
  exact
    mem_deletions_of_drops sameTable allStandard mirrors winnerFamily distinct there exact
      member dropped

/-- Three default routes of one metric; the first is the only one without a gateway. -/
def sameMetric : Kernel where
  links := [⟨2, some "eth0", true⟩, ⟨3, some "wlan0", true⟩, ⟨4, some "tun0", true⟩]
  routes := [
    ⟨.whole .inet, none, some 4, 254, 0⟩,
    .defaultVia .inet (.v4 0x0a0000fe#32) (some 2) 254 0,
    .defaultVia .inet (.v4 0x0a0100fe#32) (some 3) 254 0]

/-- A kernel that has been read a moment ago. -/
def freshlyRead (k : Kernel) : Managed Session where
  channel := { kernel := k }
  model := seenIn k
  reconciler := { table := 254, metric := 0 }

/-- The route without a gateway gives way to the winner's, and the others are deleted. -/
theorem mirrors_iff_of_completed_sameMetric :
    ∃ report after,
      (reconcile wired).runFrom (freshlyRead sameMetric) = (.ok report, after) ∧
        report.status = .completed ∧
        (after.channel.kernel.managed 254 .inet).length = 1 ∧
        ∀ r,
          r ∈ after.model.defaultRoutes .inet ↔ r ∈ after.channel.kernel.managed 254 .inet := by
  have known :
      ((seenIn sameMetric).defaultRoutes .inet).Perm (sameMetric.managed 254 .inet) := by
    decide +kernel
  have standard :
      ∀ r ∈ sameMetric.managed 254 .inet,
        r.destination = .whole .inet ∧ r.table = 254 ∧ r.stored = r := by
    decide +kernel
  have completed :
      ((reconcile wired).runFrom (freshlyRead sameMetric)).1 =
        .ok ⟨.inet, planned (freshlyRead sameMetric) wired, .completed⟩ := by
    decide +kernel
  have left :
      (((reconcile wired).runFrom (freshlyRead sameMetric)).2.channel.kernel.managed 254
        .inet).length = 1 := by
    decide +kernel
  have exact :
      ∀ d ∈ (planned (freshlyRead sameMetric) wired).deletions,
        ∀ r ∈ (sameMetric.afterPlacing (planned (freshlyRead sameMetric) wired)).managed 254
          .inet, Model.deletes d r = true → r = d := by
    decide +kernel
  cases ended : (reconcile wired).runFrom (freshlyRead sameMetric) with
  | mk outcome after =>
      rw [ended] at completed left
      cases completed
      have ⟨_, _, mirrors⟩ :=
        mirrors_iff_of_completed (by decide +kernel)
          (fun r member =>
            have ⟨destination, inTable, stored⟩ := standard r member
            ⟨destination, inTable, stored⟩)
          (fun r => known.mem_iff) (by simp [wired]) ended rfl
      exact ⟨_, after, rfl, rfl, left, mirrors (by decide +kernel) exact⟩

/-- A route without a gateway beside one through the same interface, of the same metric. -/
def shadowed : Kernel where
  links := [⟨2, some "eth0", true⟩]
  routes := [
    .defaultVia .inet (.v4 0x0a000001#32) (some 2) 254 0,
    ⟨.whole .inet, none, some 2, 254, 0⟩]

/-- The kernel deletes the winner's route for the one described, and keeps that one; the model drops
both. -/
theorem device_route_kept :
    ∃ report after,
      (reconcile wired).runFrom (freshlyRead shadowed) = (.ok report, after) ∧
        report.status = .completed ∧
        (∀ r, r ∈ (seenIn shadowed).defaultRoutes .inet ↔ r ∈ shadowed.managed 254 .inet) ∧
        after.channel.kernel.managed 254 .inet = [⟨.whole .inet, none, some 2, 254, 0⟩] ∧
        after.model.defaultRoutes .inet = [] := by
  have completed :
      ((reconcile wired).runFrom (freshlyRead shadowed)).1 =
        .ok ⟨.inet, .withdraw [⟨.whole .inet, none, some 2, 254, 0⟩], .completed⟩ := by
    decide +kernel
  have kernel :
      ((reconcile wired).runFrom (freshlyRead shadowed)).2.channel.kernel.managed 254 .inet =
        [⟨.whole .inet, none, some 2, 254, 0⟩] := by
    decide +kernel
  have model :
      ((reconcile wired).runFrom (freshlyRead shadowed)).2.model.defaultRoutes .inet = [] := by
    decide +kernel
  have known : ((seenIn shadowed).defaultRoutes .inet).Perm (shadowed.managed 254 .inet) := by
    decide +kernel
  cases ended : (reconcile wired).runFrom (freshlyRead shadowed) with
  | mk outcome after =>
      rw [ended] at completed kernel model
      cases completed
      exact ⟨_, after, rfl, rfl, fun r => known.mem_iff, kernel, model⟩

end Reconciler

end DefaultGateway
