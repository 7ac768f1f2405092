import DefaultGateway.Proofs.Mirror
import DefaultGateway.Proofs.Session

/-!
# The model mirrors the kernel

Wherever a reconciliation is cut short, the requests granted until then are recorded in the model
as the kernel has carried them out, and those that failed have not touched either.
-/

namespace DefaultGateway

open Kernel (Session)

variable {k k₀ : Kernel} {m m₀ : Model} {family : Family} {route : Route}

/-- Model and kernel are in step on a family, and have changed in nothing else since they were
`m₀` and `k₀`. -/
structure Abreast
    (m₀ : Model) (k₀ : Kernel) (family : Family) (k : Kernel) (m : Model) : Prop where
  inStep : m.InStep k family
  table : m.table = m₀.table
  foreign : k.foreign m₀.table family = k₀.foreign m₀.table family
  others : ∀ other, other ≠ family → m.defaultRoutes other = m₀.defaultRoutes other

namespace Abreast

theorem refl (inStep : m.InStep k family) : Abreast m k family k m where
  inStep := inStep
  table := rfl
  foreign := rfl
  others _ _ := rfl

theorem replace
    (abreast : Abreast m₀ k₀ family k m) (standard : route.Standard m₀.table family) :
    Abreast m₀ k₀ family (k.replace route) (m.recordInstalled route) where
  inStep := abreast.inStep.replace (abreast.table ▸ standard)
  table := (Model.table_recordInstalled m route).trans abreast.table
  foreign := (Kernel.foreign_replace standard).trans abreast.foreign
  others other apart := by
    rw [Model.defaultRoutes_recordInstalled_of_ne (abreast.table ▸ standard) apart]
    exact abreast.others other apart

theorem delete
    {after : Kernel} (abreast : Abreast m₀ k₀ family k m)
    (standard : route.Standard m₀.table family) (granted : k.delete route = .ok after) :
    Abreast m₀ k₀ family after (m.recordWithdrawn route) where
  inStep := abreast.inStep.delete (abreast.table ▸ standard) granted
  table := (Model.table_recordWithdrawn m route).trans abreast.table
  foreign := (Kernel.foreign_delete standard granted).trans abreast.foreign
  others other apart := by
    rw [Model.defaultRoutes_recordWithdrawn_of_ne (abreast.table ▸ standard) apart]
    exact abreast.others other apart

theorem resync (abreast : Abreast m₀ k₀ family k m) :
    Abreast m₀ k₀ family k (m.resyncRoutes family (k.routesOf (some family))).1 where
  inStep := ⟨abreast.inStep.orderly, Model.mirrors_resyncRoutes m k family⟩
  table := abreast.table
  foreign := abreast.foreign
  others other apart :=
    (Model.defaultRoutes_resyncRoutes_of_ne m _ apart).trans (abreast.others other apart)

end Abreast

namespace Reconciler

variable {t : Managed Session} {decision : Decision}

/-- Each route that is sent to the kernel is a default route of the family as the kernel records
it. -/
theorem standard_of_mem_planned
    (table : t.reconciler.table = t.model.table)
    (inStep : t.model.InStep t.channel.kernel decision.family)
    (winnerFamily : ∀ winner ∈ decision.winner, winner.family = decision.family)
    (member : route ∈ (planned t decision).sent) :
    route.Standard t.model.table decision.family := by
  refine forall_planned (fun known listed => ?_) (fun winner chosen => ?_) route member
  · exact inStep.orderly.standard ((inStep.mirrors known).1 listed)
  · rw [target, winnerFamily winner chosen, table]
    exact Route.standard_defaultVia ..

/-- A replacement leaves behind the routes of other metrics. -/
theorem mem_leftovers
    (inStep : m.InStep k family) (route : Route) {r : Route} :
    r ∈ leftovers (m.defaultRoutes family) route ↔
      r ∈ k.managed m.table family ∧ r.metric ≠ route.metric := by
  have single :
      (m.defaultRoutes family).Pairwise
        fun a b => (a.metric == route.metric) = true → (b.metric == route.metric) = false :=
    (List.pairwise_map.1 inStep.nodup_metric).imp fun apart => by grind
  rw [leftovers, Kernel.mem_eraseP_of_pairwise single, inStep.mirrors r, beq_eq_false_iff_ne]

/-- However a reconciliation ends, it leaves model and kernel in step. -/
theorem abreast_reconcile
    (table : t.reconciler.table = t.model.table)
    (inStep : t.model.InStep t.channel.kernel decision.family)
    (winnerFamily : ∀ winner ∈ decision.winner, winner.family = decision.family) :
    Abreast t.model t.channel.kernel decision.family
      ((reconcile decision).runFrom t).2.channel.kernel
      ((reconcile decision).runFrom t).2.model := by
  have standard (route : Route) (member : route ∈ (planned t decision).sent) :=
    standard_of_mem_planned table inStep winnerFamily member
  have executed :
      Step.Keeps
        (fun u : Managed Session =>
          Abreast t.model t.channel.kernel decision.family u.channel.kernel u.model)
        (execute (planned t decision)) := by
    refine keeps_execute (fun route member => ?_) (fun route member => ?_)
      fun route member => ?_
    · refine Session.keeps_submit_mutate fun k m after abreast granted => ?_
      obtain ⟨-, rfl⟩ := (Kernel.add_eq_ok_iff (standard route member)).1 granted
      exact abreast.replace (standard route member)
    · refine Session.keeps_submit_mutate fun k m after abreast granted => ?_
      cases granted
      exact abreast.replace (standard route member)
    · exact Session.keeps_submit_mutate fun k m after abreast granted =>
        abreast.delete (standard route member) granted
  exact
    reconcile_keeps
      (P := fun u : Managed Session =>
        Abreast t.model t.channel.kernel decision.family u.channel.kernel u.model)
      (executed t (.refl inStep)) (Session.keeps_reread fun k m => Abreast.resync)
      fun u failure abreast => abreast

/-- Whatever fails on the way, after a reconciliation the model has the default routes of the
family exactly as the kernel has them, with metrics that differ; the default routes of the other
family and all other routes of the kernel are as they were. -/
theorem mirrors_of_reconcile
    (table : t.reconciler.table = t.model.table)
    (inStep : t.model.InStep t.channel.kernel decision.family)
    (winnerFamily : ∀ winner ∈ decision.winner, winner.family = decision.family)
    {outcome : Except Error Report} {after : Managed Session}
    (ended : (reconcile decision).runFrom t = (outcome, after)) :
    (∀ r,
        r ∈ after.model.defaultRoutes decision.family ↔
          r ∈ after.channel.kernel.managed t.model.table decision.family) ∧
      ((after.channel.kernel.managed t.model.table decision.family).map
        Route.metric).Nodup ∧
      after.channel.kernel.foreign t.model.table decision.family =
        t.channel.kernel.foreign t.model.table decision.family ∧
      ∀ other, other ≠ decision.family →
        after.model.defaultRoutes other = t.model.defaultRoutes other := by
  have abreast := abreast_reconcile table inStep winnerFamily
  rw [ended] at abreast
  have mirrors := abreast.inStep.mirrors
  have distinct := abreast.inStep.orderly.distinct
  rw [Model.Mirrors, abreast.table] at mirrors
  rw [abreast.table] at distinct
  exact ⟨mirrors, distinct, abreast.foreign, abreast.others⟩

/-- Three default routes of one family, one of the other, and a route to a network. -/
def crowded : Kernel where
  links := [⟨2, some "eth0", true⟩, ⟨3, some "wlan0", true⟩]
  routes := [
    .defaultVia .inet (.v4 0x0a0000fe#32) (some 2) 254 100,
    .defaultVia .inet (.v4 0x0a0100fe#32) (some 3) 254 0,
    .defaultVia .inet (.v4 0x0a0100fd#32) none 254 200,
    .defaultVia .inet6 (.v6 0xfe800000000000000000000000000001#128) (some 2) 254 0,
    ⟨⟨.v4 0x0a000000#32, 24, by decide⟩, none, some 2, 254, 0⟩]

/-- The gateway on the first interface has been chosen. -/
def wired : Decision where
  family := .inet
  winner := some ⟨.dhcp, .inet, "eth0", .v4 0x0a000001#32, none, 1⟩

/-- What a kernel is known for once it has been read. -/
def seenIn (k : Kernel) : Model := .ofSnapshot 254 ⟨k.links, k.addresses, k.routes⟩

theorem inStep_crowded : (seenIn crowded).InStep crowded .inet where
  orderly := ⟨by decide +kernel, by decide +kernel, by decide +kernel⟩
  mirrors r := by
    have table : (seenIn crowded).table = 254 := by decide +kernel
    have listed :
        ∀ r ∈ (seenIn crowded).defaultRoutes .inet, r ∈ crowded.managed 254 .inet := by
      decide +kernel
    have known :
        ∀ r ∈ crowded.managed 254 .inet, r ∈ (seenIn crowded).defaultRoutes .inet := by
      decide +kernel
    rw [table]
    exact ⟨listed r, known r⟩

/-- The third request to the kernel loses the connection. -/
def interrupted : Managed Session where
  channel := { kernel := crowded, mutationFaults := [none, none, some .connectionLost] }
  model := seenIn crowded
  reconciler := { table := 254, metric := 0 }

/-- One route has been replaced and one deleted when the connection is lost. -/
theorem mirrors_of_reconcile_interrupted :
    ∃ after,
      (reconcile wired).runFrom interrupted = (.error (.netlink "connection reset"), after) ∧
        (after.channel.kernel.managed 254 .inet).length = 2 ∧
        (∀ r,
          r ∈ after.model.defaultRoutes .inet ↔ r ∈ after.channel.kernel.managed 254 .inet) ∧
        after.channel.kernel.foreign 254 .inet = crowded.foreign 254 .inet := by
  have lost :
      ((reconcile wired).runFrom interrupted).1 = .error (.netlink "connection reset") := by
    decide +kernel
  have left :
      (((reconcile wired).runFrom interrupted).2.channel.kernel.managed 254 .inet).length = 2 := by
    decide +kernel
  cases ended : (reconcile wired).runFrom interrupted with
  | mk outcome after =>
      rw [ended] at lost left
      cases lost
      have ⟨mirrors, _, foreign, _⟩ :=
        mirrors_of_reconcile (by decide +kernel) inStep_crowded (by simp [wired]) ended
      exact ⟨after, rfl, left, mirrors, foreign⟩

end Reconciler

end DefaultGateway
