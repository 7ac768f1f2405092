import DefaultGateway.Proofs.Mirroring
import DefaultGateway.Proofs.Watched

/-!
# No moment without a default route

While a winner is being given its route, every request leaves the family with a default route if it
had one, and never takes away a route that goes by the winner: what is deleted differs from all such
routes in its metric.
-/

namespace DefaultGateway

open Kernel (Session)

variable {table : UInt32} {family : Family} {gateway : Address} {oif : Option LinkIndex}

/-! ## Changes that keep a gateway up -/

namespace Kernel

/-- From one moment to another the default routes of a family do not run out, and those by a
gateway stay. -/
structure Sustains
    (table : UInt32) (family : Family) (gateway : Address) (oif : Option LinkIndex)
    (k after : Kernel) : Prop where
  occupied : k.managed table family ≠ [] → after.managed table family ≠ []
  kept :
    ∀ r ∈ k.managed table family, r.forwardsVia gateway oif = true →
      r ∈ after.managed table family

theorem Sustains.refl (k : Kernel) : Sustains table family gateway oif k k where
  occupied := id
  kept _ member _ := member

instance : Trans
    (Sustains table family gateway oif) (Sustains table family gateway oif)
    (Sustains table family gateway oif) where
  trans first second :=
    ⟨fun something => second.occupied (first.occupied something),
      fun r member forwards => second.kept r (first.kept r member forwards) forwards⟩

/-- Some default route goes by the gateway, and such routes differ in metric from those that are to
be deleted. -/
structure Guarded
    (table : UInt32) (family : Family) (gateway : Address) (oif : Option LinkIndex)
    (routes : List Route) (k : Kernel) : Prop where
  orderly : k.Orderly table family
  present : ∃ r ∈ k.managed table family, r.forwardsVia gateway oif = true
  spared :
    ∀ r ∈ k.managed table family, r.forwardsVia gateway oif = true →
      ∀ route ∈ routes, r.metric ≠ route.metric

theorem Guarded.delete
    {k after : Kernel} {route : Route} {routes : List Route}
    (guarded : k.Guarded table family gateway oif routes) (listed : route ∈ routes)
    (standard : route.Standard table family) (granted : k.delete route = .ok after) :
    k.Sustains table family gateway oif after ∧
      after.Guarded table family gateway oif routes := by
  have left (r : Route) :=
    mem_managed_delete guarded.orderly standard granted (r := r)
  have kept : ∀ r ∈ k.managed table family, r.forwardsVia gateway oif = true →
      r ∈ after.managed table family := by
    intro r member forwards
    refine (left r).2 ⟨member, ?_⟩
    have apart := guarded.spared r member forwards route listed
    simp [Model.deletes, apart]
  obtain ⟨r, member, forwards⟩ := guarded.present
  have remains := kept r member forwards
  refine ⟨⟨fun _ => List.ne_nil_of_mem remains, kept⟩, ?_⟩
  refine ⟨guarded.orderly.delete standard granted, ⟨r, remains, forwards⟩, ?_⟩
  exact fun other member => guarded.spared other ((left other).1 member).1

/-- The first route by a gateway is put in the place of another, or beside the others. -/
theorem guarded_replace
    {k : Kernel} {route : Route} {routes : List Route}
    (orderly : k.Orderly table family) (standard : route.Standard table family)
    (forwards : route.forwardsVia gateway oif = true)
    (first : ∀ r ∈ k.managed table family, r.forwardsVia gateway oif = false)
    (apart : ∀ r ∈ routes, r.metric ≠ route.metric) :
    k.Sustains table family gateway oif (k.replace route) ∧
      (k.replace route).Guarded table family gateway oif routes := by
  have inPlace (r : Route) := mem_managed_replace orderly standard (r := r)
  have present := (inPlace route).2 (.inl rfl)
  refine ⟨⟨fun _ => List.ne_nil_of_mem present, fun r member alsoForwards => ?_⟩, ?_⟩
  · rw [first r member] at alsoForwards
    cases alsoForwards
  · refine ⟨orderly.replace standard, ⟨route, present, forwards⟩, ?_⟩
    intro r member alsoForwards other listed
    rcases (inPlace r).1 member with rfl | ⟨old, _⟩
    · exact (apart other listed).symm
    · rw [first r old] at alsoForwards
      cases alsoForwards

/-- From one session to the next a single request has been made, and the default routes have been
sustained. -/
structure Session.Advances
    (table : UInt32) (family : Family) (gateway : Address) (oif : Option LinkIndex)
    (s next : Session) : Prop where
  asked : ∃ request, next.requests = s.requests ++ [request]
  sustains : s.kernel.Sustains table family gateway oif next.kernel

theorem Session.advances_mutate
    {s : Session} {request : Request} {operation : Operation}
    {change : Kernel → Except Errno Kernel}
    (granted :
      ∀ after, change s.kernel = .ok after → s.kernel.Sustains table family gateway oif after) :
    s.Advances table family gateway oif ((mutate request operation change).runFrom s).2 where
  asked := ⟨request, requests_of_mutate request operation change s⟩
  sustains := by
    rcases mutate_cases request operation change s with
      ⟨error, after, failed, same⟩ | ⟨after, succeeded, changed⟩
    · rw [failed]
      exact same.symm ▸ Sustains.refl s.kernel
    · rw [succeeded]
      exact granted after.kernel changed

theorem Session.advances_dump
    {α : Type} (request : Request) (answer : Kernel → α) (s : Session) :
    s.Advances table family gateway oif ((dump request answer).runFrom s).2 := by
  rw [afterDump_of_dump]
  exact ⟨⟨request, rfl⟩, .refl s.kernel⟩

end Kernel

namespace Reconciler

open Managed

variable {start : Session}

/-- The course of the channel sustains the default routes by a gateway. -/
def Sustained
    (table : UInt32) (family : Family) (gateway : Address) (oif : Option LinkIndex)
    (start : Session) (t : Managed (Watched Session)) : Prop :=
  t.channel.Proceeds (Session.Advances table family gateway oif) start

theorem sustained_submit
    {t : Managed (Watched Session)} (sustained : Sustained table family gateway oif start t)
    {request : Kernel.Request} {operation : Operation}
    {change : Kernel → Except Errno Kernel} {record : Model → Model}
    (granted :
      ∀ after, change t.channel.channel.kernel = .ok after →
        t.channel.channel.kernel.Sustains table family gateway oif after) :
    Sustained table family gateway oif start
      ((submit (Watched.ask (Session.mutate request operation change)) record).runFrom t).2 := by
  rw [Sustained, channel_of_submit]
  exact Watched.Proceeds.ask sustained (Session.advances_mutate granted)

theorem changed_of_submit
    {t u : Managed (Watched Session)}
    (request : Kernel.Request) (operation : Operation)
    (change : Kernel → Except Errno Kernel) {record : Model → Model}
    (submitted :
      (submit (Watched.ask (Session.mutate request operation change)) record).runFrom t =
        (.ok (), u)) :
    change t.channel.channel.kernel = .ok u.channel.channel.kernel := by
  have asked := ok_of_submit submitted
  rw [Watched.runFrom_ask] at asked
  obtain ⟨succeeded, same⟩ := Prod.mk.inj asked
  rw [← same]
  rcases Session.mutate_cases request operation change t.channel.channel with
    ⟨error, after, failed, _⟩ | ⟨after, ended, changed⟩
  · rw [failed] at succeeded
    cases succeeded
  · rw [ended]
    exact changed

/-- A property of the kernel that a granted request keeps while it sustains the default routes is
kept by its submission. -/
theorem keeps_sustained_submit
    {Q : Kernel → Prop} {request : Kernel.Request} {operation : Operation}
    {change : Kernel → Except Errno Kernel} {record : Model → Model}
    (granted :
      ∀ k after, Q k → change k = .ok after →
        k.Sustains table family gateway oif after ∧ Q after) :
    Step.Keeps
      (fun t : Managed (Watched Session) =>
        Sustained table family gateway oif start t ∧ Q t.channel.channel.kernel)
      (submit (Watched.ask (Session.mutate request operation change)) record) := by
  rintro t ⟨sustained, held⟩
  refine ⟨sustained_submit sustained fun after changed => (granted _ _ held changed).1, ?_⟩
  rw [channel_of_submit, Watched.runFrom_ask]
  rcases Session.mutate_cases request operation change t.channel.channel with
    ⟨error, after, failed, same⟩ | ⟨after, succeeded, changed⟩
  · rw [failed]
    exact same.symm ▸ held
  · rw [succeeded]
    exact (granted _ _ held changed).2

/-- Deleting routes of other metrics leaves the routes by the gateway alone. -/
theorem keeps_sustained_withdrawAll
    {routes : List Route} (standard : ∀ route ∈ routes, route.Standard table family) :
    Step.Keeps
      (fun t : Managed (Watched Session) =>
        Sustained table family gateway oif start t ∧
          t.channel.channel.kernel.Guarded table family gateway oif routes)
      (withdrawAll routes) :=
  keeps_withdrawAll fun route listed => keeps_sustained_submit fun _ _ guarded granted =>
    guarded.delete listed (standard route listed) granted

theorem keeps_sustained_reread :
    Step.Keeps (Sustained table family gateway oif start) (reread family) := by
  intro t sustained
  rw [Sustained, channel_of_reread]
  exact Watched.Proceeds.ask sustained (Session.advances_dump _ _ _)

/-- A replacement brings in the first route by the gateway, and then deletes routes of other
metrics. -/
theorem sustained_replace
    {t : Managed (Watched Session)} (sustained : Sustained table family gateway oif start t)
    {old : List Route} {new : Route}
    (orderly : t.channel.channel.kernel.Orderly table family)
    (standard : ∀ route ∈ new :: old, route.Standard table family)
    (forwards : new.forwardsVia gateway oif = true)
    (first :
      ∀ r ∈ t.channel.channel.kernel.managed table family, r.forwardsVia gateway oif = false)
    (apart : ∀ route ∈ leftovers old new, route.metric ≠ new.metric) :
    Sustained table family gateway oif start ((execute (.replace old new)).runFrom t).2 := by
  have ⟨aimed, known⟩ := List.forall_mem_cons.1 standard
  obtain ⟨sustains, guarded⟩ := Kernel.guarded_replace orderly aimed forwards first apart
  have replaced :
      Sustained table family gateway oif start
        ((submit (RouteChannel.replaceRoute new) (·.recordInstalled new)).runFrom t).2 :=
    sustained_submit sustained fun after granted => by
      cases Except.ok.inj granted
      exact sustains
  -- Deletions start only once the new route is there; it guards itself from then on.
  rw [execute_replace, Step.runFrom_bind]
  cases submitted :
    (submit (RouteChannel.replaceRoute new) (·.recordInstalled new)).runFrom t with
  | mk outcome u =>
      rw [submitted] at replaced
      cases outcome with
      | error error => exact replaced
      | ok _ =>
          have changed := Except.ok.inj <|
            changed_of_submit (.replace new) .replaceRoute (fun k => .ok (k.replace new))
              submitted
          rw [changed] at guarded
          refine (keeps_sustained_withdrawAll ?_ u ⟨replaced, guarded⟩).1
          exact fun route left => known route (List.mem_of_mem_eraseP left)

/-- Whatever is done for a winner, its routes stay, and some default route does. -/
theorem sustained_execute_planned
    {t : Managed Session} {decision : Decision} {winner : Candidate}
    (chosen : decision.winner = some winner)
    (sameTable : t.reconciler.table = t.model.table)
    (inStep : t.model.InStep t.channel.kernel decision.family)
    (winnerFamily : ∀ winner ∈ decision.winner, winner.family = decision.family) :
    Sustained t.model.table decision.family winner.gateway (winnerOif t.model decision) t.channel
      ((execute (planned t.watched decision)).runFrom t.watched).2 := by
  have mirrors := inStep.mirrors
  have begun :
      Sustained t.model.table decision.family winner.gateway (winnerOif t.model decision)
        t.channel t.watched :=
    Watched.proceeds_fresh _ _
  have standard (route : Route) (member : route ∈ (planned t decision).sent) :=
    standard_of_mem_planned sameTable inStep winnerFamily member
  have shape := planCase_planned t decision
  have samePlan : planned t.watched decision = planned t decision := rfl
  rw [samePlan]
  generalize planned t decision = action at shape standard
  cases shape with
  | absent nobody => cases chosen.symm.trans nobody
  | unwanted nobody => cases chosen.symm.trans nobody
  | inPlace => exact begun
  | first other alsoChosen nothing =>
      have bare := mirrors.managed_eq_nil nothing
      refine sustained_submit begun fun after granted => ⟨fun something => ?_, fun r member => ?_⟩
      · exact absurd bare something
      · have impossible : r ∈ t.channel.kernel.managed t.model.table decision.family := member
        rw [bare] at impossible
        cases impossible
  | foreign other alsoChosen something others =>
      cases chosen.symm.trans alsoChosen
      refine sustained_replace begun inStep.orderly standard (forwardsVia_target ..)
        (fun r member => others r ((mirrors r).2 member)) fun route left => ?_
      exact ((mem_leftovers inStep _).1 left).2
  | strays other alsoChosen current stray =>
      cases chosen.symm.trans alsoChosen
      refine (keeps_sustained_withdrawAll standard t.watched ⟨begun, ?_⟩).1
      obtain ⟨route, listed, forwards⟩ := current
      refine ⟨inStep.orderly, ⟨route, (mirrors route).1 listed, forwards⟩, ?_⟩
      intro r member alsoForwards d strayListed sameMetric
      obtain ⟨known, elsewhere⟩ := List.mem_filter.1 strayListed
      have same := inStep.orderly.eq_of_metric_eq member ((mirrors d).1 known) sameMetric
      rw [← same, alsoForwards] at elsewhere
      cases elsewhere

/-- What holds of neighbours in a sustained course holds of any two of its states. -/
theorem Sustained.pairwise
    {t : Managed (Watched Session)} (sustained : Sustained table family gateway oif start t) :
    t.channel.course.Pairwise fun earlier later =>
      earlier.kernel.Sustains table family gateway oif later.kernel := by
  have chain :
      (t.channel.course.map Session.kernel).IsChain
        (Kernel.Sustains table family gateway oif) :=
    List.isChain_map_of_isChain _ (fun _ _ advances => advances.sustains) sustained.chain
  exact List.pairwise_map.1 (List.isChain_iff_pairwise.1 chain)

/-- While there is a winner, whatever fails on the way: each state of the kernel in the course of a
reconciliation, one for every request, has a default route if the first one has, and has all the
default routes through the winner's gateway and interface that the earlier ones have. -/
theorem default_throughout
    {t : Managed Session} {decision : Decision} {winner : Candidate}
    (chosen : decision.winner = some winner) (winnerFamily : winner.family = decision.family)
    (sameTable : t.reconciler.table = t.model.table)
    (inStep : t.model.InStep t.channel.kernel decision.family)
    {outcome : Except Error Report} {after : Managed (Watched Session)}
    (ended : (reconcile decision).runFrom t.watched = (outcome, after)) :
    (reconcile decision).runFrom t = (outcome, after.unwatched) ∧
      after.channel.course.head? = some t.channel ∧
      (after.channel.course.IsChain fun s next =>
        ∃ request, next.requests = s.requests ++ [request]) ∧
      (t.channel.kernel.managed t.model.table decision.family ≠ [] →
        ∀ s ∈ after.channel.course,
          s.kernel.managed t.model.table decision.family ≠ []) ∧
      after.channel.course.Pairwise fun earlier later =>
        ∀ route ∈ earlier.kernel.managed t.model.table decision.family,
          route.forwardsVia winner.gateway
              ((t.model.linkNamed? winner.interface).map (·.index)) = true →
            route ∈ later.kernel.managed t.model.table decision.family := by
  have oif :
      winnerOif t.model decision = (t.model.linkNamed? winner.interface).map (·.index) := by
    rw [winnerOif, chosen]
    rfl
  have ofFamily : ∀ other ∈ decision.winner, other.family = decision.family := by
    intro other alsoChosen
    cases chosen.symm.trans alsoChosen
    exact winnerFamily
  have sustained :=
    reconcile_keeps (sustained_execute_planned chosen sameTable inStep ofFamily)
      keeps_sustained_reread fun _ _ held => held
  have plain := follows_reconcile decision t.watched
  rw [ended] at sustained plain
  have pairwise := sustained.pairwise
  obtain ⟨rest, course⟩ := Watched.Proceeds.course_eq_cons sustained
  refine ⟨plain, sustained.begins, sustained.chain.imp fun _ _ advances => advances.asked,
    fun something s member => ?_, pairwise.imp fun sustains => oif ▸ sustains.kept⟩
  rw [course] at member pairwise
  rcases List.mem_cons.1 member with rfl | later
  · exact something
  · exact ((List.pairwise_cons.1 pairwise).1 s later).occupied something

/-- Before, between and after three requests, of which the last loses the connection, there is a
default route, and the new one is never gone again. -/
theorem default_throughout_interrupted :
    ∃ outcome after,
      (reconcile wired).runFrom interrupted.watched = (outcome, after) ∧
        after.channel.course.length = 4 ∧
        (∀ s ∈ after.channel.course, s.kernel.managed 254 .inet ≠ []) ∧
        after.channel.course.Pairwise fun earlier later =>
          ∀ route ∈ earlier.kernel.managed 254 .inet,
            route.forwardsVia (.v4 0x0a000001#32) (some 2) = true →
              route ∈ later.kernel.managed 254 .inet := by
  have asked : ((reconcile wired).runFrom interrupted.watched).2.channel.course.length = 4 := by
    decide +kernel
  have inStep : interrupted.model.InStep interrupted.channel.kernel wired.family :=
    inStep_crowded
  have something : interrupted.channel.kernel.managed 254 .inet ≠ [] := by decide +kernel
  have oif : (interrupted.model.linkNamed? "eth0").map (·.index) = some 2 := by decide +kernel
  cases ended : (reconcile wired).runFrom interrupted.watched with
  | mk outcome after =>
      rw [ended] at asked
      have ⟨_, _, _, occupied, kept⟩ :=
        default_throughout rfl rfl (by decide +kernel) inStep ended
      rw [oif] at kept
      exact ⟨outcome, after, rfl, asked, occupied something, kept⟩

end Reconciler

end DefaultGateway
