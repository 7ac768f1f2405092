import DefaultGateway.Proofs.Backstop
import DefaultGateway.Proofs.Changes
import DefaultGateway.Proofs.Remaining

/-!
# Echoes of the daemon's own requests

The kernel tells of what it has changed to everyone who listens, and so to the one who has asked for
the change. By then the model has recorded it: a route that was put in is known, and one that was
deleted has left none behind that fits its description. So the echo changes nothing, whenever it
comes and however often, and no request follows from it.
-/

namespace DefaultGateway

open Kernel (Session Request)

/-! ## What the kernel tells -/

namespace Kernel

/-- What the kernel makes of a request to which nothing else happens, and what it tells of that. -/
def carry (k : Kernel) : Request → Kernel × Option Event
  | .add route =>
    match k.add route with
    | .ok after => (after, some (.routeAdd route.stored))
    | .error _ => (k, none)
  | .replace route => (k.replace route, some (.routeChange route.stored))
  | .delete route =>
    match k.delete route with
    | .ok after => (after, (k.routes.find? (deletes route.stored)).map .routeDelete)
    | .error _ => (k, none)
  | .dumpLinks | .dumpAddresses | .dumpRoutes _ | .reopen => (k, none)

def carryAll (k : Kernel) : List Request → Kernel × List Event
  | [] => (k, [])
  | request :: rest =>
    let (after, notice) := k.carry request
    let (last, notices) := after.carryAll rest
    (last, notice.toList ++ notices)

variable {k after : Kernel} {table : UInt32} {family : Family} {route : Route}

theorem carryAll_append (k : Kernel) (first second : List Request) :
    k.carryAll (first ++ second) =
      (((k.carryAll first).1.carryAll second).1,
        (k.carryAll first).2 ++ ((k.carryAll first).1.carryAll second).2) := by
  induction first generalizing k with
  | nil => rfl
  | cons request rest inductionHypothesis =>
      simp only [List.cons_append, carryAll, inductionHypothesis, List.append_assoc]

/-- The kernel tells of the deletion of the very route that was to be deleted. -/
theorem carry_delete
    (orderly : k.Orderly table family) (member : route ∈ k.managed table family)
    (granted : k.delete route = .ok after) :
    k.carry (.delete route) = (after, some (.routeDelete route)) := by
  have standard := orderly.standard member
  have fits : deletes route route = true := by
    rw [deletes_eq_of_mem_managed orderly standard member,
      deletes_iff_of_mem_managed orderly member member]
  have found : k.routes.find? (deletes route) = some route := by
    cases found : k.routes.find? (deletes route) with
    | none => exact absurd fits (List.find?_eq_none.1 found route (List.mem_filter.1 member).1)
    | some other =>
        have alsoFits := List.find?_some found
        have alsoThere : other ∈ k.managed table family :=
          List.mem_filter.2
            ⟨List.mem_of_find?_eq_some found, isManaged_of_deletes standard alsoFits⟩
        rw [deletes_eq_of_mem_managed orderly standard alsoThere,
          deletes_iff_of_mem_managed orderly member alsoThere] at alsoFits
        rw [alsoFits]
  simp only [carry, granted, standard.stored, found, Option.map_some]

end Kernel

/-- Between two states the kernel was sent requests, has carried out what it could, and has told of
it. -/
structure Told
    (t u : Managed Session) (issued : List Request) (notices : List Event) : Prop where
  requests : u.channel.requests = t.channel.requests ++ issued
  carried : t.channel.kernel.carryAll issued = (u.channel.kernel, notices)

namespace Told

variable {t u v : Managed Session} {issued more : List Request} {notices further : List Event}

theorem refl (t : Managed Session) : Told t t [] [] where
  requests := (List.append_nil _).symm
  carried := rfl

theorem trans (first : Told t u issued notices) (second : Told u v more further) :
    Told t v (issued ++ more) (notices ++ further) where
  requests := by rw [second.requests, first.requests, List.append_assoc]
  carried := by
    simp only [Kernel.carryAll_append, first.carried, second.carried]

end Told

/-! ## Routes that have been recorded -/

namespace Model

variable {m : Model} {k after : Kernel} {family other : Family} {route : Route}
  {routes : List Route}

/-- The model without some of the default routes of a family. -/
def without (m : Model) (family : Family) (routes : List Route) : Model :=
  { m with
    defaults := m.defaults.set family ((m.defaults.get family).filter (· ∉ routes)) }

theorem without_nil (m : Model) (family : Family) : m.without family [] = m := by
  have all : (m.defaults.get family).filter (· ∉ ([] : List Route)) = m.defaults.get family :=
    KeyedSet.filter_eq_self fun _ _ => by simp
  rw [without, all, PerFamily.set_get]

theorem mem_defaults_without {r : Route} :
    r ∈ (m.without family routes).defaults.get family ↔
      r ∈ m.defaults.get family ∧ r ∉ routes := by
  simp [without]

theorem without_cons (m : Model) (family : Family) (route : Route) (routes : List Route) :
    (m.without family [route]).without family routes = m.without family (route :: routes) := by
  have both :
      ((m.defaults.get family).filter (· ∉ [route])).filter (· ∉ routes) =
        (m.defaults.get family).filter (· ∉ route :: routes) := by
    apply KeyedSet.ext
    intro r
    simp [and_assoc]
  simp only [without, PerFamily.get_set_self, both, PerFamily.set_set]

/-- Of the default routes, a deletion that is granted drops the one that is to be deleted. -/
theorem recordWithdrawn_eq_without
    (inStep : m.InStep k family) (known : route ∈ m.defaultRoutes family) :
    m.recordWithdrawn route = m.without family [route] := by
  have member := (inStep.mirrors route).1 known
  have dropped :
      (m.defaults.get family).filter (!deletes route ·) =
        (m.defaults.get family).filter (· ∉ [route]) := by
    apply KeyedSet.ext
    intro r
    simp only [KeyedSet.mem_filter, Bool.not_eq_true', List.mem_singleton, decide_eq_true_eq]
    refine and_congr_right fun listed => ?_
    have there := (inStep.mirrors r).1 listed
    have fits := Kernel.deletes_iff_of_mem_managed inStep.orderly member there
    rw [← fits, Bool.not_eq_true]
  rw [recordWithdrawn_eq (inStep.orderly.standard member), dropped, without]

/-- Putting a route of another family into the kernel and recording it keep model and kernel in
step. -/
theorem InStep.replace_of_ne
    (inStep : m.InStep k family) (standard : route.Standard m.table other)
    (apart : family ≠ other) : (m.recordInstalled route).InStep (k.replace route) family := by
  have same :
      (k.replace route).managed m.table family = k.managed m.table family :=
    Kernel.managed_eq_of_foreign_eq apart (Kernel.foreign_replace standard)
  refine ⟨?_, fun r => ?_⟩
  · rw [table_recordInstalled]
    exact inStep.orderly.of_managed_eq same
  · rw [table_recordInstalled, same, defaultRoutes_recordInstalled_of_ne standard apart]
    exact inStep.mirrors r

/-- The deletion of a route is told in vain once the route has been dropped. -/
theorem dropRoute_without
    (inStep : m.InStep k family) (known : ∀ route ∈ routes, route ∈ m.defaultRoutes family)
    (listed : route ∈ routes) :
    (m.without family routes).dropRoute route = (m.without family routes, false) := by
  have member := (inStep.mirrors route).1 (known route listed)
  have standard := inStep.orderly.standard member
  refine dropRoute_of_gone standard.isDefault fun r left => ?_
  rw [standard.family_eq] at left
  obtain ⟨there, unlisted⟩ := mem_defaults_without.1 left
  have fits := Kernel.deletes_iff_of_mem_managed inStep.orderly member ((inStep.mirrors r).1 there)
  cases deleted : deletes route r with
  | false => rfl
  | true => exact absurd (fits.1 deleted ▸ listed) unlisted

/-- A route is told in vain once it has been recorded, if it has not been dropped since. -/
theorem addRoute_without
    (standard : route.Standard m.table other) (kept : other = family → route ∉ routes)
    (replacing : Bool) :
    ((m.recordInstalled route).without family routes).addRoute route replacing =
      ((m.recordInstalled route).without family routes, false) := by
  have there : route ∈ (m.recordInstalled route).defaults.get other :=
    standard.family_eq ▸ mem_defaults_addRoute standard.isDefault standard.table true
  refine addRoute_of_known standard.isDefault (fun oif through => ?_) (fun _ => ?_) replacing
  · have links : (m.recordInstalled route).links = (m.ensureOif route).links :=
      (links_addRoute m route true).1
    have kept : ((m.recordInstalled route).without family routes).links =
        (m.recordInstalled route).links := rfl
    rw [kept, links]
    exact containsKey_ensureOif m through
  · rw [standard.family_eq]
    by_cases ours : other = family
    · subst ours
      exact mem_defaults_without.2 ⟨there, kept rfl⟩
    · simpa only [without, PerFamily.get_set_of_ne _ ours] using there

end Model

namespace Reconciler

variable {t u : Managed Session} {decision : Decision} {family other : Family} {route : Route}
  {routes : List Route}

/-! ## Actions, and what is told of them -/

/-- An action that succeeds from one state to another; whatever the kernel tells of it finds
nothing to do. -/
structure Echoless
    (t u : Managed Session) (issued : List Request) (notices : List Event) : Prop where
  told : Told t u issued notices
  granted : notices.length = issued.length
  silent : ∀ notice ∈ notices, u.model.apply notice = (u.model, false)

/-- A request that the kernel grants is carried out, told of, and recorded. -/
theorem told_submit
    (faultFree : u.channel.FaultFree) (request : Request) (operation : Operation)
    (change : Kernel → Except Errno Kernel) (record : Model → Model) {after : Kernel}
    {notice : Event} (granted : change u.channel.kernel = .ok after)
    (carried : u.channel.kernel.carry request = (after, some notice)) :
    ∃ v,
      (Managed.submit (Session.mutate request operation change) record).runFrom u = (.ok (), v) ∧
        Told u v [request] [notice] ∧ v.channel.FaultFree ∧ v.channel.kernel = after ∧
        v.model = record u.model := by
  obtain ⟨next, asked, kernel, stillFree⟩ := faultFree.mutate_eq granted
  have requests := Session.requests_of_mutate request operation change u.channel
  rw [asked] at requests
  rw [Managed.runFrom_submit, asked]
  refine ⟨_, rfl, ⟨requests, ?_⟩, stillFree, kernel, rfl⟩
  simp only [Kernel.carryAll, carried, kernel, Option.toList_some, List.append_nil]

theorem told_withdrawAll
    (faultFree : u.channel.FaultFree) (inStep : u.model.InStep u.channel.kernel family)
    (nodup : routes.Nodup) (known : ∀ route ∈ routes, route ∈ u.model.defaultRoutes family) :
    ∃ v,
      (withdrawAll routes).runFrom u = (.ok (), v) ∧
        Told u v (routes.map .delete) (routes.map .routeDelete) ∧
        v.model = u.model.without family routes := by
  induction routes generalizing u with
  | nil => exact ⟨u, rfl, .refl u, (Model.without_nil u.model family).symm⟩
  | cons route rest inductionHypothesis =>
      obtain ⟨unlisted, nodupRest⟩ := List.nodup_cons.1 nodup
      have ⟨here, later⟩ := List.forall_mem_cons.1 known
      have member := (inStep.mirrors route).1 here
      have standard := inStep.orderly.standard member
      obtain ⟨after, granted⟩ := Kernel.delete_of_mem_managed standard member
      obtain ⟨v, submitted, told, stillFree, kernel, recorded⟩ :=
        told_submit faultFree (.delete route) .deleteRoute (·.delete route)
          (·.recordWithdrawn route) granted
          (Kernel.carry_delete inStep.orderly member granted)
      have stillInStep : v.model.InStep v.channel.kernel family := by
        rw [recorded, kernel]
        exact inStep.delete standard granted
      rw [Model.recordWithdrawn_eq_without inStep here] at recorded
      -- What is still to be deleted is not what has just been deleted, so it is still there.
      have knownLater : ∀ other ∈ rest, other ∈ v.model.defaultRoutes family := by
        intro other listed
        rw [recorded]
        refine Model.mem_defaults_without.2 ⟨later other listed, fun same => ?_⟩
        exact unlisted (List.mem_singleton.1 same ▸ listed)
      obtain ⟨w, withdrawn, toldLater, left⟩ :=
        inductionHypothesis stillFree stillInStep nodupRest knownLater
      refine ⟨w, ?_, told.trans toldLater, ?_⟩
      · rw [withdrawAll_cons]
        exact (Step.runFrom_bind_of_ok submitted).trans withdrawn
      · rw [left, recorded, Model.without_cons]

/-- Of routes that were deleted nothing is left that the news of it could drop. -/
theorem echoless_withdrawAll
    (faultFree : u.channel.FaultFree) (inStep : u.model.InStep u.channel.kernel family)
    (nodup : routes.Nodup) (known : ∀ route ∈ routes, route ∈ u.model.defaultRoutes family) :
    ∃ v issued notices,
      (withdrawAll routes).runFrom u = (.ok (), v) ∧ Echoless u v issued notices := by
  obtain ⟨v, withdrawn, told, left⟩ := told_withdrawAll faultFree inStep nodup known
  refine ⟨v, _, _, withdrawn, told, by simp, fun notice member => ?_⟩
  obtain ⟨route, listed, rfl⟩ := List.mem_map.1 member
  rw [left]
  exact Model.dropRoute_without inStep known listed

/-- A route that was added is known when the news of it comes. -/
theorem echoless_install
    (faultFree : u.channel.FaultFree) (standard : route.Standard u.model.table other)
    (free : ∀ r ∈ u.channel.kernel.routes, Kernel.sameSlot route r = false) :
    ∃ v issued notices,
      (execute (.install route)).runFrom u = (.ok (), v) ∧ Echoless u v issued notices := by
  have granted := (Kernel.add_eq_ok_iff standard).2 ⟨free, rfl⟩
  have carried :
      u.channel.kernel.carry (.add route) =
        (u.channel.kernel.replace route, some (.routeAdd route)) := by
    simp only [Kernel.carry, granted, standard.stored]
  obtain ⟨v, submitted, told, -, -, recorded⟩ :=
    told_submit faultFree (.add route) .addRoute (·.add route) (·.recordInstalled route)
      granted carried
  refine ⟨v, _, _, submitted, told, rfl, fun notice member => ?_⟩
  rw [List.mem_singleton.1 member, recorded,
    ← Model.without_nil (u.model.recordInstalled route) other]
  exact Model.addRoute_without standard (fun _ => List.not_mem_nil) false

/-- A route that replaces others is known when the news of it comes, and those others are gone. -/
theorem echoless_replace
    (faultFree : u.channel.FaultFree) (inStep : u.model.InStep u.channel.kernel family)
    (standard : route.Standard u.model.table other) :
    ∃ v issued notices,
      (execute (.replace (u.model.defaultRoutes family) route)).runFrom u = (.ok (), v) ∧
        Echoless u v issued notices := by
  have carried :
      u.channel.kernel.carry (.replace route) =
        (u.channel.kernel.replace route, some (.routeChange route)) := by
    simp only [Kernel.carry, standard.stored]
  obtain ⟨v, submitted, told, stillFree, kernel, recorded⟩ :=
    told_submit faultFree (.replace route) .replaceRoute (fun k => .ok (k.replace route))
      (·.recordInstalled route) rfl carried
  have left (r : Route) := mem_leftovers inStep route (r := r)
  have stillInStep : v.model.InStep v.channel.kernel family := by
    rw [recorded, kernel]
    by_cases ours : family = other
    · subst ours
      exact inStep.replace standard
    · exact inStep.replace_of_ne standard ours
  -- A route left behind has another metric, or is of another family.
  have known :
      ∀ r ∈ leftovers (u.model.defaultRoutes family) route, r ∈ v.model.defaultRoutes family := by
    intro r listed
    obtain ⟨there, apart⟩ := (left r).1 listed
    rw [recorded]
    by_cases ours : family = other
    · subst ours
      rw [(inStep.replace standard).mirrors r, Model.table_recordInstalled]
      exact (Kernel.mem_managed_replace inStep.orderly standard).2 (.inr ⟨there, apart⟩)
    · rw [Model.defaultRoutes_recordInstalled_of_ne standard ours]
      exact (inStep.mirrors r).2 there
  have nodup : (leftovers (u.model.defaultRoutes family) route).Nodup :=
    (Model.nodup_defaultRoutes u.model family).sublist List.eraseP_sublist
  obtain ⟨w, withdrawn, toldLater, gone⟩ :=
    told_withdrawAll stillFree stillInStep nodup known
  refine ⟨w, _, _, ?_, told.trans toldLater, by simp, fun notice member => ?_⟩
  · rw [execute_replace]
    exact (Step.runFrom_bind_of_ok submitted).trans withdrawn
  · rw [gone]
    rcases List.mem_append.1 member with new | old
    · rw [List.mem_singleton.1 new, recorded]
      exact Model.addRoute_without standard (fun _ listed => ((left route).1 listed).2 rfl) true
    · obtain ⟨r, listed, rfl⟩ := List.mem_map.1 old
      exact Model.dropRoute_without stillInStep known listed

/-- Where the place of a new route is taken, nothing is changed: the routes are read again. -/
theorem told_install_refused
    (faultFree : t.channel.FaultFree) (action : planned t decision = .install route)
    (taken : t.channel.kernel.add route = .error .inUse) :
    ∃ report after,
      (reconcile decision).runFrom t = (.ok report, after) ∧
        Told t after [.add route, .dumpRoutes (some decision.family)] [] := by
  have refused :
      (execute (.install route)).runFrom t =
        (.error (.kernel .addRoute .inUse),
          { t with channel := t.channel.afterMutation (.add route) }) := by
    have asked :
        (RouteChannel.addRoute route).runFrom t.channel =
          (.error (.kernel .addRoute .inUse), t.channel.afterMutation (.add route)) := by
      refine (Session.runFrom_mutate ..).trans ?_
      rw [Session.join_head?_eq_none faultFree.mutations]
      simp only [taken]
    rw [execute_install, Managed.runFrom_submit, asked]
  have read :
      (RouteChannel.dumpRoutes (some decision.family)).runFrom
          (t.channel.afterMutation (.add route)) =
        (.ok (t.channel.kernel.routesOf (some decision.family)),
          (t.channel.afterMutation (.add route)).afterDump
            (.dumpRoutes (some decision.family))) := by
    refine (Session.runFrom_dump ..).trans ?_
    rw [Session.afterMutation, Session.join_head?_eq_none faultFree.dumps]
  rw [runFrom_reconcile, action, if_neg (by simp [Action.isNoOp]), refused]
  have settled :
      (settleFailure decision.family (.install route) (.kernel .addRoute .inUse) :
          Step (Managed Session) Status) =
        reread decision.family >>= fun _ => pure (.resynced .inUse) :=
    resynced_eq decision.family .inUse
  have again := runFrom_reread decision.family
    { t with channel := t.channel.afterMutation (.add route) }
  simp only [read] at again
  simp only [settled, bind_assoc, pure_bind]
  rw [Step.runFrom_bind_of_ok again]
  refine ⟨_, _, rfl, ?_, ?_⟩
  · simp [Session.afterDump, Session.afterMutation]
  · simp [Kernel.carryAll, Kernel.carry, taken, Session.afterDump, Session.afterMutation]

/-! ## The whole of a reconciliation -/

theorem standard_target
    (sameTable : t.reconciler.table = t.model.table) (winner : Candidate)
    (oif : Option LinkIndex) :
    (t.reconciler.target winner oif).Standard t.model.table winner.family := by
  rw [target, sameTable]
  exact Route.standard_defaultVia ..

/-- Where nothing fails, either the planned action succeeds and is told of in vain, or a route is to
be installed whose place is taken, which is then of another family than the decision. -/
theorem echoless_execute_planned
    (faultFree : t.channel.FaultFree) (sameTable : t.reconciler.table = t.model.table)
    (inStep : t.model.InStep t.channel.kernel decision.family) :
    (∃ u issued notices,
        (execute (planned t decision)).runFrom t = (.ok (), u) ∧ Echoless t u issued notices) ∨
      ∃ route,
        planned t decision = .install route ∧
          t.channel.kernel.add route = .error .inUse ∧
          ¬ ∀ winner ∈ decision.winner, winner.family = decision.family := by
  have shape := planCase_planned t decision
  have listed := Model.nodup_defaultRoutes t.model decision.family
  generalize planned t decision = action at shape
  cases shape with
  | absent => exact .inl ⟨t, [], [], rfl, .refl t, rfl, by simp⟩
  | unwanted =>
      exact .inl (echoless_withdrawAll faultFree inStep listed fun _ member => member)
  | first winner chosen nothing =>
      have standard := standard_target sameTable winner (winnerOif t.model decision)
      cases taken : t.channel.kernel.routes.any
          (Kernel.sameSlot (t.reconciler.target winner (winnerOif t.model decision))) with
      | false => exact .inl (echoless_install faultFree standard (by simpa using taken))
      | true =>
          refine .inr ⟨_, rfl, ?_, fun winnerFamily => ?_⟩
          · rw [Kernel.add, standard.stored, if_pos taken]
          · rw [winnerFamily winner chosen] at standard
            obtain ⟨r, member, slot⟩ := List.any_eq_true.1 taken
            have free := Kernel.free_of_managed_eq_nil standard
              (inStep.mirrors.managed_eq_nil nothing)
            rw [free r member] at slot
            cases slot
  | foreign winner chosen something others =>
      exact .inl (echoless_replace faultFree inStep (standard_target sameTable winner _))
  | inPlace => exact .inl ⟨t, [], [], rfl, .refl t, rfl, by simp⟩
  | strays winner chosen current stray =>
      exact .inl <|
        echoless_withdrawAll faultFree inStep (listed.filter _) fun _ member =>
          (List.mem_filter.1 member).1

end Reconciler

namespace Engine

/-- Events that find everything as they tell it concern no family. -/
theorem applyEvents_of_silent
    {m : Model} {events : List Event} (silent : ∀ event ∈ events, m.apply event = (m, false)) :
    applyEvents m events = (m, []) := by
  induction events with
  | nil => rfl
  | cons event rest inductionHypothesis =>
      have ⟨here, later⟩ := List.forall_mem_cons.1 silent
      simp only [applyEvents, here, inductionHypothesis later, Bool.false_eq_true, if_false]

/-- Where they are handled, nothing is decided and nothing asked. -/
theorem handleEvents_of_silent
    {σ : Type} [RouteChannel σ] {e : Engine σ} {events : List Event}
    (silent : ∀ event ∈ events, e.model.apply event = (e.model, false)) :
    (handleEvents events).runFrom e = (.ok [], e) := by
  rw [handleEvents, Step.runFrom_bind_of_ok (runFrom_changeModel _ e),
    applyEvents_of_silent silent]
  rfl

end Engine

namespace Reconciler

variable {t : Managed Session} {decision : Decision}

/-- Where nothing fails, whatever the kernel tells of the requests of a reconciliation is told in
vain: in whatever order it comes and however often, it changes nothing, and an engine that handles
it decides nothing and sends no request. All of the requests are granted and told of, as long as the
winner is of the family it was chosen for. -/
theorem silent_of_reconcile
    (faultFree : t.channel.FaultFree) (sameTable : t.reconciler.table = t.model.table)
    (inStep : t.model.InStep t.channel.kernel decision.family) :
    ∃ report after issued notices,
      (reconcile decision).runFrom t = (.ok report, after) ∧
        after.channel.requests = t.channel.requests ++ issued ∧
        t.channel.kernel.carryAll issued = (after.channel.kernel, notices) ∧
        ((∀ winner ∈ decision.winner, winner.family = decision.family) →
          notices.length = issued.length) ∧
        (∀ notice ∈ notices, after.model.apply notice = (after.model, false)) ∧
        ∀ events, (∀ event ∈ events, event ∈ notices) →
          ∀ e : Engine Session, e.toManaged = after →
            (Engine.handleEvents events).runFrom e = (.ok [], e) := by
  obtain ⟨report, after, issued, notices, ended, told, granted, silent⟩ :
      ∃ report after issued notices,
        (reconcile decision).runFrom t = (.ok report, after) ∧
          Told t after issued notices ∧
          ((∀ winner ∈ decision.winner, winner.family = decision.family) →
            notices.length = issued.length) ∧
          ∀ notice ∈ notices, after.model.apply notice = (after.model, false) := by
    rcases echoless_execute_planned faultFree sameTable inStep with
      ⟨u, issued, notices, executed, told, granted, silent⟩ | ⟨route, action, taken, foreign⟩
    · exact
        ⟨_, _, issued, notices, runFrom_reconcile_of_ok executed,
          ⟨told.requests, told.carried⟩, fun _ => granted, silent⟩
    · obtain ⟨report, after, ended, told⟩ := told_install_refused faultFree action taken
      exact ⟨report, after, _, _, ended, told, fun ours => absurd ours foreign, by simp⟩
  refine ⟨report, after, issued, notices, ended, told.requests, told.carried, granted, silent, ?_⟩
  rintro events echoes e rfl
  exact Engine.handleEvents_of_silent fun event member => silent event (echoes event member)

/-- Two default routes of the second family, with the metric that the kernel records for none and
with another. -/
def doublyServed : Kernel where
  links := [⟨2, some "eth0", true⟩]
  routes := [
    .defaultVia .inet6 (.v6 0xfe800000000000000000000000000001#128) (some 2) 254 0,
    .defaultVia .inet6 (.v6 0xfe800000000000000000000000000002#128) (some 2) 254 512]

def served : Managed Session where
  channel := { kernel := doublyServed }
  model := seenIn doublyServed
  reconciler := { table := 254, metric := 0 }

/-- A third gateway has been chosen. -/
def thirdGateway : Decision where
  family := .inet6
  winner := some ⟨.ra, .inet6, "eth0", .v6 0xfe800000000000000000000000000003#128, none, 1⟩

/-- The kernel tells of a replacement and of a deletion. -/
theorem silent_of_reconcile_doublyServed :
    ∃ report after,
      (reconcile thirdGateway).runFrom served = (.ok report, after) ∧
        after.channel.requests.length = 2 ∧
        ∀ e : Engine Session, e.toManaged = after →
          (Engine.handleEvents [
              .routeDelete
                (.defaultVia .inet6 (.v6 0xfe800000000000000000000000000002#128) (some 2) 254 512),
              .routeChange
                (.defaultVia .inet6 (.v6 0xfe800000000000000000000000000003#128) (some 2) 254 0),
              .routeDelete
                (.defaultVia .inet6 (.v6 0xfe800000000000000000000000000002#128)
                  (some 2) 254 512)]).runFrom e =
            (.ok [], e) := by
  have inStep : served.model.InStep served.channel.kernel thirdGateway.family :=
    inStep_seenIn ⟨by decide +kernel, by decide +kernel, by decide +kernel⟩
  have faultFree : served.channel.FaultFree := ⟨by decide +kernel, by decide +kernel⟩
  have sent :
      ((reconcile thirdGateway).runFrom served).2.channel.requests = [
        .replace (.defaultVia .inet6 (.v6 0xfe800000000000000000000000000003#128) (some 2) 254 0),
        .delete
          (.defaultVia .inet6 (.v6 0xfe800000000000000000000000000002#128) (some 2) 254 512)] := by
    decide +kernel
  obtain ⟨report, after, issued, notices, ended, requests, carried, -, -, silent⟩ :=
    silent_of_reconcile faultFree (by decide +kernel) inStep
  rw [ended] at sent
  have told : notices = (doublyServed.carryAll after.channel.requests).2 := by
    rw [requests]
    exact (congrArg Prod.snd carried).symm
  refine ⟨report, after, ended, by rw [sent]; rfl, silent _ ?_⟩
  rw [told, sent]
  decide +kernel

end Reconciler

end DefaultGateway
