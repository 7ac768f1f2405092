import DefaultGateway.Proofs.Settling

/-!
# Batches of events

Where a list of events is cut into batches, the engine decides and reconciles in between. That
changes the default routes that it knows of and nothing else, and default routes have no part in
what events make of the rest, nor in any decision. So the cuts show in nothing but the default
routes.
-/

namespace DefaultGateway

namespace Model

/-! ## Events take no account of default routes -/

namespace SameButDefaults

variable {m n : Model}

theorem noteLink (same : m.SameButDefaults n) (link : Link) :
    (m.noteLink link).1.SameButDefaults (n.noteLink link).1 := by
  obtain ⟨defaults, rfl⟩ := same
  have sameLink : link? { m with defaults := defaults } link.index = m.link? link.index := rfl
  simp only [Model.noteLink, sameLink]
  split
  · exact ⟨_, rfl⟩
  · exact ⟨_, rfl⟩

theorem dropLink (same : m.SameButDefaults n) (index : LinkIndex) :
    (m.dropLink index).1.SameButDefaults (n.dropLink index).1 := by
  obtain ⟨_, rfl⟩ := same
  simp only [Model.dropLink]
  split
  · exact ⟨_, rfl⟩
  · exact ⟨_, rfl⟩

theorem addRoute (same : m.SameButDefaults n) (route : Route) (replacing : Bool) :
    (m.addRoute route replacing).1.SameButDefaults (n.addRoute route replacing).1 := by
  have ensured : (m.ensureOif route).SameButDefaults (n.ensureOif route) := by
    obtain ⟨defaults, rfl⟩ := same
    rw [ensureOif_eq, ensureOif_eq]
    exact ⟨defaults, rfl⟩
  simp only [Model.addRoute]
  split
  · exact (sameButDefaults_addDefaultRoute _ route replacing).symm.trans <|
      ensured.trans (sameButDefaults_addDefaultRoute _ route replacing)
  · obtain ⟨defaults, ensured⟩ := ensured
    rw [ensured]
    simp only [addLinkRoute]
    split
    · exact ⟨defaults, rfl⟩
    · exact ⟨defaults, rfl⟩

theorem dropRoute (same : m.SameButDefaults n) (route : Route) :
    (m.dropRoute route).1.SameButDefaults (n.dropRoute route).1 := by
  cases isDefault : route.isDefault with
  | true =>
      exact (sameButDefaults_dropRoute m isDefault).symm.trans <|
        same.trans (sameButDefaults_dropRoute n isDefault)
  | false =>
      obtain ⟨defaults, rfl⟩ := same
      simp only [Model.dropRoute, isDefault, Bool.not_false, if_true]
      exact ⟨defaults, rfl⟩

theorem apply (same : m.SameButDefaults n) (event : Event) :
    (m.apply event).1.SameButDefaults (n.apply event).1 := by
  cases event with
  | linkAdd link => exact same.noteLink link
  | linkUp link => exact same.noteLink link
  | linkDown link => exact same.noteLink link
  | linkDelete index => exact same.dropLink index
  | addressAdd a =>
      obtain ⟨defaults, rfl⟩ := same
      simp only [Model.apply, applyAddressEvent, addAddress, ensureLink_eq]
      exact ⟨defaults, rfl⟩
  | addressDelete a =>
      obtain ⟨defaults, rfl⟩ := same
      exact ⟨defaults, rfl⟩
  | routeAdd route => exact same.addRoute route false
  | routeChange route => exact same.addRoute route true
  | routeDelete route => exact same.dropRoute route

theorem applyEvents (same : m.SameButDefaults n) (events : List Event) :
    (Engine.applyEvents m events).1.SameButDefaults (Engine.applyEvents n events).1 := by
  induction events generalizing m n with
  | nil => exact same
  | cons event rest inductionHypothesis => exact inductionHypothesis (same.apply event)

end SameButDefaults

end Model

namespace Engine

/-! ## Runs -/

variable {σ : Type} [RouteChannel σ]

/-- Handles batches of events, one after another. -/
def handleBatches : List (List Event) → Step (Engine σ) Unit
  | [] => return
  | batch :: rest => do
    let _ ← handleEvents batch
    handleBatches rest

omit [RouteChannel σ] in
/-- An engine that has handled some events, in however many batches: its decisions are up to date,
and default routes apart it knows what the events make of what was known. -/
structure Handled (e : Engine σ) (events : List Event) (after : Engine σ) : Prop where
  model : (applyEvents e.model events).1.SameButDefaults after.model
  policy : after.policy = e.policy
  options : after.options = e.options
  coherent : after.Coherent

variable {e between after : Engine σ} {events more : List Event}

omit [RouteChannel σ] in
theorem Handled.nothing (coherent : e.Coherent) : Handled e [] e where
  model := .refl e.model
  policy := rfl
  options := rfl
  coherent := coherent

omit [RouteChannel σ] in
theorem Handled.append
    (first : Handled e events between) (second : Handled between more after) :
    Handled e (events ++ more) after where
  model := by
    rw [applyEvents_append]
    exact (first.model.applyEvents more).trans second.model
  policy := second.policy.trans first.policy
  options := second.options.trans first.options
  coherent := second.coherent

omit [RouteChannel σ] in
theorem Handled.decision_eq (handled : Handled e events after) (family : Family) :
    after.decision family = (applyEvents e.model events).1.evaluate e.policy e.options family := by
  rw [handled.coherent.decision_eq, evaluate, handled.policy, handled.options,
    handled.model.evaluate_eq]

omit [RouteChannel σ] in
/-- Decisions and default routes apart, an engine is as it was. -/
structure Unmoved (e after : Engine σ) : Prop where
  tidy : after.model.Tidy
  model : e.model.SameButDefaults after.model
  policy : after.policy = e.policy
  options : after.options = e.options

theorem Unmoved.outcome {turn : Turn σ} (unmoved : Unmoved e turn.engine) :
    Unmoved e turn.outcome.2 where
  tidy :=
    (Reconciler.continues_reconcile turn.engine.toManaged turn.decision).updated.tidy unmoved.tidy
  model :=
    unmoved.model.trans (Reconciler.sameButDefaults_reconcile unmoved.tidy turn.decision)
  policy := unmoved.policy
  options := unmoved.options

theorem unmoved_reevaluate (families : List Family) (tidy : e.model.Tidy) :
    Unmoved e ((reevaluate families).runFrom e).2 :=
  (forall_turnsOf (fun _ => Unmoved.outcome) families ⟨tidy, .refl e.model, rfl, rfl⟩).2

theorem handled_handleEvents
    {reports : List Report} (coherent : e.Coherent)
    (done : (handleEvents events).runFrom e = (.ok reports, after)) : Handled e events after := by
  have coherentAfter := coherent_of_handleEvents coherent done
  rw [handleEvents, Step.runFrom_bind_of_ok (runFrom_changeModel _ e)] at done
  have tidy : (applyEvents e.model events).1.Tidy :=
    (applyEvents_spec e.model events).1.tidy coherent.tidy
  have unmoved :=
    unmoved_reevaluate (e := { e with model := (applyEvents e.model events).1 })
      (Family.all.filter (applyEvents e.model events).2.contains) tidy
  rw [done] at unmoved
  exact ⟨unmoved.model, unmoved.policy, unmoved.options, coherentAfter⟩

theorem handled_handleBatches
    {batches : List (List Event)} (coherent : e.Coherent)
    (done : (handleBatches batches).runFrom e = (.ok (), after)) :
    Handled e batches.flatten after := by
  induction batches generalizing e with
  | nil =>
      cases done
      exact .nothing coherent
  | cons batch rest inductionHypothesis =>
      obtain ⟨reports, between, first, later⟩ := Step.ok_of_runFrom_bind done
      have handled := handled_handleEvents coherent first
      exact handled.append (inductionHypothesis handled.coherent later)

/-- However a list of events is cut into batches, when all are handled the interfaces, addresses,
link routes and candidates are those that the whole list leaves when handled at once, and so are
the decisions. That its default routes are managed ones, an engine has from its set-up. -/
theorem handleBatches_flatten
    {batches : List (List Event)} {cut whole : Engine σ} {reports : List Report}
    (coherent : e.Coherent)
    (piecewise : (handleBatches batches).runFrom e = (.ok (), cut))
    (atOnce : (handleEvents batches.flatten).runFrom e = (.ok reports, whole)) :
    cut.model.links = whole.model.links ∧ cut.model.addresses = whole.model.addresses ∧
      cut.model.linkRoutes = whole.model.linkRoutes ∧
      cut.model.candidates = whole.model.candidates ∧
      ∀ family, cut.decision family = whole.decision family := by
  have first := handled_handleBatches coherent piecewise
  have second := handled_handleEvents coherent atOnce
  obtain ⟨defaults, same⟩ := second.model.symm.trans first.model
  rw [same]
  exact ⟨rfl, rfl, rfl, rfl, fun family =>
    (first.decision_eq family).trans (second.decision_eq family).symm⟩

/-- Gateways are known on both interfaces, and the second one is chosen. -/
def serving : Engine Kernel.Session where
  channel := { kernel := { twoUplinks.kernel with
    routes := [.defaultVia .inet (.v4 0x0a010001#32) (some 3) 254 0] } }
  model := { Model.empty 254 with
    links := .ofList twoUplinks.kernel.links
    addresses := .ofList twoUplinks.kernel.addresses
    defaults := ⟨.ofList [.defaultVia .inet (.v4 0x0a010001#32) (some 3) 254 0], ∅⟩
    candidates := .ofList [
      ⟨.dhcp, .inet, "eth0", .v4 0x0a000001#32, none, 1⟩,
      ⟨.dhcp, .inet, "wlan0", .v4 0x0a010001#32, none, 2⟩] }
  reconciler := { table := 254, metric := 0 }
  policy := {}
  options := {}
  decisions := ⟨⟨.inet, some ⟨.dhcp, .inet, "wlan0", .v4 0x0a010001#32, none, 2⟩⟩, .none .inet6⟩
  lastVersion := 2

/-- All addresses are taken away and given back. -/
def readdressing : List (List Event) := [
  twoUplinks.kernel.addresses.map .addressDelete,
  [],
  twoUplinks.kernel.addresses.map .addressAdd]

/-- In batches the default route is deleted and added again, at once it stays. -/
theorem handleBatches_readdressing :
    let cut := ((handleBatches readdressing).runFrom serving).2
    let whole := ((handleEvents readdressing.flatten).runFrom serving).2
    cut.channel.requests.length = 2 ∧ whole.channel.requests = [] ∧
      cut.model.addresses = whole.model.addresses ∧ cut.decision .inet = whole.decision .inet ∧
      (cut.decision .inet).gateway = some (.v4 0x0a010001#32) := by
  intro cut whole
  have coherent : serving.Coherent := by
    have consistent : ∀ c ∈ serving.model.candidates.toList, c.Consistent := by decide +kernel
    refine ⟨fun family => ?_, consistent, fun family _ => ?_⟩
    · cases family
      · decide +kernel
      · decide +kernel
    · cases family
      · decide +kernel
      · decide +kernel
  have piecewise : (handleBatches readdressing).runFrom serving = (.ok (), cut) :=
    Step.runFrom_eq_of_ok (by decide +kernel)
  have atOnce :
      (handleEvents readdressing.flatten).runFrom serving =
        (.ok [⟨.inet, .noOp, .skipped⟩], whole) :=
    Step.runFrom_eq_of_ok (by decide +kernel)
  obtain ⟨-, addresses, -, -, decisions⟩ := handleBatches_flatten coherent piecewise atOnce
  exact ⟨by decide +kernel, by decide +kernel, addresses, decisions .inet, by decide +kernel⟩

end Engine

end DefaultGateway
