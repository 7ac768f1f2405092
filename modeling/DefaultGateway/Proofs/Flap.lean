import DefaultGateway.Proofs.Settling

/-!
# An interface that goes down and comes back

When an interface goes down, kernel and model lose the routes through it alike, so they stay in
step, and each of the two events settles both families. What is known afterwards is what was known
before, but for those routes; so the same gateways are chosen again, unless one had been in reach by
such a route only.
-/

namespace DefaultGateway

open Kernel (Session)

namespace Kernel

variable {k : Kernel} {table : UInt32} {family : Family}

/-- What the kernel does with the routes through an interface that goes down. -/
def flushRoutesOn (k : Kernel) (index : LinkIndex) : Kernel :=
  { k with routes := k.routes.filter (·.oif != some index) }

theorem managed_flushRoutesOn
    (k : Kernel) (index : LinkIndex) (table : UInt32) (family : Family) :
    (k.flushRoutesOn index).managed table family =
      (k.managed table family).filter (·.oif != some index) :=
  List.filter_comm ..

theorem Orderly.flushRoutesOn (orderly : k.Orderly table family) (index : LinkIndex) :
    (k.flushRoutesOn index).Orderly table family := by
  have sublist :
      ((k.flushRoutesOn index).managed table family).Sublist (k.managed table family) := by
    rw [managed_flushRoutesOn]
    exact List.filter_sublist
  exact
    { canonical := fun r member => orderly.canonical r (sublist.mem member)
      stored := fun r member => orderly.stored r (sublist.mem member)
      distinct := orderly.distinct.sublist (sublist.map Route.metric) }

end Kernel

namespace Model

variable {m n : Model} {k : Kernel} {family : Family} {link : Link} {index : LinkIndex}
  {options : SelectionOptions} {c : Candidate}

/-! ## The two events -/

theorem InStep.flushRoutesOn (inStep : m.InStep k family) (index : LinkIndex) :
    (m.flushRoutesOn index).InStep (k.flushRoutesOn index) family where
  orderly := inStep.orderly.flushRoutesOn index
  mirrors r := by
    have known := inStep.mirrors r
    rw [defaultRoutes, KeyedSet.mem_toList] at known
    rw [Kernel.managed_flushRoutesOn, List.mem_filter, defaultRoutes, KeyedSet.mem_toList,
      Model.flushRoutesOn, PerFamily.get_map, KeyedSet.mem_filter, known]

theorem InStep.putLink (inStep : m.InStep k family) (link : Link) :
    (m.putLink link).1.InStep k family :=
  ⟨inStep.orderly, inStep.mirrors⟩

theorem applyEvents_linkDown (known : link ∈ m.links) (up : link.up = true) :
    Engine.applyEvents m [.linkDown { link with up := false }] =
      ((m.putLink { link with up := false }).1.flushRoutesOn link.index, Family.all) := by
  have found : m.link? link.index = some link := KeyedSet.find?_key_of_mem known
  have other : link ≠ { link with up := false } := fun same => by
    rw [congrArg Link.up same] at up
    cases up
  simp [Engine.applyEvents, apply, applyLinkEvent, noteLink, putLink, found, up, other,
    Event.families]

theorem applyEvents_linkUp (other : m.link? link.index ≠ some link) (up : link.up = true) :
    Engine.applyEvents m [.linkUp link] = ((m.putLink link).1, Family.all) := by
  simp [Engine.applyEvents, apply, applyLinkEvent, noteLink, putLink, other, up, Event.families]

/-- An interface that has been down leaves no other trace than that the routes through it are
gone. -/
theorem sameButDefaults_putLink_back
    (known : link ∈ m.links)
    (same :
      ((m.putLink { link with up := false }).1.flushRoutesOn link.index).SameButDefaults n) :
    (m.flushRoutesOn link.index).SameButDefaults (n.putLink link).1 := by
  obtain ⟨defaults, rfl⟩ := same
  have sameIndex : ({ link with up := false } : Link).index = link.index := rfl
  have back : (m.links.insert { link with up := false }).insert link = m.links := by
    rw [KeyedSet.insert_insert_key m.links sameIndex, KeyedSet.insert_of_mem known]
  refine ⟨defaults, ?_⟩
  simp only [Model.putLink, Model.flushRoutesOn, back]

/-! ## Gateways that are in reach without the routes through an interface -/

/-- A candidate could be chosen, but could not without the link routes through an interface. -/
def RestsOnRoutesThrough
    (m : Model) (options : SelectionOptions) (index : LinkIndex) (c : Candidate) : Prop :=
  m.eligibility options c = .eligible ∧ (m.flushRoutesOn index).eligibility options c ≠ .eligible

instance : Decidable (m.RestsOnRoutesThrough options index c) :=
  inferInstanceAs (Decidable (_ ∧ _))

/-- With fewer routes no gateway comes into reach. -/
theorem eligible_of_eligible_flushRoutesOn
    (eligible : (m.flushRoutesOn index).eligibility options c = .eligible) :
    m.eligibility options c = .eligible := by
  obtain ⟨enabled, link, named, up, source, reached⟩ := eligibility_eq_eligible_iff.1 eligible
  refine eligibility_eq_eligible_iff.2 ⟨enabled, link, named, up, source, fun required => ?_⟩
  rcases reaches_eq_true_iff.1 (reached required) with linkLocal | address | ⟨route, member, through⟩
  · exact reaches_eq_true_iff.2 (.inl linkLocal)
  · exact reaches_eq_true_iff.2 (.inr (.inl address))
  · exact reaches_eq_true_iff.2 (.inr (.inr ⟨route, (KeyedSet.mem_filter.1 member).1, through⟩))

theorem evaluate_flushRoutesOn
    (free : ∀ c ∈ m.candidates, ¬ m.RestsOnRoutesThrough options index c) (policy : Policy)
    (family : Family) :
    (m.flushRoutesOn index).evaluate policy options family =
      m.evaluate policy options family := by
  have sameEligible :
      (m.flushRoutesOn index).eligibleOf options family = m.eligibleOf options family := by
    refine List.filter_congr fun c listed => ?_
    rw [Bool.eq_iff_iff, Eligibility.isEligible, Eligibility.isEligible, beq_iff_eq, beq_iff_eq]
    refine ⟨eligible_of_eligible_flushRoutesOn, fun eligible => ?_⟩
    by_contra lost
    exact free c (mem_candidatesOf.1 listed).1 ⟨eligible, lost⟩
  rw [evaluate, evaluate, sameEligible]

end Model

namespace Engine

variable {e : Engine Session} {link : Link}

/-- The kernel has dropped the routes through an interface, and the engine has not been told. -/
def flushed (e : Engine Session) (index : LinkIndex) : Engine Session :=
  { e with channel := { e.channel with kernel := e.channel.kernel.flushRoutesOn index } }

/-- Both events are handled, and both families are settled on what had been known before, without
the routes through the interface. -/
theorem settled_flap
    (faultFree : e.channel.FaultFree) (sameTable : e.reconciler.table = e.model.table)
    (inStep : ∀ family, e.model.InStep e.channel.kernel family)
    (known : link ∈ e.model.links) (up : link.up = true) :
    ∃ reports between more after,
      (handleEvents [.linkDown { link with up := false }]).runFrom (e.flushed link.index) =
          (.ok reports, between) ∧
        (handleEvents [.linkUp link]).runFrom between = (.ok more, after) ∧
        (e.model.flushRoutesOn link.index).SameButDefaults after.model ∧
        ∀ family, Settled { e with model := e.model.flushRoutesOn link.index } after family := by
  -- Told of what the kernel has done already, the model is in step with it again.
  obtain ⟨reports, between, handledDown, aligned, -⟩ :=
    settled_handleEvents (e := e.flushed link.index) (Model.applyEvents_linkDown known up)
      ⟨faultFree.mutations, faultFree.dumps⟩ sameTable
      fun family => ((inStep family).putLink _).flushRoutesOn link.index
  have other : between.model.link? link.index ≠ some link := by
    obtain ⟨_, reached⟩ := aligned.model
    rw [reached, Model.link?, Model.flushRoutesOn, Model.putLink, KeyedSet.find?_insert, if_pos rfl]
    intro same
    rw [← congrArg Link.up (Option.some.inj same)] at up
    cases up
  obtain ⟨more, after, handledUp, alignedAfter, settled⟩ :=
    settled_handleEvents (Model.applyEvents_linkUp other up) aligned.faultFree aligned.sameTable
      fun family => (aligned.inStep family).putLink link
  -- Both families are settled on a model that has the interface back, which default routes apart
  -- is the one from before.
  have back := Model.sameButDefaults_putLink_back known aligned.model
  exact ⟨reports, between, more, after, handledDown, handledUp, back.trans alignedAfter.model,
    fun family =>
      (settled family (Family.mem_all family)).of_sameButDefaults back aligned.policy
        aligned.options⟩

/-- When an interface that is up has gone down and come back, all is known that was known before,
but for the link routes through it. Unless somebody's eligibility rested on these alone, the
decisions are those from before, and the kernel's default routes go through the gateways chosen
again. That model and reconciler are about one table, an engine has from its set-up. -/
theorem recovered_of_flap
    (decided : ∀ family, e.decision family = e.evaluate family)
    (faultFree : e.channel.FaultFree) (sameTable : e.reconciler.table = e.model.table)
    (inStep : ∀ family, e.model.InStep e.channel.kernel family)
    (known : link ∈ e.model.links) (up : link.up = true) :
    ∃ reports between more after,
      (handleEvents [.linkDown { link with up := false }]).runFrom (e.flushed link.index) =
          (.ok reports, between) ∧
        (handleEvents [.linkUp link]).runFrom between = (.ok more, after) ∧
        after.model.links = e.model.links ∧ after.model.addresses = e.model.addresses ∧
        after.model.candidates = e.model.candidates ∧ after.model.disabled = e.model.disabled ∧
        (∀ route,
          route ∈ after.model.linkRoutes ↔
            route ∈ e.model.linkRoutes ∧ route.oif ≠ some link.index) ∧
        ((∀ c ∈ e.model.candidates, ¬ e.model.RestsOnRoutesThrough e.options link.index c) →
          ∀ family,
            after.decision family = e.decision family ∧
              ((e.decision family).winner = none →
                after.channel.kernel.managed e.model.table family = []) ∧
              ∀ winner ∈ (e.decision family).winner,
                ∃ through,
                  e.model.linkNamed? winner.interface = some through ∧
                    after.channel.kernel.managed e.model.table family ≠ [] ∧
                    ∀ route ∈ after.channel.kernel.managed e.model.table family,
                      route.forwardsVia winner.gateway (some through.index) = true) := by
  obtain ⟨reports, between, more, after, down, back, same, settled⟩ :=
    settled_flap faultFree sameTable inStep known up
  obtain ⟨defaults, reached⟩ := same
  refine ⟨reports, between, more, after, down, back, by rw [reached]; rfl, by rw [reached]; rfl,
    by rw [reached]; rfl, by rw [reached]; rfl, fun route => ?_, fun free family => ?_⟩
  · rw [reached, Model.flushRoutesOn, KeyedSet.mem_filter, bne_iff_ne]
  · have sameDecision :
        evaluate { e with model := e.model.flushRoutesOn link.index } family =
          e.decision family :=
      (Model.evaluate_flushRoutesOn free e.policy family).trans (decided family).symm
    refine ⟨(settled family).decided.trans sameDecision, fun nobody => ?_, fun winner chosen => ?_⟩
    · rw [← sameDecision] at nobody
      exact (settled family).suits.cleared nobody
    · rw [← sameDecision] at chosen
      obtain ⟨through, named, -, served⟩ := (settled family).served chosen
      exact ⟨through, named, served⟩

theorem firstNetwork_length_le : 24 ≤ (Address.v4 0x0a000000#32).family.width := by decide

/-- The second interface serves both families, and only the first family has a gateway elsewhere. -/
def dualStack : Engine Session where
  channel := { kernel := { twoUplinks.kernel with
    routes := [
      .defaultVia .inet (.v4 0x0a010001#32) (some 3) 254 0,
      .defaultVia .inet6 (.v6 0xfe800000000000000000000000000001#128) (some 3) 254 0,
      ⟨⟨.v4 0x0a000000#32, 24, firstNetwork_length_le⟩, none, some 2, 254, 0⟩,
      ⟨⟨.v4 0x0a010000#32, 24, by decide⟩, none, some 3, 254, 0⟩] } }
  model := { Model.empty 254 with
    links := .ofList twoUplinks.kernel.links
    addresses := .ofList twoUplinks.kernel.addresses
    linkRoutes := .ofList [
      ⟨⟨.v4 0x0a000000#32, 24, firstNetwork_length_le⟩, none, some 2, 254, 0⟩,
      ⟨⟨.v4 0x0a010000#32, 24, by decide⟩, none, some 3, 254, 0⟩]
    defaults := ⟨
      .ofList [.defaultVia .inet (.v4 0x0a010001#32) (some 3) 254 0],
      .ofList [.defaultVia .inet6 (.v6 0xfe800000000000000000000000000001#128) (some 3) 254 0]⟩
    candidates := .ofList [
      ⟨.dhcp, .inet, "eth0", .v4 0x0a000001#32, none, 1⟩,
      ⟨.dhcp, .inet, "wlan0", .v4 0x0a010001#32, none, 2⟩,
      ⟨.ra, .inet6, "wlan0", .v6 0xfe800000000000000000000000000001#128, none, 3⟩] }
  reconciler := { table := 254, metric := 0 }
  policy := {}
  options := {}
  decisions := ⟨
    ⟨.inet, some ⟨.dhcp, .inet, "wlan0", .v4 0x0a010001#32, none, 2⟩⟩,
    ⟨.inet6, some ⟨.ra, .inet6, "wlan0", .v6 0xfe800000000000000000000000000001#128, none, 3⟩⟩⟩
  lastVersion := 3

/-- While the interface is down one family makes do with the other gateway and one with none; when
it is back, both have the gateways and default routes from before. -/
theorem recovered_of_flap_dualStack :
    ∃ reports between more after,
      (handleEvents [.linkDown ⟨3, some "wlan0", false⟩]).runFrom (dualStack.flushed 3) =
          (.ok reports, between) ∧
        (handleEvents [.linkUp ⟨3, some "wlan0", true⟩]).runFrom between = (.ok more, after) ∧
        between.channel.kernel.managed 254 .inet =
          [.defaultVia .inet (.v4 0x0a000001#32) (some 2) 254 0] ∧
        between.channel.kernel.managed 254 .inet6 = [] ∧
        ∀ family,
          after.decision family = dualStack.decision family ∧
            after.channel.kernel.managed 254 family =
              dualStack.channel.kernel.managed 254 family := by
  have meanwhile :
      let between :=
        ((handleEvents [.linkDown ⟨3, some "wlan0", false⟩]).runFrom (dualStack.flushed 3)).2
      between.channel.kernel.managed 254 .inet =
          [.defaultVia .inet (.v4 0x0a000001#32) (some 2) 254 0] ∧
        between.channel.kernel.managed 254 .inet6 = [] := by
    decide +kernel
  have back (family : Family) :
      let between :=
        ((handleEvents [.linkDown ⟨3, some "wlan0", false⟩]).runFrom (dualStack.flushed 3)).2
      let after := ((handleEvents [.linkUp ⟨3, some "wlan0", true⟩]).runFrom between).2
      after.channel.kernel.managed 254 family = dualStack.channel.kernel.managed 254 family := by
    cases family
    · decide +kernel
    · decide +kernel
  have decided (family : Family) : dualStack.decision family = dualStack.evaluate family := by
    cases family
    · decide +kernel
    · decide +kernel
  have inStep (family : Family) : dualStack.model.InStep dualStack.channel.kernel family := by
    have same :
        dualStack.model.defaultRoutes family =
          dualStack.channel.kernel.managed dualStack.model.table family := by
      cases family
      · decide +kernel
      · decide +kernel
    refine ⟨?_, fun route => by rw [same]⟩
    cases family
    · exact ⟨by decide +kernel, by decide +kernel, by decide +kernel⟩
    · exact ⟨by decide +kernel, by decide +kernel, by decide +kernel⟩
  have free :
      ∀ c ∈ dualStack.model.candidates.toList,
        ¬ dualStack.model.RestsOnRoutesThrough dualStack.options 3 c := by
    decide +kernel
  have known : (⟨3, some "wlan0", true⟩ : Link) ∈ dualStack.model.links := by decide +kernel
  obtain ⟨reports, between, more, after, down, up, -, -, -, -, -, recovered⟩ :=
    recovered_of_flap decided ⟨by decide +kernel, by decide +kernel⟩ rfl inStep known rfl
  have down :
      (handleEvents [.linkDown ⟨3, some "wlan0", false⟩]).runFrom (dualStack.flushed 3) =
        (.ok reports, between) := down
  rw [down] at meanwhile
  simp only [down, up] at back
  exact ⟨reports, between, more, after, down, up, meanwhile.1, meanwhile.2, fun family =>
    ⟨(recovered free family).1, back family⟩⟩

end Engine

end DefaultGateway
