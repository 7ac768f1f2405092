import DefaultGateway.Proofs.Ground

/-!
# Changes of what is known of the kernel

Whatever the kernel reports, the table, the candidates and the disabled selectors stay as they
are, and under each family there are only default routes of that family in the managed table. The
ground of a selection moves only with the events that name its family, and only if they report a
change.
-/

namespace DefaultGateway

/-- Whether a route is one of the default routes of a family in a table. -/
def Route.isManaged (table : UInt32) (family : Family) (r : Route) : Bool :=
  r.isDefault && r.family == family && r.table == table

theorem Route.isManaged_iff
    {table : UInt32} {family : Family} {r : Route} :
    r.isManaged table family = true ↔
      r.isDefault = true ∧ r.family = family ∧ r.table = table := by
  simp [isManaged, and_assoc]

namespace Model

/-- Under each family stand default routes of that family in the managed table. -/
def Tidy (m : Model) : Prop :=
  ∀ family, ∀ route ∈ m.defaults.get family, route.isManaged m.table family = true

theorem tidy_empty (table : UInt32) : (empty table).Tidy := by
  intro family route member
  cases family with
  | inet => exact absurd member (KeyedSet.not_mem_empty route)
  | inet6 => exact absurd member (KeyedSet.not_mem_empty route)

/-- One model differs from another in facts about the kernel only, and the default routes it has
in addition are managed ones. -/
structure UpdatesFacts (m n : Model) : Prop where
  table : n.table = m.table
  candidates : n.candidates = m.candidates
  disabled : n.disabled = m.disabled
  defaults :
    ∀ family, ∀ route ∈ n.defaults.get family,
      route ∈ m.defaults.get family ∨ route.isManaged m.table family = true

namespace UpdatesFacts

variable {m n o : Model}

theorem refl (m : Model) : UpdatesFacts m m where
  table := rfl
  candidates := rfl
  disabled := rfl
  defaults _ _ member := .inl member

theorem trans
    (first : UpdatesFacts m n) (second : UpdatesFacts n o) : UpdatesFacts m o where
  table := second.table.trans first.table
  candidates := second.candidates.trans first.candidates
  disabled := second.disabled.trans first.disabled
  defaults family route member := by
    rcases second.defaults family route member with earlier | managed
    · exact first.defaults family route earlier
    · rw [first.table] at managed
      exact .inr managed

theorem tidy (updated : UpdatesFacts m n) (tidy : m.Tidy) : n.Tidy := by
  intro family route member
  rw [updated.table]
  rcases updated.defaults family route member with earlier | managed
  · exact tidy family route earlier
  · exact managed

/-- A change that drops default routes at most. -/
theorem of_subset
    (table : n.table = m.table) (candidates : n.candidates = m.candidates)
    (disabled : n.disabled = m.disabled)
    (subset : ∀ family, ∀ route ∈ n.defaults.get family, route ∈ m.defaults.get family) :
    UpdatesFacts m n where
  table := table
  candidates := candidates
  disabled := disabled
  defaults family route member := .inl (subset family route member)

end UpdatesFacts

/-! ## Single changes -/

theorem updatesFacts_putLink (m : Model) (link : Link) :
    UpdatesFacts m (m.putLink link).1 :=
  .of_subset rfl rfl rfl fun _ _ member => member

theorem updatesFacts_ensureLink (m : Model) (index : LinkIndex) :
    UpdatesFacts m (m.ensureLink index) := by
  unfold ensureLink
  split
  · exact .refl m
  · exact .of_subset rfl rfl rfl fun _ _ member => member

theorem updatesFacts_ensureOif (m : Model) (route : Route) :
    UpdatesFacts m (m.ensureOif route) := by
  unfold ensureOif
  split
  · exact updatesFacts_ensureLink m _
  · exact .refl m

theorem updatesFacts_flushRoutesOn (m : Model) (index : LinkIndex) :
    UpdatesFacts m (m.flushRoutesOn index) := by
  refine .of_subset rfl rfl rfl fun family route member => ?_
  rw [flushRoutesOn, PerFamily.get_map, KeyedSet.mem_filter] at member
  exact member.1

theorem updatesFacts_noteLink (m : Model) (link : Link) :
    UpdatesFacts m (m.noteLink link).1 := by
  simp only [noteLink]
  split
  · exact (updatesFacts_putLink m link).trans (updatesFacts_flushRoutesOn _ _)
  · exact updatesFacts_putLink m link

theorem updatesFacts_dropLink (m : Model) (index : LinkIndex) :
    UpdatesFacts m (m.dropLink index).1 := by
  unfold dropLink
  split
  · refine .trans ?_ (updatesFacts_flushRoutesOn _ index)
    exact .of_subset rfl rfl rfl fun _ _ member => member
  · exact .refl m

theorem updatesFacts_addAddress (m : Model) (a : InterfaceAddress) :
    UpdatesFacts m (m.addAddress a).1 :=
  (updatesFacts_ensureLink m a.index).trans <|
    .of_subset rfl rfl rfl fun _ _ member => member

theorem updatesFacts_dropAddress (m : Model) (a : InterfaceAddress) :
    UpdatesFacts m (m.dropAddress a).1 :=
  .of_subset rfl rfl rfl fun _ _ member => member

theorem updatesFacts_addLinkRoute (m : Model) (route : Route) (replacing : Bool) :
    UpdatesFacts m (m.addLinkRoute route replacing).1 := by
  unfold addLinkRoute
  split
  · exact .refl m
  · exact .of_subset rfl rfl rfl fun _ _ member => member

theorem updatesFacts_addDefaultRoute
    (m : Model) {route : Route} (isDefault : route.isDefault = true)
    (replacing : Bool) :
    UpdatesFacts m (m.addDefaultRoute route replacing).1 := by
  unfold addDefaultRoute
  split
  · exact .refl m
  · rename_i sameTable
    simp only [ne_eq, Decidable.not_not] at sameTable
    simp only
    split
    · exact .refl m
    · refine ⟨rfl, rfl, rfl, fun family other member => ?_⟩
      by_cases ours : family = route.family
      · subst ours
        simp only [PerFamily.get_set_self, KeyedSet.mem_insert_sorted] at member
        rcases member with rfl | kept
        · exact .inr (Route.isManaged_iff.2 ⟨isDefault, rfl, sameTable⟩)
        · split at kept
          · exact .inl (KeyedSet.mem_filter.1 kept).1
          · exact .inl kept
      · simp only [PerFamily.get_set_of_ne _ ours] at member
        exact .inl member

theorem updatesFacts_addRoute (m : Model) (route : Route) (replacing : Bool) :
    UpdatesFacts m (m.addRoute route replacing).1 := by
  refine (updatesFacts_ensureOif m route).trans ?_
  simp only [addRoute]
  split
  · rename_i isDefault
    exact updatesFacts_addDefaultRoute _ isDefault replacing
  · exact updatesFacts_addLinkRoute _ route replacing

theorem updatesFacts_dropRoute (m : Model) (route : Route) :
    UpdatesFacts m (m.dropRoute route).1 := by
  unfold dropRoute
  split
  · exact .of_subset rfl rfl rfl fun _ _ member => member
  · split
    · exact .refl m
    · refine .of_subset rfl rfl rfl fun family other member => ?_
      by_cases ours : family = route.family
      · subst ours
        simp only [PerFamily.get_set_self, KeyedSet.mem_filter] at member
        exact member.1
      · simpa only [PerFamily.get_set_of_ne _ ours] using member

theorem updatesFacts_resyncRoutes (m : Model) (family : Family) (routes : List Route) :
    UpdatesFacts m (m.resyncRoutes family routes).1 := by
  refine ⟨rfl, rfl, rfl, fun other route member => ?_⟩
  by_cases ours : other = family
  · subst ours
    simp only [resyncRoutes, PerFamily.get_set_self, KeyedSet.mem_ofList_sorted,
      List.mem_filter] at member
    exact .inr member.2
  · simp only [resyncRoutes, PerFamily.get_set_of_ne _ ours] at member
    exact .inl member

/-! ## Events and snapshots -/

theorem updatesFacts_apply (m : Model) (event : Event) :
    UpdatesFacts m (m.apply event).1 := by
  cases event with
  | linkAdd link => exact updatesFacts_noteLink m link
  | linkUp link => exact updatesFacts_noteLink m link
  | linkDown link => exact updatesFacts_noteLink m link
  | linkDelete index => exact updatesFacts_dropLink m index
  | addressAdd a => exact updatesFacts_addAddress m a
  | addressDelete a => exact updatesFacts_dropAddress m a
  | routeAdd route => exact updatesFacts_addRoute m route false
  | routeChange route => exact updatesFacts_addRoute m route true
  | routeDelete route => exact updatesFacts_dropRoute m route

theorem updatesFacts_foldl
    {ι : Type} {change : Model → ι → Model}
    (single : ∀ m i, UpdatesFacts m (change m i)) (l : List ι) (m : Model) :
    UpdatesFacts m (l.foldl change m) := by
  induction l generalizing m with
  | nil => exact .refl m
  | cons first rest inductionHypothesis =>
      exact (single m first).trans (inductionHypothesis _)

theorem updatesFacts_ofSnapshot (table : UInt32) (s : Snapshot) :
    UpdatesFacts (empty table) (ofSnapshot table s) := by
  have links := updatesFacts_foldl updatesFacts_putLink s.links (empty table)
  have addresses := updatesFacts_foldl updatesFacts_addAddress s.addresses
    (s.links.foldl (fun m link => (m.putLink link).1) (empty table))
  exact (links.trans addresses).trans <|
    updatesFacts_foldl (fun m route => updatesFacts_addRoute m route false) s.routes _

theorem updatesFacts_replaceFacts (m : Model) (s : Snapshot) :
    UpdatesFacts m (m.replaceFacts s).1 where
  table := (updatesFacts_ofSnapshot m.table s).table
  candidates := rfl
  disabled := rfl
  defaults family route member := by
    have fresh := updatesFacts_ofSnapshot m.table s
    have managed := fresh.tidy (tidy_empty m.table) family route member
    rw [fresh.table] at managed
    exact .inr managed

/-! ## The ground of a selection -/

theorem sameGround_of_defaults
    (family : Family) (m : Model) (defaults : PerFamily (SortedSet Route)) :
    SameGround family m { m with defaults := defaults } where
  named _ := rfl
  addresses _ _ := Iff.rfl
  linkRoutes _ _ := Iff.rfl
  candidates := rfl
  disabled := rfl

/-- An interface known by its index alone has no name under which it could be found. -/
theorem sameGround_ensureLink
    (family : Family) (m : Model) (index : LinkIndex) :
    SameGround family m (m.ensureLink index) := by
  unfold ensureLink
  split
  · exact .refl family m
  · rename_i missing
    -- A placeholder is put in nobody's place and has no name, so no look-up by name finds it.
    simp only [Bool.not_eq_true, KeyedSet.containsKey_eq_false_iff] at missing
    refine ⟨fun name => ?_, fun _ _ => Iff.rfl, fun _ _ => Iff.rfl, rfl, rfl⟩
    have unseen :
        (m.links.insert (.placeholder index)).filter (·.name == some name) =
          m.links.filter (·.name == some name) :=
      KeyedSet.filter_insert_of_refused rfl
        fun link member tie => absurd tie (missing link member)
    simp only [linkNamed?, KeyedSet.find?_toList_eq_head?, unseen]

theorem sameGround_ensureOif
    (family : Family) (m : Model) (route : Route) :
    SameGround family m (m.ensureOif route) := by
  unfold ensureOif
  split
  · exact sameGround_ensureLink family m _
  · exact .refl family m

theorem sameGround_addDefaultRoute
    (family : Family) (m : Model) (route : Route) (replacing : Bool) :
    SameGround family m (m.addDefaultRoute route replacing).1 := by
  unfold addDefaultRoute
  split
  · exact .refl family m
  · simp only
    split
    · exact .refl family m
    · exact sameGround_of_defaults family m _

/-- What the reconciler records of a granted route does not touch the ground. -/
theorem sameGround_recordInstalled
    (family : Family) (m : Model) {route : Route} (isDefault : route.isDefault = true) :
    SameGround family m (m.recordInstalled route) := by
  refine (sameGround_ensureOif family m route).trans ?_
  simp only [recordInstalled, addRoute, isDefault, if_true]
  exact sameGround_addDefaultRoute family _ route true

theorem sameGround_recordWithdrawn
    (family : Family) (m : Model) {route : Route} (isDefault : route.isDefault = true) :
    SameGround family m (m.recordWithdrawn route) := by
  simp only [recordWithdrawn, dropRoute, isDefault, Bool.not_true, Bool.false_eq_true,
    if_false]
  split
  · exact .refl family m
  · exact sameGround_of_defaults family m _

theorem sameGround_resyncRoutes
    (family ofDump : Family) (m : Model) (routes : List Route) :
    SameGround family m (m.resyncRoutes ofDump routes).1 :=
  sameGround_of_defaults family m _

/-- A link report that changes nothing leaves the model as it is. -/
theorem noteLink_eq_of_unchanged
    {m : Model} {link : Link} (unchanged : (m.noteLink link).2 = false) :
    (m.noteLink link).1 = m := by
  have known : m.link? link.index = some link := by
    simpa [noteLink, putLink] using unchanged
  have member : link ∈ m.links := (KeyedSet.find?_eq_some_iff.1 known).1
  have put : (m.putLink link).1 = m := by
    simp only [putLink, KeyedSet.insert_of_mem member]
  have stillUp : ((m.link? link.index).any (·.up) && !link.up) = false := by
    simp [known]
  simp only [noteLink, stillUp, put]
  rfl

theorem dropLink_eq_of_unchanged
    {m : Model} {index : LinkIndex} (unchanged : (m.dropLink index).2 = false) :
    (m.dropLink index).1 = m := by
  unfold dropLink at unchanged ⊢
  split at unchanged
  · cases unchanged
  · rename_i missing
    rw [if_neg missing]

theorem sameGround_addAddress
    {family : Family} {m : Model} {a : InterfaceAddress}
    (apart : family ≠ a.family ∨ (m.addAddress a).2 = false) :
    SameGround family m (m.addAddress a).1 := by
  refine (sameGround_ensureLink family m a.index).trans
    ⟨fun _ => rfl, fun x ours => ?_, fun _ _ => Iff.rfl, rfl, rfl⟩
  simp only [addAddress, KeyedSet.mem_insert_sorted]
  constructor
  · exact .inr
  · rintro (rfl | known)
    · rcases apart with other | unchanged
      · exact absurd ours.symm other
      · simpa [addAddress] using unchanged
    · exact known

theorem sameGround_dropAddress
    {family : Family} {m : Model} {a : InterfaceAddress}
    (apart : family ≠ a.family ∨ (m.dropAddress a).2 = false) :
    SameGround family m (m.dropAddress a).1 := by
  refine ⟨fun _ => rfl, fun x ours => ?_, fun _ _ => Iff.rfl, rfl, rfl⟩
  simp only [dropAddress, KeyedSet.mem_erase_sorted]
  constructor
  · intro known
    refine ⟨known, ?_⟩
    rintro rfl
    rcases apart with other | unchanged
    · exact other ours.symm
    · exact absurd known (by simpa [dropAddress] using unchanged)
  · exact fun kept => kept.1

/-- A replacing route pushes out routes of its own family only. -/
theorem family_eq_of_sameSlot
    {a b : Route} (same : sameSlot a b = true) : a.family = b.family := by
  simp only [sameSlot, Bool.and_eq_true, beq_iff_eq] at same
  rw [Route.family, same.1.1]
  rfl

theorem sameGround_addLinkRoute
    {family : Family} {m : Model} {route : Route} {replacing : Bool}
    (apart : family ≠ route.family ∨ (m.addLinkRoute route replacing).2 = false) :
    SameGround family m (m.addLinkRoute route replacing).1 := by
  unfold addLinkRoute at apart ⊢
  split
  · exact .refl family m
  · rename_i listed
    rw [if_neg listed] at apart
    refine ⟨fun _ => rfl, fun _ _ => Iff.rfl, fun x ours => ?_, rfl, rfl⟩
    simp only [KeyedSet.mem_insert_sorted]
    cases replacing with
    | false =>
        constructor
        · exact .inr
        · rintro (rfl | known)
          · rcases apart with other | unchanged
            · exact absurd ours.symm other
            · simpa using unchanged
          · exact known
    | true =>
        have other : family ≠ route.family := by
          rcases apart with other | unchanged
          · exact other
          · simp [sameSlot] at unchanged
        constructor
        · intro known
          refine .inr (KeyedSet.mem_filter.2 ⟨known, ?_⟩)
          cases slot : sameSlot x route with
          | false => rfl
          | true => exact absurd (ours.symm.trans (family_eq_of_sameSlot slot)) other
        · rintro (rfl | kept)
          · exact absurd ours.symm other
          · exact (KeyedSet.mem_filter.1 kept).1

theorem sameGround_addRoute
    {family : Family} {m : Model} {route : Route} {replacing : Bool}
    (apart : family ≠ route.family ∨ (m.addRoute route replacing).2 = false) :
    SameGround family m (m.addRoute route replacing).1 := by
  refine (sameGround_ensureOif family m route).trans ?_
  simp only [addRoute] at apart ⊢
  split
  · exact sameGround_addDefaultRoute family _ route replacing
  · rename_i isLinkRoute
    rw [if_neg isLinkRoute] at apart
    exact sameGround_addLinkRoute apart

theorem sameGround_dropRoute
    {family : Family} {m : Model} {route : Route}
    (apart : family ≠ route.family ∨ (m.dropRoute route).2 = false) :
    SameGround family m (m.dropRoute route).1 := by
  cases isDefault : route.isDefault with
  | true => exact sameGround_recordWithdrawn family m isDefault
  | false =>
      simp only [dropRoute, isDefault, Bool.not_false, if_true] at apart ⊢
      refine ⟨fun _ => rfl, fun _ _ => Iff.rfl, fun x ours => ?_, rfl, rfl⟩
      simp only [KeyedSet.mem_erase_sorted]
      constructor
      · intro known
        refine ⟨known, ?_⟩
        rintro rfl
        rcases apart with other | unchanged
        · exact other ours.symm
        · exact absurd known (by simpa using unchanged)
      · exact fun kept => kept.1

/-- An event moves the ground only for the families it names, and only if it changes something. -/
theorem sameGround_apply
    {family : Family} {m : Model} {event : Event}
    (apart : family ∉ event.families ∨ (m.apply event).2 = false) :
    SameGround family m (m.apply event).1 := by
  have unchangedLink (link : Link) (concerned : Event)
      (all : concerned.families = Family.all)
      (apart : family ∉ concerned.families ∨ (m.noteLink link).2 = false) :
      SameGround family m (m.noteLink link).1 := by
    rcases apart with other | unchanged
    · exact absurd (all ▸ Family.mem_all family) other
    · rw [noteLink_eq_of_unchanged unchanged]
      exact .refl family m
  cases event with
  | linkAdd link => exact unchangedLink link (.linkAdd link) rfl apart
  | linkUp link => exact unchangedLink link (.linkUp link) rfl apart
  | linkDown link => exact unchangedLink link (.linkDown link) rfl apart
  | linkDelete index =>
      rcases apart with other | unchanged
      · exact absurd (Family.mem_all family) other
      · have same : (m.dropLink index).1 = m := dropLink_eq_of_unchanged unchanged
        exact same.symm ▸ .refl family m
  | addressAdd a =>
      exact sameGround_addAddress <| apart.imp_left (by simp [Event.families])
  | addressDelete a =>
      exact sameGround_dropAddress <| apart.imp_left (by simp [Event.families])
  | routeAdd route =>
      exact sameGround_addRoute <| apart.imp_left (by simp [Event.families])
  | routeChange route =>
      exact sameGround_addRoute <| apart.imp_left (by simp [Event.families])
  | routeDelete route =>
      exact sameGround_dropRoute <| apart.imp_left (by simp [Event.families])

/-! ## Changes behind the back of every selection -/

/-- A model that differs from another in facts only, while every selection keeps its ground. -/
structure Undisturbed (m n : Model) : Prop where
  updated : UpdatesFacts m n
  ground : ∀ family, SameGround family m n

namespace Undisturbed

theorem refl (m : Model) : Undisturbed m m where
  updated := .refl m
  ground family := .refl family m

theorem trans
    {m n o : Model} (first : Undisturbed m n) (second : Undisturbed n o) :
    Undisturbed m o where
  updated := first.updated.trans second.updated
  ground family := (first.ground family).trans (second.ground family)

end Undisturbed

/-- What is recorded of a granted default route disturbs no selection. -/
theorem undisturbed_recordInstalled
    (m : Model) {route : Route} (isDefault : route.isDefault = true) :
    Undisturbed m (m.recordInstalled route) where
  updated := updatesFacts_addRoute m route true
  ground family := sameGround_recordInstalled family m isDefault

theorem undisturbed_recordWithdrawn
    (m : Model) {route : Route} (isDefault : route.isDefault = true) :
    Undisturbed m (m.recordWithdrawn route) where
  updated := updatesFacts_dropRoute m route
  ground family := sameGround_recordWithdrawn family m isDefault

theorem undisturbed_resyncRoutes
    (m : Model) (family : Family) (routes : List Route) :
    Undisturbed m (m.resyncRoutes family routes).1 where
  updated := updatesFacts_resyncRoutes m family routes
  ground other := sameGround_resyncRoutes other family m routes

end Model

end DefaultGateway
