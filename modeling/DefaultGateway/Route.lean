import DefaultGateway.Link

/-!
Routes of the kernel's tables.
-/

namespace DefaultGateway

structure Route where
  destination : Prefix
  gateway : Option Address
  oif : Option LinkIndex
  table : UInt32
  metric : UInt32
  deriving DecidableEq, Repr, Inhabited

namespace Route

def family (r : Route) : Family := r.destination.family

def isDefault (r : Route) : Bool := r.destination.isDefault

/-- The metric the kernel records for a route requested with `metric`: the second family has no
metric zero and takes 1024 for it. -/
def storedMetric (family : Family) (metric : UInt32) : UInt32 :=
  match family with
  | .inet => metric
  | .inet6 => if metric = 0 then 1024 else metric

/-- The route as the kernel records it. -/
def stored (r : Route) : Route := { r with metric := storedMetric r.family r.metric }

/-- The default route through a gateway, with the metric the kernel will record. -/
def defaultVia (family : Family) (gateway : Address) (oif : Option LinkIndex)
    (table metric : UInt32) : Route where
  destination := .whole family
  gateway := some gateway
  oif := oif
  table := table
  metric := storedMetric family metric

/-- Whether the route sends to a gateway through an interface. An interface that is not known, on
either side, may be any. -/
def forwardsVia (r : Route) (gateway : Address) (oif : Option LinkIndex) : Bool :=
  r.gateway == some gateway &&
    match r.oif, oif with
    | some ours, some theirs => ours == theirs
    | _, _ => true

abbrev compareFields : Route → Route → Ordering :=
  compareLex (compareOn destination) <|
    compareLex (compareOn gateway) <|
      compareLex (compareOn oif) <| compareByThen table metric

instance : Ord Route := ⟨compareFields⟩

instance : Std.TransOrd Route := inferInstanceAs (Std.TransCmp compareFields)

instance : Std.LawfulEqOrd Route :=
  lawfulEqCmp_of_eq fun a b tie => by
    have ⟨sameDestination, tie⟩ := compareLex_eq_eq.1 (show compareFields a b = _ from tie)
    have ⟨sameGateway, tie⟩ := compareLex_eq_eq.1 tie
    have ⟨sameOif, tie⟩ := compareLex_eq_eq.1 tie
    have ⟨sameTable, sameMetric⟩ := compareLex_eq_eq.1 tie
    have sameDestination := (compareOn_eq_iff _ _ _).1 sameDestination
    have sameGateway := (compareOn_eq_iff _ _ _).1 sameGateway
    have sameOif := (compareOn_eq_iff _ _ _).1 sameOif
    have sameTable := (compareOn_eq_iff _ _ _).1 sameTable
    have sameMetric := (compareOn_eq_iff _ _ _).1 sameMetric
    cases a; cases b; simp_all

def text (r : Route) : String :=
  let via := match r.gateway with | some gateway => s!" via {gateway}" | none => ""
  let through := match r.oif with | some oif => s!" oif {oif}" | none => ""
  s!"{r.destination}{via}{through} table {r.table} metric {r.metric}"

instance : ToString Route := ⟨text⟩

@[simp] theorem family_stored (r : Route) : r.stored.family = r.family := rfl

@[simp] theorem family_defaultVia (family : Family) (gateway : Address) (oif : Option LinkIndex)
    (table metric : UInt32) : (defaultVia family gateway oif table metric).family = family := by
  simp [Route.family, defaultVia]

@[simp] theorem isDefault_defaultVia (family : Family) (gateway : Address) (oif : Option LinkIndex)
    (table metric : UInt32) : (defaultVia family gateway oif table metric).isDefault = true := rfl

end Route

end DefaultGateway
