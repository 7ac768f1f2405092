import DefaultGateway.Proofs.Backstop

/-!
# How many default routes are left

A reconciliation deletes the default routes that do not go by the winner, and adds one only where
none goes by the winner. Of several that do it deletes none: they may differ in their metrics, or
in that one of them names no interface. So exactly one is left where at most one went by the winner
before.
-/

namespace DefaultGateway

open Kernel (Session)

theorem Kernel.Orderly.nodup_managed
    {k : Kernel} {table : UInt32} {family : Family} (orderly : k.Orderly table family) :
    (k.managed table family).Nodup := orderly.distinct.of_map

namespace Reconciler

/-- What a kernel with default routes in order is known for is in step with it. -/
theorem inStep_seenIn {k : Kernel} {family : Family} (orderly : k.Orderly 254 family) :
    (seenIn k).InStep k family := by
  have table : (seenIn k).table = 254 := (Model.updatesFacts_ofSnapshot 254 _).table
  refine ⟨table ▸ orderly, fun r => ?_⟩
  rw [table, Kernel.managed, List.mem_filter]
  exact Model.mem_defaults_ofSnapshot 254 k.snapshot family r

variable {t : Managed Session} {decision : Decision} {installed : List Route}
  {oif : Option LinkIndex} {winner : Candidate}

theorem nodup_remaining (r : Reconciler) (nodup : installed.Nodup) :
    (r.remaining installed decision oif).Nodup := by
  rw [remaining]
  split
  · exact List.nodup_nil
  · dsimp only
    split
    · exact List.nodup_singleton _
    · exact nodup.filter _

/-- With a winner one route is left at least, and as many as went by the winner. -/
theorem length_remaining (r : Reconciler) (chosen : decision.winner = some winner) :
    (r.remaining installed decision oif).length =
      max 1 (installed.countP (·.forwardsVia winner.gateway oif)) := by
  by_cases current : ∃ route ∈ installed, route.forwardsVia winner.gateway oif = true
  · have positive := List.countP_pos_iff.2 current
    rw [remaining_of_current chosen current, ← List.countP_eq_length_filter]
    omega
  · have nothing : installed.countP (·.forwardsVia winner.gateway oif) = 0 := by
      simpa [List.countP_eq_zero] using current
    rw [remaining_of_foreign chosen (by simpa using current), nothing]
    rfl

/-- Where nothing fails, a reconciliation succeeds, and leaves of the kernel's default routes what
the decision does. -/
theorem perm_managed_reconcile
    (faultFree : t.channel.FaultFree) (sameTable : t.reconciler.table = t.model.table)
    (inStep : t.model.InStep t.channel.kernel decision.family)
    (winnerFamily : ∀ winner ∈ decision.winner, winner.family = decision.family) :
    ∃ status after,
      (reconcile decision).runFrom t =
          (.ok ⟨decision.family, planned t decision, status⟩, after) ∧
        (status = .skipped ∨ status = .completed) ∧
        (after.channel.kernel.managed t.model.table decision.family).Perm
          (t.reconciler.remaining (t.channel.kernel.managed t.model.table decision.family)
            decision (winnerOif t.model decision)) := by
  obtain ⟨v, executed, left⟩ :=
    remaining_execute_planned faultFree sameTable inStep winnerFamily
  have ended := runFrom_reconcile_of_ok executed
  have abreast := abreast_reconcile sameTable inStep winnerFamily
  rw [ended] at abreast
  have orderly := abreast.inStep.orderly
  rw [abreast.table] at orderly
  refine ⟨_, _, ended, ?_, ?_⟩
  · split
    · exact .inl rfl
    · exact .inr rfl
  · refine (List.perm_ext_iff_of_nodup orderly.nodup_managed ?_).2 left
    exact nodup_remaining _ inStep.orderly.nodup_managed

/-- Where nothing fails, a reconciliation with a winner succeeds, and leaves only default routes
that go by the winner: one, or as many as did so before. So there is exactly one unless several did
so before. -/
theorem length_managed_of_reconcile
    (faultFree : t.channel.FaultFree) (sameTable : t.reconciler.table = t.model.table)
    (inStep : t.model.InStep t.channel.kernel decision.family)
    (chosen : decision.winner = some winner) (winnerFamily : winner.family = decision.family) :
    let oif := (t.model.linkNamed? winner.interface).map (·.index)
    let before := t.channel.kernel.managed t.model.table decision.family
    ∃ report after,
      (reconcile decision).runFrom t = (.ok report, after) ∧
        (report.status = .skipped ∨ report.status = .completed) ∧
        let left := after.channel.kernel.managed t.model.table decision.family
        (∀ route ∈ left, route.forwardsVia winner.gateway oif = true) ∧
          left.length = max 1 (before.countP (·.forwardsVia winner.gateway oif)) ∧
          (left.length = 1 ↔ before.countP (·.forwardsVia winner.gateway oif) ≤ 1) := by
  intro oif before
  have sameOif : winnerOif t.model decision = oif := winnerOif_of_winner t.model chosen
  obtain ⟨status, after, ended, settled, left⟩ :=
    perm_managed_reconcile faultFree sameTable inStep fun other alsoChosen => by
      cases chosen.symm.trans alsoChosen
      exact winnerFamily
  rw [sameOif] at left
  have length := left.length_eq.trans (length_remaining t.reconciler chosen)
  have alone (count : Nat) : max 1 count = 1 ↔ count ≤ 1 := by omega
  refine ⟨_, after, ended, settled, fun route member => ?_, length, ?_⟩
  · exact (suits_remaining ..).only winner chosen route (left.mem_iff.1 member)
  · rw [length]
    exact alone _

/-- Of three default routes none goes by the winner; one that does takes their place. -/
theorem length_managed_unhindered :
    ∃ report after,
      (reconcile wired).runFrom unhindered = (.ok report, after) ∧
        (unhindered.channel.kernel.managed 254 .inet).length = 3 ∧
        (after.channel.kernel.managed 254 .inet).length = 1 := by
  have faultFree : unhindered.channel.FaultFree := ⟨by decide +kernel, by decide +kernel⟩
  have inStep : unhindered.model.InStep unhindered.channel.kernel wired.family := inStep_crowded
  have table : unhindered.model.table = 254 := by decide +kernel
  have oif : (unhindered.model.linkNamed? "eth0").map (·.index) = some 2 := by decide +kernel
  have fewBefore :
      (unhindered.channel.kernel.managed 254 .inet).countP
        (·.forwardsVia (.v4 0x0a000001#32) (some 2)) ≤ 1 := by
    decide +kernel
  have chosen : wired.winner = some ⟨.dhcp, .inet, "eth0", .v4 0x0a000001#32, none, 1⟩ := rfl
  have ended := length_managed_of_reconcile faultFree table.symm inStep chosen rfl
  simp only [table, oif] at ended
  obtain ⟨report, after, ended, -, -, -, alone⟩ := ended
  exact ⟨report, after, ended, by decide +kernel, alone.2 fewBefore⟩

/-- Two default routes by the gateway that has been chosen, of different metrics. -/
def twice : Kernel where
  links := crowded.links
  routes := [
    .defaultVia .inet (.v4 0x0a000001#32) (some 2) 254 0,
    .defaultVia .inet (.v4 0x0a000001#32) (some 2) 254 100]

def doubled : Managed Session where
  channel := { kernel := twice }
  model := seenIn twice
  reconciler := { table := 254, metric := 0 }

/-- Both are left alone, though nothing fails and the model knows them as the kernel does. -/
theorem doubled_left_alone :
    doubled.channel.FaultFree ∧ doubled.reconciler.table = doubled.model.table ∧
      doubled.model.InStep doubled.channel.kernel wired.family ∧
      (doubled.model.linkNamed? "eth0").isSome = true ∧
      (reconcile wired).runFrom doubled = (.ok ⟨.inet, .noOp, .skipped⟩, doubled) ∧
      (doubled.channel.kernel.managed 254 .inet).length = 2 := by
  have idle : planned doubled wired = .noOp := by decide +kernel
  refine ⟨⟨by decide +kernel, by decide +kernel⟩, by decide +kernel, ?_, by decide +kernel,
    runFrom_reconcile_of_noOp idle rfl, by decide +kernel⟩
  exact inStep_seenIn ⟨by decide +kernel, by decide +kernel, by decide +kernel⟩

end Reconciler

end DefaultGateway
