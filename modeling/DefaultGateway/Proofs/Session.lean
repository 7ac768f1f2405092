import DefaultGateway.Kernel
import DefaultGateway.Proofs.Reconciler

/-!
# Requests to a kernel held in memory

Every request is logged and takes the failure that awaits it. A request that fails leaves the
kernel alone, and one that is granted changes it as the kernel sees fit.
-/

namespace DefaultGateway.Kernel.Session

variable {α : Type}

/-- The session after a request that changes something, but for the change. -/
def afterMutation (s : Session) (request : Request) : Session :=
  { s with
    requests := s.requests ++ [request]
    mutationFaults := s.mutationFaults.tail }

/-- The session after a request that only reads. -/
def afterDump (s : Session) (request : Request) : Session :=
  { s with
    requests := s.requests ++ [request]
    dumpFaults := s.dumpFaults.tail }

/-- The failure that awaits a request is taken from its queue. -/
theorem runFrom_takeMutationFault (operation : Operation) (s : Session) :
    (takeMutationFault operation).runFrom s =
      (match s.mutationFaults.head?.join with
        | some fault => .error (fault.toError operation)
        | none => .ok (), { s with mutationFaults := s.mutationFaults.tail }) := by
  obtain ⟨kernel, mutationFaults, dumpFaults, requests⟩ := s
  cases mutationFaults with
  | nil => rfl
  | cons fault rest =>
      cases fault with
      | some fault => rfl
      | none => rfl

theorem runFrom_takeDumpFault (s : Session) :
    takeDumpFault.runFrom s =
      (match s.dumpFaults.head?.join with
        | some fault => .error (fault.toError .dump)
        | none => .ok (), { s with dumpFaults := s.dumpFaults.tail }) := by
  obtain ⟨kernel, mutationFaults, dumpFaults, requests⟩ := s
  cases dumpFaults with
  | nil => rfl
  | cons fault rest =>
      cases fault with
      | some fault => rfl
      | none => rfl

theorem runFrom_mutate
    (request : Request) (operation : Operation) (change : Kernel → Except Errno Kernel)
    (s : Session) :
    (mutate request operation change).runFrom s =
      match s.mutationFaults.head?.join with
      | some fault => (.error (fault.toError operation), s.afterMutation request)
      | none =>
          match change s.kernel with
          | .ok kernel => (.ok (), { s.afterMutation request with kernel := kernel })
          | .error errno => (.error (.kernel operation errno), s.afterMutation request) := by
  rw [mutate, log, Step.runFrom_bind_of_ok (Step.runFrom_modify _ s), Step.runFrom_bind,
    runFrom_takeMutationFault]
  cases s.mutationFaults.head?.join with
  | some fault => rfl
  | none =>
      dsimp only
      rw [Step.runFrom_bind_of_ok (Step.runFrom_get _)]
      cases change s.kernel with
      | ok kernel => rfl
      | error errno => rfl

theorem runFrom_dump
    (request : Request) (answer : Kernel → α) (s : Session) :
    (dump request answer).runFrom s =
      match s.dumpFaults.head?.join with
      | some fault => (.error (fault.toError .dump), s.afterDump request)
      | none => (.ok (answer s.kernel), s.afterDump request) := by
  rw [dump, log, Step.runFrom_bind_of_ok (Step.runFrom_modify _ s), Step.runFrom_bind,
    runFrom_takeDumpFault]
  cases s.dumpFaults.head?.join with
  | some fault => rfl
  | none => rfl

/-- A request either fails and leaves the kernel alone, or the kernel grants it. -/
theorem mutate_cases
    (request : Request) (operation : Operation) (change : Kernel → Except Errno Kernel)
    (s : Session) :
    (∃ error after, (mutate request operation change).runFrom s = (.error error, after) ∧
        after.kernel = s.kernel) ∨
      ∃ after, (mutate request operation change).runFrom s = (.ok (), after) ∧
        change s.kernel = .ok after.kernel := by
  rw [runFrom_mutate]
  cases s.mutationFaults.head?.join with
  | some fault => exact .inl ⟨_, _, rfl, rfl⟩
  | none =>
      cases granted : change s.kernel with
      | ok kernel => exact .inr ⟨_, rfl, rfl⟩
      | error errno => exact .inl ⟨_, _, rfl, rfl⟩

theorem requests_of_mutate
    (request : Request) (operation : Operation) (change : Kernel → Except Errno Kernel)
    (s : Session) :
    ((mutate request operation change).runFrom s).2.requests = s.requests ++ [request] := by
  rw [runFrom_mutate]
  cases s.mutationFaults.head?.join with
  | some fault => rfl
  | none => cases change s.kernel <;> rfl

theorem afterDump_of_dump
    (request : Request) (answer : Kernel → α) (s : Session) :
    ((dump request answer).runFrom s).2 = s.afterDump request := by
  rw [runFrom_dump]
  cases s.dumpFaults.head?.join with
  | some fault => rfl
  | none => rfl

/-! ## Properties of kernel and model -/

section Keeps

variable {Q : Kernel → Model → Prop}

/-- A property of kernel and model that a granted request and its record keep is kept by the
submission. -/
theorem keeps_submit_mutate
    {request : Request} {operation : Operation} {change : Kernel → Except Errno Kernel}
    {record : Model → Model}
    (granted : ∀ k after m, Q k m → change k = .ok after → Q after (record m)) :
    Step.Keeps (fun t : Managed Session => Q t.channel.kernel t.model)
      (Managed.submit (mutate request operation change) record) := by
  intro t held
  rw [Managed.runFrom_submit]
  rcases mutate_cases request operation change t.channel with
    ⟨error, after, failed, same⟩ | ⟨after, succeeded, changed⟩
  · rw [failed]
    simpa only [same] using held
  · rw [succeeded]
    exact granted t.channel.kernel after.kernel t.model held changed

theorem keeps_reread
    {family : Family}
    (resynced :
      ∀ k m, Q k m → Q k (m.resyncRoutes family (k.routesOf (some family))).1) :
    Step.Keeps (fun t : Managed Session => Q t.channel.kernel t.model)
      (Reconciler.reread family) := by
  intro t held
  have read := runFrom_dump (.dumpRoutes (some family)) (·.routesOf (some family)) t.channel
  rw [Reconciler.runFrom_reread]
  simp only [RouteChannel.dumpRoutes, read]
  cases t.channel.dumpFaults.head?.join with
  | some fault => exact held
  | none => exact resynced t.channel.kernel t.model held

end Keeps

/-! ## Sessions in which nothing fails -/

/-- No failure awaits any request. -/
structure FaultFree (s : Session) : Prop where
  mutations : ∀ fault ∈ s.mutationFaults, fault = none
  dumps : ∀ fault ∈ s.dumpFaults, fault = none

theorem join_head?_eq_none
    {faults : List (Option Fault)} (free : ∀ fault ∈ faults, fault = none) :
    faults.head?.join = none := by
  cases faults with
  | nil => rfl
  | cons first rest => simp [free first List.mem_cons_self]

/-- What the kernel grants succeeds when nothing fails. -/
theorem FaultFree.mutate_eq
    {s : Session} (faultFree : s.FaultFree) {request : Request} {operation : Operation}
    {change : Kernel → Except Errno Kernel} {after : Kernel}
    (granted : change s.kernel = .ok after) :
    ∃ next, (mutate request operation change).runFrom s = (.ok (), next) ∧
      next.kernel = after ∧ next.FaultFree := by
  rw [runFrom_mutate, join_head?_eq_none faultFree.mutations, granted]
  refine ⟨_, rfl, rfl, ?_, faultFree.dumps⟩
  exact fun fault later => faultFree.mutations fault (List.mem_of_mem_tail later)

end DefaultGateway.Kernel.Session
