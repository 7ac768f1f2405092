import DefaultGateway.Proofs.Following
import Mathlib.Data.List.Chain

/-!
# Watched channels

A watched channel remembers every state in which a request has found it, and otherwise behaves as
the channel does. So what holds along a watched reconciliation is said of the reconciliation
itself.
-/

namespace DefaultGateway

variable {σ τ α β : Type}

/-- A channel with the states in which the requests so far have found it. -/
structure Watched (σ : Type) where
  channel : σ
  past : List σ

namespace Watched

def fresh (channel : σ) : Watched σ := ⟨channel, []⟩

/-- The states of the channel in turn: as each request has found it, and as the last has left
it. -/
def course (w : Watched σ) : List σ := w.past ++ [w.channel]

/-- Puts a request to the channel, remembering how it was before. -/
def ask (request : Step σ α) : Step (Watched σ) α :=
  Step.of fun w =>
    ((request.runFrom w.channel).1, ⟨(request.runFrom w.channel).2, w.past ++ [w.channel]⟩)

@[simp]
theorem runFrom_ask (request : Step σ α) (w : Watched σ) :
    (ask request).runFrom w =
      ((request.runFrom w.channel).1,
        ⟨(request.runFrom w.channel).2, w.past ++ [w.channel]⟩) := rfl

instance [RouteChannel σ] : RouteChannel (Watched σ) where
  dumpLinks := ask RouteChannel.dumpLinks
  dumpAddresses := ask RouteChannel.dumpAddresses
  dumpRoutes family := ask (RouteChannel.dumpRoutes family)
  addRoute route := ask (RouteChannel.addRoute route)
  replaceRoute route := ask (RouteChannel.replaceRoute route)
  deleteRoute route := ask (RouteChannel.deleteRoute route)
  reopen := ask RouteChannel.reopen

theorem follows [RouteChannel σ] :
    RouteChannel.Follows (channel : Watched σ → σ) where
  dumpLinks _ := rfl
  dumpAddresses _ := rfl
  dumpRoutes _ _ := rfl
  addRoute _ _ := rfl
  replaceRoute _ _ := rfl
  deleteRoute _ _ := rfl
  reopen _ := rfl

/-- The course starts at a state, and each of its states is related to the next. -/
structure Proceeds (R : σ → σ → Prop) (start : σ) (w : Watched σ) : Prop where
  begins : w.course.head? = some start
  chain : w.course.IsChain R

theorem proceeds_fresh (R : σ → σ → Prop) (channel : σ) :
    (fresh channel).Proceeds R channel where
  begins := rfl
  chain := .singleton channel

theorem Proceeds.ask
    {R : σ → σ → Prop} {start : σ} {w : Watched σ} (proceeds : w.Proceeds R start)
    {request : Step σ α} (next : R w.channel (request.runFrom w.channel).2) :
    ((ask request).runFrom w).2.Proceeds R start where
  begins := by
    have begins := proceeds.begins
    rw [runFrom_ask, course, List.head?_append_of_ne_nil _ (by simp)]
    exact begins
  chain := by
    rw [runFrom_ask, course, List.append_assoc]
    exact List.isChain_split.2 ⟨proceeds.chain, List.isChain_pair.2 next⟩

theorem Proceeds.course_eq_cons
    {R : σ → σ → Prop} {start : σ} {w : Watched σ} (proceeds : w.Proceeds R start) :
    ∃ rest, w.course = start :: rest := by
  cases shape : w.course with
  | nil =>
      have begins := proceeds.begins
      rw [shape] at begins
      cases begins
  | cons first rest =>
      have begins := proceeds.begins
      rw [shape] at begins
      cases begins
      exact ⟨rest, rfl⟩

theorem Proceeds.imp
    {R Q : σ → σ → Prop} {start : σ} {w : Watched σ} (proceeds : w.Proceeds R start)
    (implies : ∀ s next, R s next → Q s next) : w.Proceeds Q start where
  begins := proceeds.begins
  chain := proceeds.chain.imp implies

/-! ## One watch after another -/

/-- The watch with more states before those that it remembers. -/
def onto (past : List σ) (w : Watched σ) : Watched σ := ⟨w.channel, past ++ w.past⟩

theorem onto_fresh (w : Watched σ) : (fresh w.channel).onto w.past = w := by
  simp [onto, fresh]

theorem course_onto (past : List σ) (w : Watched σ) :
    (w.onto past).course = past ++ w.course := List.append_assoc ..

/-- What is remembered from before makes no difference to a request. -/
theorem follows_onto [RouteChannel σ] (past : List σ) :
    RouteChannel.Follows (onto past : Watched σ → Watched σ) :=
  have asks {α : Type} (request : Step σ α) :
      Step.Follows (onto past) (ask request) (ask request) := fun w => by
    simp only [runFrom_ask, onto, List.append_assoc]
  { dumpLinks := asks _
    dumpAddresses := asks _
    dumpRoutes := fun _ => asks _
    addRoute := fun _ => asks _
    replaceRoute := fun _ => asks _
    deleteRoute := fun _ => asks _
    reopen := asks _ }

/-- From one watch to a later one the course goes on from where it was, and each of its further
states is related to the next. -/
def Leads (R : σ → σ → Prop) (w v : Watched σ) : Prop :=
  ∃ later : Watched σ, later.Proceeds R w.channel ∧ v = later.onto w.past

variable {R Q : σ → σ → Prop} {w v u : Watched σ}

theorem Leads.refl (w : Watched σ) : w.Leads R w :=
  ⟨fresh w.channel, proceeds_fresh R w.channel, (onto_fresh w).symm⟩

theorem Leads.trans (first : w.Leads R v) (second : v.Leads R u) : w.Leads R u := by
  obtain ⟨before, toBefore, rfl⟩ := first
  obtain ⟨after, toAfter, rfl⟩ := second
  obtain ⟨rest, course⟩ := toAfter.course_eq_cons
  refine ⟨after.onto before.past, ⟨?_, ?_⟩, by simp [onto]⟩
  · rw [course_onto, course, ← List.singleton_append, ← List.append_assoc,
      List.head?_append_of_ne_nil _ (by simp)]
    exact toBefore.begins
  · rw [course_onto, course]
    refine List.isChain_split.2 ⟨toBefore.chain, ?_⟩
    have chain := toAfter.chain
    rwa [course] at chain

theorem Leads.imp (leads : w.Leads R v) (implies : ∀ s next, R s next → Q s next) :
    w.Leads Q v := by
  obtain ⟨later, proceeds, same⟩ := leads
  exact ⟨later, proceeds.imp implies, same⟩

theorem Leads.course_prefix (leads : w.Leads R v) : w.course <+: v.course := by
  obtain ⟨later, proceeds, rfl⟩ := leads
  obtain ⟨rest, course⟩ := proceeds.course_eq_cons
  refine ⟨rest, ?_⟩
  rw [course_onto, course, Watched.course, List.append_assoc]
  rfl

/-- Of the states that a later watch remembers, each is related to the next from then on. -/
theorem Leads.isChain_drop (leads : w.Leads R v) :
    (v.course.drop w.past.length).IsChain R := by
  obtain ⟨later, proceeds, rfl⟩ := leads
  rw [course_onto, List.drop_left]
  exact proceeds.chain

theorem Leads.proceeds {start : σ} (leads : (fresh start).Leads R v) : v.Proceeds R start := by
  obtain ⟨later, proceeds, rfl⟩ := leads
  exact proceeds

theorem Leads.ask
    (leads : w.Leads R v) {request : Step σ α} (next : R v.channel (request.runFrom v.channel).2) :
    w.Leads R ((ask request).runFrom v).2 := by
  obtain ⟨later, proceeds, rfl⟩ := leads
  exact
    ⟨((Watched.ask request).runFrom later).2, proceeds.ask next, by simp [onto]⟩

end Watched

/-! ## Watched reconciliations -/

namespace Managed

/-- The same with the channel watched from now on. -/
def watched (t : Managed σ) : Managed (Watched σ) where
  channel := .fresh t.channel
  model := t.model
  reconciler := t.reconciler

def unwatched (t : Managed (Watched σ)) : Managed σ where
  channel := t.channel.channel
  model := t.model
  reconciler := t.reconciler

end Managed

namespace Reconciler

open Managed

variable [RouteChannel σ]

/-- Watching the channel changes nothing about a reconciliation. -/
theorem follows_reconcile (decision : Decision) :
    Step.Follows unwatched
      (reconcile decision : Step (Managed (Watched σ)) Report) (reconcile decision) :=
  Watched.follows.reconcile decision

end Reconciler

end DefaultGateway
