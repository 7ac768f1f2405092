import DefaultGateway.Kernel
import DefaultGateway.Proofs.Replies

/-!
# Requests that are refused

A request fails with the kernel's error number when its reply is closed by an error message with a
code, and in no other case. The code that comes with the end of a dump is not looked at.
-/

namespace DefaultGateway

namespace Kernel.Request

variable {σ : Type} [RouteChannel σ]

/-- Makes a request, and drops what it yields. -/
def submit : Request → Step σ Unit
  | .dumpLinks => do let _ ← RouteChannel.dumpLinks
  | .dumpAddresses => do let _ ← RouteChannel.dumpAddresses
  | .dumpRoutes family => do let _ ← RouteChannel.dumpRoutes family
  | .add route => RouteChannel.addRoute route
  | .replace route => RouteChannel.replaceRoute route
  | .delete route => RouteChannel.deleteRoute route
  | .reopen => RouteChannel.reopen

/-- What an error of the kernel names a request. -/
def operation : Request → Operation
  | .dumpLinks | .dumpAddresses | .dumpRoutes _ => .dump
  | .add _ => .addRoute
  | .replace _ => .replaceRoute
  | .delete _ => .deleteRoute
  | .reopen => .reopen

end Kernel.Request

/-! ## Outcomes of steps whose results are used or dropped -/

namespace Step

variable {σ α β : Type}

theorem outcome_bind_pure (step : Step σ α) (f : α → β) (s : σ) :
    ((step >>= fun a => pure (f a)).runFrom s).1 = (step.runFrom s).1.map f := by
  rw [runFrom_bind]
  cases step.runFrom s with
  | mk outcome t =>
      cases outcome with
      | ok a => rfl
      | error error => rfl

end Step

namespace Netlink

/-! ## What a reply makes of a request -/

/-- The code with which a message refuses a request. -/
def Message.refusal? (m : Message) : Option Int32 :=
  match m.payload with
  | .error code => if code ≠ 0 then some code else none
  | _ => none

/-- What a reply means for a request. -/
def Reply.verdict (operation : Operation) : Reply → Except Error Unit
  | .refused code => .error (.kernel operation (.ofCode code))
  | .acknowledged | .records _ => .ok ()

theorem Reply.verdict_closedBy (operation : Operation) (before : List Record) (last : Message) :
    (closedBy before last).verdict operation =
      match last.refusal? with
      | some code => .error (.kernel operation (.ofCode code))
      | none => .ok () := by
  obtain ⟨flags, sequence, payload⟩ := last
  cases payload with
  | error code =>
      by_cases refusing : code = 0
      · cases empty : before.isEmpty <;>
          simp [closedBy, Message.refusal?, refusing, empty, verdict]
      · simp [closedBy, Message.refusal?, refusing, verdict]
  | noop => rfl
  | done code => rfl
  | overrun => rfl
  | record record => rfl

/-- Only the kernel's replies make an error of the kernel. -/
theorem heard_ne_kernel
    (timeout : Nat) (stream : List Received) (operation : Operation) (errno : Errno) :
    (heard timeout stream).2 ≠ .kernel operation errno := by
  induction stream with
  | nil => simp [heard]
  | cons received rest inductionHypothesis =>
      cases received with
      | error failure =>
          simp only [heard, receiveFailure]
          split <;> simp
      | ok bytes =>
          simp only [heard]
          split
          · simp [malformed]
          · exact inductionHypothesis

namespace Channel

variable {c : Channel}

theorem delivery_ne_kernel (c : Channel) (operation : Operation) (errno : Errno) :
    c.delivery ≠ .error (.kernel operation errno) := by
  unfold delivery
  split <;> simp

/-- How the wait for the reply to the next request ends. -/
def nextAnswer (c : Channel) : Except Error Reply :=
  if c.timeout = 0 then .error (.timeout 0)
  else answer (nextSequence c.sequence) c.timeout c.sockets.replies

theorem outcome_readReply_sending (record : Record) (flags : UInt16) (c : Channel) :
    ((readReply (nextSequence c.sequence)).runFrom (c.sending record flags)).1 = c.nextAnswer :=
  outcome_readReply _ _

theorem outcome_dump (record : Record) (c : Channel) :
    ((dump record).runFrom c).1.map (fun _ => ()) =
      c.delivery.bind fun _ => c.nextAnswer.bind (Reply.verdict .dump) := by
  rw [dump, Step.runFrom_bind, runFrom_send]
  cases c.delivery with
  | error error => rfl
  | ok sent =>
      simp only [Except.map, Except.bind]
      rw [Step.runFrom_bind, ← outcome_readReply_sending record (Message.request ||| Message.dump)]
      cases (readReply (nextSequence c.sequence)).runFrom _ with
      | mk outcome after =>
          cases outcome with
          | error error => rfl
          | ok reply => cases reply <;> rfl

theorem outcome_change
    (operation : Operation) (record : Record) (flags : UInt16) (c : Channel) :
    ((change operation record flags).runFrom c).1 =
      c.delivery.bind fun _ => c.nextAnswer.bind (Reply.verdict operation) := by
  rw [change, Step.runFrom_bind, runFrom_send]
  cases c.delivery with
  | error error => rfl
  | ok sent =>
      simp only [Except.map, Except.bind]
      rw [Step.runFrom_bind, ← outcome_readReply_sending record
        (Message.request ||| Message.acknowledge ||| flags)]
      cases (readReply (nextSequence c.sequence)).runFrom _ with
      | mk outcome after =>
          cases outcome with
          | error error => rfl
          | ok reply => cases reply <;> rfl

/-- Dropping what is made of the records of a dump leaves whether it succeeds. -/
theorem outcome_dump_dropped {α : Type} (record : Record) (f : List Record → α) (c : Channel) :
    (((dump record >>= fun records => pure (f records)) >>= fun _ => pure ()).runFrom c).1 =
      c.delivery.bind fun _ => c.nextAnswer.bind (Reply.verdict .dump) := by
  rw [Step.outcome_bind_pure, Step.outcome_bind_pure, ← outcome_dump record]
  cases ((dump record).runFrom c).1 <;> rfl

/-- Every request but the one for a new socket is sent, answered and judged by its reply. -/
theorem outcome_submit
    {request : Kernel.Request} (replied : request ≠ .reopen) (c : Channel) :
    ((request.submit : Step Channel Unit).runFrom c).1 =
      c.delivery.bind fun _ => c.nextAnswer.bind (Reply.verdict request.operation) := by
  cases request with
  | dumpLinks => exact outcome_dump_dropped (.link .get {}) (·.filterMap newLink?) c
  | dumpAddresses => exact outcome_dump_dropped (.address .get {}) (·.filterMap newAddress?) c
  | dumpRoutes family =>
      let kept := fun records : List Record =>
        (records.filterMap newRoute?).filter fun route => family.all (route.family == ·)
      have asked :
          (RouteChannel.dumpRoutes family : Step Channel (List Route)) =
            dump (.route .get { family := (family.map familyCode).getD 0 }) >>=
              fun records => pure (kept records) := rfl
      rw [Kernel.Request.submit, asked]
      exact outcome_dump_dropped _ kept c
  | add route =>
      exact outcome_change .addRoute (.route .new (.ofRoute route false))
        (Message.create ||| Message.exclusive) c
  | replace route =>
      exact outcome_change .replaceRoute (.route .new (.ofRoute route false))
        (Message.create ||| Message.replace) c
  | delete route => exact outcome_change .deleteRoute (.route .delete (.ofRoute route true)) 0 c
  | reopen => exact absurd rfl replied

/-- The message that closes the reply to the next request, if it can be sent and waited for. -/
def nextClosing? (c : Channel) : Option Message :=
  if c.delivery = .ok () ∧ c.timeout ≠ 0 then
    Reply.closing? (heardOf (nextSequence c.sequence) c.timeout c.sockets.replies)
  else none

theorem nextClosing?_eq_some {last : Message} (closes : c.nextClosing? = some last) :
    c.delivery = .ok () ∧ c.timeout ≠ 0 ∧
      Reply.closing? (heardOf (nextSequence c.sequence) c.timeout c.sockets.replies) =
        some last := by
  unfold nextClosing? at closes
  split at closes
  · rename_i waiting
    exact ⟨waiting.1, waiting.2, closes⟩
  · cases closes

/-- A request whose reply is closed ends as the closing message says. -/
theorem outcome_of_closing
    {request : Kernel.Request} {last : Message}
    (replied : request ≠ .reopen) (closes : c.nextClosing? = some last) :
    ((request.submit : Step Channel Unit).runFrom c).1 =
      match last.refusal? with
      | some code => .error (.kernel request.operation (.ofCode code))
      | none => .ok () := by
  obtain ⟨delivered, waits, closing⟩ := nextClosing?_eq_some closes
  rw [outcome_submit replied c, delivered, nextAnswer, if_neg waits, answer, Reply.ofMessages?,
    closing]
  exact Reply.verdict_closedBy request.operation _ last

/-- A request whose reply is not closed fails, and not with an error of the kernel. -/
theorem outcome_of_unclosed
    {request : Kernel.Request} (replied : request ≠ .reopen) (unclosed : c.nextClosing? = none) :
    ∃ error, ((request.submit : Step Channel Unit).runFrom c).1 = .error error ∧
      ∀ operation errno, error ≠ .kernel operation errno := by
  rw [outcome_submit replied c]
  cases delivered : c.delivery with
  | error error =>
      refine ⟨error, rfl, ?_⟩
      rintro operation errno rfl
      exact delivery_ne_kernel c operation errno delivered
  | ok sent =>
      by_cases noWait : c.timeout = 0
      · refine ⟨.timeout 0, ?_, by simp⟩
        rw [nextAnswer, if_pos noWait]
        rfl
      · rw [nextClosing?, if_pos ⟨delivered, noWait⟩] at unclosed
        rw [nextAnswer, if_neg noWait, answer, Reply.ofMessages?, unclosed]
        exact ⟨_, rfl, heard_ne_kernel _ _⟩

/-- A request succeeds exactly if its reply is closed, and by a message that is no refusal; that
may be the end of a dump with whatever code. It fails with an error of the kernel exactly if the
closing message is a refusal, and the error has its code. -/
theorem refused_iff {request : Kernel.Request} (replied : request ≠ .reopen) (c : Channel) :
    let outcome := ((request.submit : Step Channel Unit).runFrom c).1
    (outcome = .ok () ↔ ∃ last, c.nextClosing? = some last ∧ last.refusal? = none) ∧
      (∀ operation errno, outcome = .error (.kernel operation errno) ↔
        operation = request.operation ∧
          ∃ last code, c.nextClosing? = some last ∧ last.refusal? = some code ∧
            errno = .ofCode code) ∧
      ∀ last code, c.nextClosing? = some last → last.payload = .done code → outcome = .ok () := by
  intro outcome
  cases closes : c.nextClosing? with
  | none =>
      obtain ⟨error, failed, other⟩ := outcome_of_unclosed replied closes
      have ended : outcome = .error error := failed
      rw [ended]
      refine ⟨by simp, fun operation errno => ?_, by simp⟩
      simp [other]
  | some last =>
      have judged := outcome_of_closing replied closes
      cases refusal : last.refusal? with
      | none =>
          rw [refusal] at judged
          have ended : outcome = .ok () := judged
          rw [ended]
          simp [refusal]
      | some code =>
          rw [refusal] at judged
          have ended : outcome = .error (.kernel request.operation (.ofCode code)) := judged
          rw [ended]
          refine ⟨by simp [refusal], fun operation errno => ?_, ?_⟩
          · simp [refusal, eq_comm]
          · intro other code same done
            cases same
            simp [Message.refusal?, done] at refusal

/-- The dump of the interfaces breaks off after the first of them. -/
def interrupted : Channel where
  sockets := { replies := [.ok (
    Message.bytes ⟨Message.multipart, 1, .record (.link .new
      { index := 2, flags := 1, attributes := [⟨3, "eth0\x00".toUTF8.toList⟩] })⟩ ++
    Message.bytes ⟨Message.multipart, 1, .done (-4)⟩)] }
  timeout := 1500

/-- A route is refused, as its place is taken. -/
def occupied : Channel where
  sockets := { replies := [.ok (Message.bytes ⟨0, 1, .error (-17)⟩)] }
  timeout := 1500

/-- An end that reports an error passes for the end of the dump, unlike an error in an
acknowledgement. -/
theorem refused_iff_interrupted :
    interrupted.nextClosing? = some ⟨Message.multipart, 1, .done (-4)⟩ ∧
      ((Kernel.Request.dumpLinks.submit : Step Channel Unit).runFrom interrupted).1 = .ok () ∧
      ∀ route, (((Kernel.Request.add route).submit : Step Channel Unit).runFrom occupied).1 =
        .error (.kernel .addRoute ⟨17⟩) := by
  have ended : interrupted.nextClosing? = some ⟨Message.multipart, 1, .done (-4)⟩ := by
    decide +kernel
  have refused : occupied.nextClosing? = some ⟨0, 1, .error (-17)⟩ := by decide +kernel
  refine ⟨ended, ?_, fun route => ?_⟩
  · exact (refused_iff (by decide) interrupted).2.2 _ _ ended rfl
  · exact ((refused_iff (by simp) occupied).2.1 .addRoute ⟨17⟩).2
      ⟨rfl, _, -17, refused, by decide, by decide⟩

/-- The dump that broke off yields the interfaces up to there as all there are. -/
theorem dumpLinks_interrupted :
    Reply.closing? (heardOf 1 interrupted.timeout interrupted.sockets.replies) =
        some ⟨Message.multipart, 1, .done (-4)⟩ ∧
      ((RouteChannel.dumpLinks : Step Channel (List Link)).runFrom interrupted).1 =
        .ok [⟨2, some "eth0", true⟩] := by
  refine ⟨by decide +kernel, by decide +kernel⟩

end Channel

end Netlink

end DefaultGateway
