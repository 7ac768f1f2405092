import Mathlib.Data.List.Nodup
import DefaultGateway.Netlink.Channel
import DefaultGateway.Proofs.Datagrams
import DefaultGateway.Proofs.Step

/-!
# Replies and their requests

A channel takes the replies of the kernel off one queue of datagrams. In whatever datagrams the
messages come, and whatever comes between them, the reply to a request consists of the messages
with its number: the records in their order, up to the message that closes the reply. As long as
the numbers have not all been used, no two requests share one.
-/

namespace DefaultGateway.Netlink

/-! ## The reply that messages make -/

namespace Message

/-- Whether a message is the last of the reply that it belongs to. -/
def closesReply (m : Message) : Bool :=
  match m.payload with
  | .done _ | .error _ => true
  | .record _ => !m.hasFlag multipart
  | .noop | .overrun => false

/-- The record that a message carries. -/
def record? (m : Message) : Option Record :=
  match m.payload with
  | .record record => some record
  | _ => none

end Message

namespace Reply

/-- The reply that a last message closes after the records before it. -/
def closedBy (before : List Record) (last : Message) : Reply :=
  match last.payload with
  | .error code =>
    if code ≠ 0 then .refused code
    else if before.isEmpty then .acknowledged else .records before
  | _ => .records (before ++ last.record?.toList)

/-- The message that closes the reply which the messages begin with. -/
def closing? (messages : List Message) : Option Message := messages.find? (·.closesReply)

/-- The records before the message that closes the reply. -/
def leading (messages : List Message) : List Record :=
  (messages.takeWhile fun m => !m.closesReply).filterMap Message.record?

/-- The reply that the messages begin with, if it is complete. -/
def ofMessages? (messages : List Message) : Option Reply :=
  (closing? messages).map (closedBy (leading messages))

variable {before : List Record} {m : Message} {messages : List Message}

theorem step_eq (before : List Record) (m : Message) :
    step before m =
      if m.closesReply then .inl (closedBy before m) else .inr (before ++ m.record?.toList) := by
  obtain ⟨flags, sequence, payload⟩ := m
  cases payload with
  | noop => simp [step, Message.closesReply, Message.record?]
  | overrun => simp [step, Message.closesReply, Message.record?]
  | done code => simp [step, Message.closesReply, closedBy, Message.record?]
  | error code =>
      by_cases refusing : code = 0 <;>
        simp [step, Message.closesReply, closedBy, refusing]
  | record record =>
      cases part : Message.hasFlag ⟨flags, sequence, .record record⟩ Message.multipart <;>
        simp [step, Message.closesReply, closedBy, Message.record?, part]

/-- The messages of the request are collected, and those of others passed over. -/
theorem collect_eq (number : UInt32) (messages : List Message) (before : List Record) :
    collect number before messages =
      let own := messages.filter (·.sequence == number)
      match closing? own with
      | some last => .inl (closedBy (before ++ leading own) last)
      | none => .inr (before ++ own.filterMap Message.record?) := by
  induction messages generalizing before with
  | nil => simp [collect, closing?]
  | cons m rest inductionHypothesis =>
      by_cases mine : m.sequence = number
      · cases closes : m.closesReply with
        | true => simp [collect, mine, step_eq, closing?, leading, closes]
        | false =>
            have first :
                (m :: rest).filter (·.sequence == number) =
                  m :: rest.filter (·.sequence == number) :=
              List.filter_cons_of_pos (by simpa using mine)
            rw [collect, if_neg (by simpa using mine), step_eq, first]
            simp only [closes, Bool.false_eq_true, if_false, inductionHypothesis]
            generalize rest.filter (·.sequence == number) = own
            have records : (m :: own).filterMap Message.record? =
                m.record?.toList ++ own.filterMap Message.record? := by
              cases carried : m.record? <;> simp [carried]
            have led : leading (m :: own) = m.record?.toList ++ leading own := by
              cases carried : m.record? <;> simp [leading, closes, carried]
            have closing : closing? (m :: own) = closing? own := by simp [closing?, closes]
            rw [records, led, closing, List.append_assoc, List.append_assoc]
      · simp [collect, mine, inductionHypothesis]

end Reply

/-! ## What is heard while waiting -/

/-- The error of a read that yields no datagram. -/
def receiveFailure (timeout : Nat) (errno : Errno) : Error :=
  if errno.isTimeout then .timeout timeout
  else .netlink s!"Failed to receive reply: {errno.systemText}"

/-- The messages of all datagrams before the first read that fails or datagram that is malformed,
and the error that this makes. When all is read, the time runs out. -/
def heard (timeout : Nat) : List Received → List Message × Error
  | [] => ([], .timeout timeout)
  | .error errno :: _ => ([], receiveFailure timeout errno)
  | .ok bytes :: rest =>
    match Message.readAll bytes with
    | none => ([], malformed)
    | some messages => (messages ++ (heard timeout rest).1, (heard timeout rest).2)

/-- The messages with a number among those heard. -/
def heardOf (number : UInt32) (timeout : Nat) (stream : List Received) : List Message :=
  (heard timeout stream).1.filter (·.sequence == number)

/-- How the wait for the reply to a request ends: with the reply, unless an error comes first. -/
def answer (number : UInt32) (timeout : Nat) (stream : List Received) : Except Error Reply :=
  match Reply.ofMessages? (heardOf number timeout stream) with
  | some reply => .ok reply
  | none => .error (heard timeout stream).2

/-- A stream of datagrams without the messages of other requests. -/
def ownMessages (number : UInt32) (stream : List Received) : List Received :=
  stream.map fun received => received.map (Message.keepOnly (·.sequence == number))

theorem heard_ownMessages (number : UInt32) (timeout : Nat) (stream : List Received) :
    heard timeout (ownMessages number stream) =
      (heardOf number timeout stream, (heard timeout stream).2) := by
  induction stream with
  | nil => rfl
  | cons received rest inductionHypothesis =>
      cases received with
      | error errno => rfl
      | ok bytes =>
          rw [ownMessages, List.map_cons, ← ownMessages]
          simp only [Except.map, heard, heardOf, Message.readAll_keepOnly]
          cases Message.readAll bytes with
          | none => rfl
          | some messages =>
              simp only [Option.map_some, inductionHypothesis, heardOf, List.filter_append]

theorem answer_ownMessages (number : UInt32) (timeout : Nat) (stream : List Received) :
    answer number timeout (ownMessages number stream) = answer number timeout stream := by
  have again :
      heardOf number timeout (ownMessages number stream) = heardOf number timeout stream := by
    rw [heardOf, heard_ownMessages, heardOf, List.filter_filter]
    simp
  rw [answer, answer, again, heard_ownMessages]

/-! ## Reading the reply -/

theorem Reply.collect_append
    (number : UInt32) (messages later : List Message) (before : List Record) :
    collect number before (messages ++ later) =
      match collect number before messages with
      | .inl reply => .inl reply
      | .inr more => collect number more later := by
  induction messages generalizing before with
  | nil => rfl
  | cons m rest inductionHypothesis =>
      simp only [List.cons_append, collect]
      split
      · exact inductionHypothesis before
      · split
        · rfl
        · exact inductionHypothesis _

/-- Collected from the first on, the messages heard give the answer. -/
theorem answer_eq_collect (number : UInt32) (timeout : Nat) (stream : List Received) :
    answer number timeout stream =
      match Reply.collect number [] (heard timeout stream).1 with
      | .inl reply => .ok reply
      | .inr _ => .error (heard timeout stream).2 := by
  simp only [answer, Reply.collect_eq, Reply.ofMessages?, heardOf]
  generalize (heard timeout stream).1.filter (·.sequence == number) = own
  cases Reply.closing? own <;> rfl

namespace Channel

variable {c : Channel}

/-- The channel when the given replies are still to be read. -/
def withReplies (c : Channel) (replies : List Received) : Channel :=
  { c with sockets := { c.sockets with replies := replies } }

/-- Every read takes one datagram, so that there is one left to read for each that is in the queue
and one for finding it empty. -/
theorem outcome_readDatagrams
    (number : UInt32) (unread : Nat) (before : List Record) (c : Channel)
    (enough : c.sockets.replies.length < unread) :
    ((readDatagrams number unread before).runFrom c).1 =
      match Reply.collect number before (heard c.timeout c.sockets.replies).1 with
      | .inl reply => .ok reply
      | .inr _ => .error (heard c.timeout c.sockets.replies).2 := by
  induction unread generalizing before c with
  | zero => cases enough
  | succ unread inductionHypothesis =>
      have read :
          (onSockets Sockets.readReply).runFrom c =
            (.ok (Sockets.nextOf c.sockets.replies).1,
              c.withReplies (Sockets.nextOf c.sockets.replies).2) := rfl
      rw [readDatagrams, Step.runFrom_bind_of_ok read]
      cases queue : c.sockets.replies with
      | nil => rfl
      | cons received rest =>
          cases received with
          | error errno =>
              cases late : errno.isTimeout <;>
                simp [Sockets.nextOf, late, heard, receiveFailure, Reply.collect, withReplies,
                  Step.runFrom_bind]
          | ok bytes =>
              simp only [Sockets.nextOf, heard]
              cases found : Message.readAll bytes with
              | none => simp [Reply.collect]
              | some messages =>
                  simp only [Reply.collect_append]
                  cases collected : Reply.collect number before messages with
                  | inl reply => simp
                  | inr records =>
                      have fewer : rest.length < unread := by
                        rw [queue, List.length_cons] at enough
                        omega
                      exact inductionHypothesis records (c.withReplies rest) fewer

/-- Waiting for a reply ends as the messages with its number say, unless no time is given. -/
theorem outcome_readReply (number : UInt32) (c : Channel) :
    ((readReply number).runFrom c).1 =
      if c.timeout = 0 then .error (.timeout 0)
      else answer number c.timeout c.sockets.replies := by
  rw [readReply, Step.runFrom_bind_of_ok (Step.runFrom_get c)]
  split
  · rfl
  · rw [outcome_readDatagrams number _ [] c (Nat.lt_succ_self _), answer_eq_collect]

/-! ## Sending a request -/

/-- How the next request is sent: whether the call for it succeeds. -/
def delivery (c : Channel) : Except Error Unit :=
  match (Sockets.takeOutcome .send c.sockets.outcomes).1 with
  | some errno => .error (.netlink s!"Failed to send request: {errno.systemText}")
  | none => .ok ()

/-- The channel after a request was sent, or failed to be. -/
def sending (c : Channel) (record : Record) (flags : UInt16) : Channel :=
  let number := nextSequence c.sequence
  { c with
    sequence := number
    sockets := { c.sockets with
      outcomes := (Sockets.takeOutcome .send c.sockets.outcomes).2
      calls := c.sockets.calls ++ [.send (Message.bytes ⟨flags, number, .record record⟩)] } }

/-- A request takes the next number, also where it cannot be sent, and carries it. -/
theorem runFrom_send (record : Record) (flags : UInt16) (c : Channel) :
    (send record flags).runFrom c =
      (c.delivery.map fun _ => nextSequence c.sequence, c.sending record flags) := by
  have performed :
      (onSockets (Sockets.perform (.send
          (Message.bytes ⟨flags, nextSequence c.sequence, .record record⟩))
          "Failed to send request")).runFrom { c with sequence := nextSequence c.sequence } =
        (c.delivery, c.sending record flags) := by
    rw [onSockets, Step.runFrom_on, Sockets.perform, Sockets.issue, Step.runFrom_bind,
      Step.runFrom_change]
    simp only [delivery, sending, Call.kind]
    cases (Sockets.takeOutcome .send c.sockets.outcomes).1 <;> rfl
  rw [send, Step.runFrom_bind_of_ok (Step.runFrom_modify _ c),
    Step.runFrom_bind_of_ok (Step.runFrom_get _), Step.runFrom_bind, performed]
  cases c.delivery <;> rfl

/-! ## The numbers of requests -/

/-- How many numbers there are: all but zero, of 32 bits. -/
def numberCount : Nat := 4294967295

/-- The number of a request, counted from zero after the one of the given number. -/
def numberAfter (sequence : UInt32) (k : Nat) : UInt32 :=
  .ofNat ((sequence.toNat + k) % numberCount + 1)

theorem toNat_numberAfter (sequence : UInt32) (k : Nat) :
    (numberAfter sequence k).toNat = (sequence.toNat + k) % numberCount + 1 := by
  rw [numberAfter, UInt32.toNat_ofNat', numberCount]
  omega

theorem toNat_nextSequence (sequence : UInt32) :
    (nextSequence sequence).toNat = sequence.toNat % numberCount + 1 := by
  have bound := sequence.toNat_lt
  have sum : (sequence + 1).toNat = (sequence.toNat + 1) % 4294967296 := by
    rw [UInt32.toNat_add]
    rfl
  have one : (1 : UInt32).toNat = 1 := rfl
  have larger : nextSequence sequence = if sequence + 1 ≤ 1 then 1 else sequence + 1 := rfl
  rw [larger, numberCount]
  split
  · rename_i least
    rw [UInt32.le_iff_toNat_le, sum, one] at least
    omega
  · rename_i more
    rw [UInt32.le_iff_toNat_le, sum, one] at more
    omega

theorem numberAfter_zero (sequence : UInt32) :
    numberAfter sequence 0 = nextSequence sequence := by
  apply UInt32.toNat_inj.1
  rw [toNat_numberAfter, toNat_nextSequence]
  rfl

/-- The numbers go round. -/
theorem numberAfter_nextSequence (sequence : UInt32) (k : Nat) :
    numberAfter (nextSequence sequence) k = numberAfter sequence (k + 1) := by
  apply UInt32.toNat_inj.1
  rw [toNat_numberAfter, toNat_numberAfter, toNat_nextSequence, numberCount]
  omega

theorem numberAfter_ne_zero (sequence : UInt32) (k : Nat) : numberAfter sequence k ≠ 0 := by
  intro none
  have zero := congrArg UInt32.toNat none
  rw [toNat_numberAfter] at zero
  cases zero

/-- Within one round, no number comes twice. -/
theorem numberAfter_injective
    {sequence : UInt32} {j k : Nat} (first : j < numberCount) (second : k < numberCount)
    (same : numberAfter sequence j = numberAfter sequence k) : j = k := by
  have equal := congrArg UInt32.toNat same
  rw [toNat_numberAfter, toNat_numberAfter] at equal
  unfold numberCount at *
  omega

/-! ## Runs -/

/-- What is done with a channel, and what happens meanwhile. -/
inductive Act
  | send (record : Record) (flags : UInt16)
  | await (number : UInt32)
  | reopen
  /-- Something happens at the sockets: datagrams come, in time or late. -/
  | meanwhile (change : Sockets → Sockets)

namespace Act

def sends : Act → Bool
  | .send .. => true
  | _ => false

/-- The channel that an act leaves, whether it succeeds or fails. -/
def after (act : Act) (c : Channel) : Channel :=
  match act with
  | .send record flags => ((Channel.send record flags).runFrom c).2
  | .await number => ((readReply number).runFrom c).2
  | .reopen => ((RouteChannel.reopen : Step Channel Unit).runFrom c).2
  | .meanwhile change => { c with sockets := change c.sockets }

end Act

def run (c : Channel) (acts : List Act) : Channel := acts.foldl (fun c act => act.after c) c

/-- The numbers of the requests of a run, in their order, whether or not they could be sent. -/
def issued (c : Channel) : List Act → List UInt32
  | [] => []
  | act :: rest =>
    (if act.sends then [(act.after c).sequence] else []) ++ issued (act.after c) rest

theorem keeps_onSockets {α : Type} (number : UInt32) (step : Step Sockets α) :
    Step.Keeps (fun c : Channel => c.sequence = number) (onSockets step) :=
  fun _ held => held

theorem keeps_readDatagrams (number asked : UInt32) (unread : Nat) (before : List Record) :
    Step.Keeps (fun c : Channel => c.sequence = number) (readDatagrams asked unread before) := by
  induction unread generalizing before with
  | zero => exact fun _ held => held
  | succ unread inductionHypothesis =>
      refine (keeps_onSockets number _).bind fun received => ?_
      cases received with
      | error errno =>
          simp only
          split
          · exact fun _ held => held
          · exact .throw _
      | ok bytes =>
          simp only
          split
          · exact .throw _
          · split
            · exact .pure _
            · exact inductionHypothesis _

/-- Only a request changes the number, and it goes on to the next. -/
theorem sequence_after (act : Act) (c : Channel) :
    (act.after c).sequence = if act.sends then nextSequence c.sequence else c.sequence := by
  cases act with
  | send record flags =>
      rw [Act.after, runFrom_send]
      rfl
  | await number =>
      rw [Act.after, readReply, Step.runFrom_bind_of_ok (Step.runFrom_get c)]
      split
      · rfl
      · exact keeps_readDatagrams c.sequence number _ [] c rfl
  | reopen => rfl
  | meanwhile change => rfl

theorem issued_eq (c : Channel) (acts : List Act) :
    issued c acts =
      (List.range (acts.countP Act.sends)).map (numberAfter c.sequence) := by
  induction acts generalizing c with
  | nil => rfl
  | cons act rest inductionHypothesis =>
      have number := sequence_after act c
      rw [issued, inductionHypothesis, number]
      cases sends : act.sends with
      | true =>
          have shifted : numberAfter (nextSequence c.sequence) =
              numberAfter c.sequence ∘ Nat.succ :=
            funext fun k => numberAfter_nextSequence c.sequence k
          rw [List.countP_cons_of_pos sends, List.range_succ_eq_map, List.map_cons, List.map_map,
            numberAfter_zero, if_pos rfl, if_pos rfl, shifted]
          rfl
      | false =>
          rw [List.countP_cons_of_neg (by simp [sends]), if_neg (by decide), if_neg (by decide)]
          rfl

theorem sequence_run (c : Channel) (acts : List Act) :
    nextSequence (run c acts).sequence = numberAfter c.sequence (acts.countP Act.sends) := by
  induction acts generalizing c with
  | nil => exact (numberAfter_zero c.sequence).symm
  | cons act rest inductionHypothesis =>
      have later := inductionHypothesis (act.after c)
      rw [sequence_after] at later
      cases sends : act.sends with
      | true =>
          rw [if_pos sends, numberAfter_nextSequence] at later
          rw [List.countP_cons_of_pos sends]
          exact later
      | false =>
          rw [if_neg (by simp [sends])] at later
          rw [List.countP_cons_of_neg (by simp [sends])]
          exact later

/-- Over a run with no more requests than there are numbers, whatever else happens: the requests
have numbers of their own, none of them zero, and a request that is sent returns its number. The
wait for a reply ends as if no message of another request had come, that is with the records of
the request in their order up to the first message that closes the reply. -/
theorem replies_own
    (start : Channel) (acts : List Act) (few : acts.countP Act.sends ≤ numberCount) :
    (issued start acts).Nodup ∧ (∀ number ∈ issued start acts, number ≠ 0) ∧
      (∀ earlier record flags later number,
        acts = earlier ++ .send record flags :: later →
        ((send record flags).runFrom (run start earlier)).1 = .ok number →
        (issued start acts)[earlier.countP Act.sends]? = some number) ∧
      ∀ earlier number later, acts = earlier ++ .await number :: later →
        let c := run start earlier
        ((readReply number).runFrom c).1 =
            ((readReply number).runFrom
              (c.withReplies (ownMessages number c.sockets.replies))).1 ∧
          ((readReply number).runFrom c).1 =
            if c.timeout = 0 then .error (.timeout 0)
            else answer number c.timeout c.sockets.replies := by
  refine ⟨?_, ?_, ?_, ?_⟩
  · rw [issued_eq]
    refine List.Nodup.map_on ?_ List.nodup_range
    intro j first k second same
    have first := List.mem_range.1 first
    have second := List.mem_range.1 second
    exact numberAfter_injective (by omega) (by omega) same
  · intro number member
    rw [issued_eq] at member
    obtain ⟨k, _, rfl⟩ := List.mem_map.1 member
    exact numberAfter_ne_zero start.sequence k
  · rintro earlier record flags later number rfl sent
    rw [runFrom_send, sequence_run] at sent
    have known : number = numberAfter start.sequence (earlier.countP Act.sends) := by
      cases delivered : (run start earlier).delivery with
      | ok done =>
          rw [delivered] at sent
          exact (Except.ok.inj sent).symm
      | error error =>
          rw [delivered] at sent
          cases sent
    have inRange : earlier.countP Act.sends <
        (earlier ++ Act.send record flags :: later).countP Act.sends := by
      rw [List.countP_append, List.countP_cons_of_pos rfl]
      omega
    rw [issued_eq, List.getElem?_map, List.getElem?_range inRange, known]
    rfl
  · rintro earlier number later rfl
    refine ⟨?_, outcome_readReply number _⟩
    rw [outcome_readReply, outcome_readReply]
    congr 1
    exact (answer_ownMessages number _ _).symm

/-- The reply to a first request comes when a second one has been made, and with the second's. -/
def overtaken : List Act := [
  .send (.link .get {}) (Message.request ||| Message.dump),
  .await 1,
  .reopen,
  .send (.link .get {}) (Message.request ||| Message.dump),
  .meanwhile fun sockets => { sockets with
    replies := [.ok (Message.bytes ⟨Message.multipart, 1, .done 0⟩ ++
      Message.bytes ⟨0, 2, .error (-16)⟩)] },
  .await 2]

theorem replies_own_overtaken :
    let start : Channel := { sockets := {}, timeout := 1500 }
    let c := run start (overtaken.take 5)
    issued start overtaken = [1, 2] ∧ (issued start overtaken).Nodup ∧
      ((readReply 1).runFrom (run start (overtaken.take 1))).1 = .error (.timeout 1500) ∧
      ((readReply 2).runFrom c).1 = .ok (.refused (-16)) ∧
      ((readReply 2).runFrom (c.withReplies (ownMessages 2 c.sockets.replies))).1 =
        .ok (.refused (-16)) := by
  intro start c
  obtain ⟨apart, -, -, heard⟩ := replies_own start overtaken (by decide)
  have answered : ((readReply 2).runFrom c).1 = .ok (.refused (-16)) := by decide +kernel
  refine ⟨by decide +kernel, apart, by decide +kernel, answered, ?_⟩
  rw [← (heard (overtaken.take 5) 2 [] rfl).1]
  exact answered

end Channel

end DefaultGateway.Netlink
