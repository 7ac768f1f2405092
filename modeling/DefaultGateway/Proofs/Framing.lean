import DefaultGateway.Netlink.Channel
import DefaultGateway.Proofs.Datagrams
import DefaultGateway.Proofs.Encoding

/-!
# The frames of a datagram

A datagram is taken apart at the lengths in the headers of its messages, each filled up to a
multiple of four. What is read is exactly what the bytes are a written form of, and datagrams put
one after another are read one after another. Going through the bytes by an offset, as a loop does,
takes no more turns than there are headers that have room, and never looks beyond the end.
-/

namespace DefaultGateway.Netlink

variable {bytes rest : Bytes}

/-! ## Words -/

theorem eq_of_readWord16 {n : UInt16} (found : readWord16 bytes = some (n, rest)) :
    bytes = word16 n ++ rest := by
  match bytes, found with
  | a :: b :: later, found =>
      simp only [readWord16, Option.some.injEq, Prod.mk.injEq] at found
      obtain ⟨rfl, rfl⟩ := found
      have first := a.toNat_lt
      have second := b.toNat_lt
      have whole : (UInt16.ofNat (a.toNat + 256 * b.toNat)).toNat = a.toNat + 256 * b.toNat :=
        UInt16.toNat_ofNat_of_lt' (by simp only [UInt16.size]; omega)
      simp only [word16, List.cons_append, List.nil_append, List.cons.injEq, and_true]
      constructor
      · apply UInt8.toNat_inj.1
        rw [UInt16.toNat_toUInt8, whole]
        omega
      · apply UInt8.toNat_inj.1
        rw [whole, UInt8.toNat_ofNat']
        omega

theorem eq_of_readWord32 {n : UInt32} (found : readWord32 bytes = some (n, rest)) :
    bytes = word32 n ++ rest := by
  match bytes, found with
  | a :: b :: c :: d :: later, found =>
      simp only [readWord32, Option.some.injEq, Prod.mk.injEq] at found
      obtain ⟨rfl, rfl⟩ := found
      have first := a.toNat_lt
      have second := b.toNat_lt
      have third := c.toNat_lt
      have fourth := d.toNat_lt
      have whole :
          (UInt32.ofNat (a.toNat + 256 * b.toNat + 65536 * c.toNat + 16777216 * d.toNat)).toNat =
            a.toNat + 256 * b.toNat + 65536 * c.toNat + 16777216 * d.toNat :=
        UInt32.toNat_ofNat_of_lt' (by simp only [UInt32.size]; omega)
      simp only [word32, List.cons_append, List.nil_append, List.cons.injEq, and_true]
      refine ⟨?_, ?_, ?_, ?_⟩
      · apply UInt8.toNat_inj.1
        rw [UInt32.toNat_toUInt8, whole]
        omega
      all_goals
        apply UInt8.toNat_inj.1
        rw [whole, UInt8.toNat_ofNat']
        omega

theorem exists_readWord32 (enough : 4 ≤ bytes.length) :
    ∃ n rest, readWord32 bytes = some (n, rest) := by
  match bytes, enough with
  | _ :: _ :: _ :: _ :: _, _ => exact ⟨_, _, rfl⟩

/-! ## Filling up between messages -/

/-- How many bytes are missing to a multiple of four. -/
def gap (bytes : Bytes) : Nat := aligned bytes.length - bytes.length

theorem length_add_gap (bytes : Bytes) : bytes.length + gap bytes = aligned bytes.length := by
  have := le_aligned bytes.length
  unfold gap
  omega

/-- What stands between `front` and `later` fills the front up to a multiple of four. If nothing
is later, some of it may be missing. -/
def Fills (front pad later : Bytes) : Prop :=
  pad.length = gap front ∨ pad.length ≤ gap front ∧ later = []

variable {front pad later : Bytes}

theorem drop_of_fills (fills : Fills front pad later) :
    (front ++ pad ++ later).drop (aligned front.length) = later := by
  rw [← length_add_gap]
  obtain full | ⟨part, rfl⟩ := fills
  · rw [← full, ← List.length_append, List.drop_left]
  · rw [List.append_nil, List.drop_eq_nil_iff, List.length_append]
    omega

/-- Bytes that are cut off at a length are filled up with those that come next. -/
theorem exists_fills {n : Nat} (there : n ≤ bytes.length) :
    ∃ pad, Fills (bytes.take n) pad (bytes.drop (aligned n)) ∧
      bytes = bytes.take n ++ pad ++ bytes.drop (aligned n) := by
  have size : (bytes.take n).length = n := List.length_take_of_le there
  have whole := length_add_gap (bytes.take n)
  rw [size] at whole
  refine ⟨(bytes.drop n).take (gap (bytes.take n)), ?_, ?_⟩
  · rw [Fills, List.length_take, List.length_drop, List.drop_eq_nil_iff]
    omega
  · rw [List.append_assoc, ← whole, ← List.drop_drop, List.take_append_drop,
      List.take_append_drop]

/-- Nothing is missing where the whole ends at a multiple of four. -/
theorem Fills.full (fills : Fills front pad later) (whole : 4 ∣ (front ++ pad ++ later).length) :
    pad.length = gap front ∧ 4 ∣ later.length := by
  have size := length_add_gap front
  simp only [List.length_append] at whole
  unfold aligned at size
  obtain full | ⟨part, rfl⟩ := fills
  · exact ⟨full, by omega⟩
  · rw [List.length_nil] at whole
    exact ⟨by omega, Nat.dvd_zero 4⟩

namespace Message

variable {m : Message} {messages : List Message} {form : Bytes}

/-! ## The first message -/

/-- The header of a message whose body has the given length, with any sender. -/
def header (m : Message) (length : Nat) (sender : UInt32) : Bytes :=
  word32 (.ofNat (length + 16)) ++ word16 m.type ++ word16 m.flags ++ word32 m.sequence ++
    word32 sender

@[simp] theorem length_header (m : Message) (length : Nat) (sender : UInt32) :
    (m.header length sender).length = 16 := rfl

theorem body_of_header_append (m : Message) (length : Nat) (sender : UInt32) (rest : Bytes) :
    ((m.header length sender ++ rest).take (length + 16)).drop 16 = rest.take length := by
  rw [List.drop_take, Nat.add_sub_cancel, List.drop_left' (length_header m length sender)]

theorem drop_header_append (m : Message) (length : Nat) (sender : UInt32) (rest : Bytes) :
    (m.header length sender ++ rest).drop (aligned (length + 16)) = rest.drop (aligned length) := by
  have further : aligned (length + 16) = 16 + aligned length := by
    unfold aligned
    omega
  rw [further, ← List.drop_drop, List.drop_left' (length_header m length sender)]

theorem read_header_append {length : Nat} (room : length + 16 < UInt32.size) (sender : UInt32)
    (there : length ≤ rest.length)
    (content : Payload.ofBody? m.type (rest.take length) = some m.payload) :
    read (m.header length sender ++ rest) = some (m, rest.drop (aligned length)) := by
  have stated : (UInt32.ofNat (length + 16)).toNat = length + 16 := UInt32.toNat_ofNat_of_lt' room
  have fields : m.header length sender ++ rest = word32 (.ofNat (length + 16)) ++ (word16 m.type ++
      (word16 m.flags ++ (word32 m.sequence ++ (word32 sender ++ rest)))) := rfl
  have whole : (m.header length sender ++ rest).length = 16 + rest.length := by
    rw [List.length_append, length_header]
  have body := body_of_header_append m length sender rest
  have behind := drop_header_append m length sender rest
  rw [← stated] at body behind
  rw [← behind]
  refine read_of_fields (fields ▸ readWord32_word32 _ _) (readWord16_word16 _ _)
    (readWord16_word16 _ _) (readWord32_word32 _ _) ?_ ?_ (body ▸ content)
  · omega
  · omega

/-- What is read begins with a header, which says where the body ends. -/
theorem exists_header_of_read (found : read bytes = some (m, rest)) :
    ∃ length sender behind, length + 16 < UInt32.size ∧ length ≤ behind.length ∧
      Payload.ofBody? m.type (behind.take length) = some m.payload ∧
      bytes = m.header length sender ++ behind ∧ rest = behind.drop (aligned length) := by
  obtain ⟨stated, afterLength, type, afterType, flags, afterFlags, sequence, afterSequence,
    payload, lengthFound, typeFound, flagsFound, sequenceFound, covers, there, content, rfl,
    rfl⟩ := fields_of_read found
  obtain rfl := Payload.type_of_ofBody? content
  obtain rfl := eq_of_readWord32 sequenceFound
  obtain rfl := eq_of_readWord16 flagsFound
  obtain rfl := eq_of_readWord16 typeFound
  obtain rfl := eq_of_readWord32 lengthFound
  obtain ⟨length, lengthEq⟩ := Nat.exists_eq_add_of_le' covers
  have room : length + 16 < UInt32.size := lengthEq ▸ stated.toNat_lt
  have statedEq : stated = .ofNat (length + 16) := by rw [← lengthEq, UInt32.ofNat_toNat]
  have enough : 4 ≤ afterSequence.length := by
    simp only [List.length_append, length_word32, length_word16] at there
    omega
  obtain ⟨sender, behind, senderFound⟩ := exists_readWord32 enough
  obtain rfl := eq_of_readWord32 senderFound
  subst statedEq
  have fields : word32 (.ofNat (length + 16)) ++ (word16 payload.type ++ (word16 flags ++
      (word32 sequence ++ (word32 sender ++ behind)))) =
        header ⟨flags, sequence, payload⟩ length sender ++ behind := rfl
  rw [lengthEq, fields] at content there ⊢
  rw [body_of_header_append] at content
  rw [drop_header_append]
  have size : length ≤ behind.length := by
    rw [List.length_append, length_header] at there
    omega
  exact ⟨length, sender, behind, room, size, content, rfl, rfl⟩

/-! ## Written forms -/

/-- The bytes that a message may be written as: a header that says how long the body is, and a
body that is read as the payload. -/
inductive Form (m : Message) : Bytes → Prop
  | mk (sender : UInt32) (body : Bytes) (room : body.length + 16 < UInt32.size)
      (content : Payload.ofBody? m.type body = some m.payload) :
      Form m (m.header body.length sender ++ body)

/-- The payload is read back, and its length has room in the header. -/
structure Fits (m : Message) : Prop where
  payload : m.payload.Fits
  room : m.payload.body.length + 16 < UInt32.size

theorem form_bytes (fits : m.Fits) : m.Form m.bytes :=
  .mk 0 m.payload.body fits.room (Payload.ofBody?_body fits.payload)

theorem gap_header_append (m : Message) (length : Nat) (sender : UInt32) (body : Bytes) :
    gap (m.header length sender ++ body) = gap body := by
  rw [gap, gap, List.length_append, length_header]
  unfold aligned
  omega

/-- A written form is read back, and what comes later stays. -/
theorem Form.read (written : m.Form form) (fills : Fills form pad later) :
    read (form ++ pad ++ later) = some (m, later) := by
  cases written with
  | mk sender body room content =>
      rw [Fills, gap_header_append] at fills
      have first : (body ++ pad ++ later).take body.length = body := by
        rw [List.append_assoc, List.take_left]
      have there : body.length ≤ (body ++ pad ++ later).length := by
        rw [List.append_assoc, List.length_append]
        omega
      have found := read_header_append room sender there (first.symm ▸ content)
      rw [drop_of_fills fills] at found
      simpa only [List.append_assoc] using found

/-- What is read is written at the front. -/
theorem exists_form_of_read (found : Message.read bytes = some (m, rest)) :
    ∃ form pad, m.Form form ∧ Fills form pad rest ∧ bytes = form ++ pad ++ rest := by
  obtain ⟨length, sender, behind, room, there, content, rfl, rfl⟩ := exists_header_of_read found
  obtain ⟨pad, fills, split⟩ := exists_fills there
  have size : (behind.take length).length = length := List.length_take_of_le there
  have written := Form.mk sender (behind.take length) (size.symm ▸ room) content
  rw [size] at written
  refine ⟨_, pad, written, ?_, ?_⟩
  · rwa [Fills, gap_header_append]
  · rw [List.append_assoc, List.append_assoc, ← List.append_assoc (behind.take length), ← split]

/-! ## Datagrams -/

/-- The bytes that messages may be written as: one form after another, each filled up to a
multiple of four but possibly the last. -/
inductive Datagram : List Message → Bytes → Prop
  | nil : Datagram [] []
  | cons {m : Message} {messages : List Message} {form pad later : Bytes}
      (written : m.Form form) (fills : Fills form pad later)
      (rest : Datagram messages later) : Datagram (m :: messages) (form ++ pad ++ later)

theorem readAll_eq_some_iff : readAll bytes = some messages ↔ Datagram messages bytes := by
  constructor
  · induction bytes using readAll.induct generalizing messages with
    | case1 bytes empty =>
        intro found
        rw [List.isEmpty_iff.1 empty, readAll_nil] at found
        cases found
        rw [List.isEmpty_iff.1 empty]
        exact .nil
    | case2 bytes nonempty found =>
        intro read
        rw [readAll_of_read_none (by simpa using nonempty) found] at read
        cases read
    | case3 bytes nonempty m rest found inductionHypothesis =>
        intro read
        rw [readAll_of_read found] at read
        obtain ⟨later, laterFound, rfl⟩ := Option.map_eq_some_iff.1 read
        obtain ⟨form, pad, written, fills, rfl⟩ := exists_form_of_read found
        exact .cons written fills (inductionHypothesis laterFound)
  · intro datagram
    induction datagram with
    | nil => exact readAll_nil
    | cons written fills rest inductionHypothesis =>
        rw [readAll_of_read (written.read fills), inductionHypothesis]
        rfl

/-- After a datagram that ends at a multiple of four, another is read as it is alone. -/
theorem readAll_append (found : readAll front = some messages) (full : 4 ∣ front.length)
    (other : Bytes) :
    readAll (front ++ other) = (readAll other).map (messages ++ ·) := by
  replace found := readAll_eq_some_iff.1 found
  induction found with
  | nil => simp
  | @cons m messages form pad later written fills rest inductionHypothesis =>
      obtain ⟨filled, fullLater⟩ := fills.full full
      have first : read (form ++ pad ++ (later ++ other)) = some (m, later ++ other) :=
        written.read (.inl filled)
      rw [List.append_assoc, readAll_of_read first, inductionHypothesis fullLater, Option.map_map]
      rfl

/-- Messages one after another, each filled up with zeros. -/
def packed (messages : List Message) : Bytes := messages.flatMap fun m => padded m.bytes

theorem dvd_length_packed (messages : List Message) : 4 ∣ (packed messages).length := by
  induction messages with
  | nil => exact Nat.dvd_zero 4
  | cons m rest inductionHypothesis =>
      rw [packed, List.flatMap_cons, List.length_append, length_padded]
      exact Nat.dvd_add (Nat.dvd_mul_left 4 _) inductionHypothesis

theorem readAll_packed (fit : ∀ m ∈ messages, m.Fits) :
    readAll (packed messages) = some messages := by
  rw [readAll_eq_some_iff]
  induction messages with
  | nil => exact .nil
  | cons m rest inductionHypothesis =>
      obtain ⟨first, later⟩ := List.forall_mem_cons.1 fit
      exact .cons (form_bytes first) (.inl List.length_replicate) (inductionHypothesis later)

/-- The last message need not be filled up. -/
theorem readAll_packed_append (fit : ∀ m ∈ messages, m.Fits) (lastFits : m.Fits) :
    readAll (packed messages ++ m.bytes) = some (messages ++ [m]) := by
  have fills : Fills m.bytes [] [] := .inr ⟨Nat.zero_le _, rfl⟩
  have last : Datagram [m] m.bytes := by
    simpa using Datagram.cons (form_bytes lastFits) fills .nil
  rw [readAll_append (readAll_packed fit) (dvd_length_packed messages),
    readAll_eq_some_iff.2 last]
  rfl

/-! ## Going through a buffer -/

/-- The first message, and the length that its header states. -/
def decode (bytes : Bytes) : Option (Nat × Message) := do
  let (m, _) ← read bytes
  let (length, _) ← readWord32 bytes
  return (length.toNat, m)

/-- The length that is stated covers the header, and is at most what is there. -/
theorem read_of_decode {length : Nat} (found : decode bytes = some (length, m)) :
    16 ≤ length ∧ length ≤ bytes.length ∧
      read bytes = some (m, bytes.drop (aligned length)) := by
  simp only [decode, Option.bind_eq_bind, Option.bind_eq_some_iff, Prod.exists] at found
  obtain ⟨m, rest, messageFound, stated, _, statedFound, chosen⟩ := found
  obtain ⟨length, _, _, _, _, _, _, _, _, lengthFound, _, _, _, covers, there, _, _, rfl⟩ :=
    fields_of_read messageFound
  rw [lengthFound] at statedFound
  cases statedFound
  cases chosen
  exact ⟨covers, there, messageFound⟩

theorem read_eq_none_of_decode (failed : decode bytes = none) : read bytes = none := by
  cases found : read bytes with
  | none => rfl
  | some first =>
      obtain ⟨_, _, _, _, _, _, _, _, _, lengthFound, _⟩ := fields_of_read found
      simp [decode, found, lengthFound] at failed

end Message

/-- How going through a buffer ends. -/
inductive Ending
  | split (messages : List Message)
  | failed (error : Error)
  | outOfRange
  /-- There were not enough turns. -/
  | unfinished
  deriving DecidableEq, Repr

/-- The end when the bytes that remain after the given messages are read. -/
def Ending.ofRead (before : List Message) : Option (List Message) → Ending
  | some messages => .split (before ++ messages)
  | none => .failed malformed

/-- The bytes of a buffer from an offset on, which must not lie beyond the end. -/
def sliceFrom? (buffer : Bytes) (offset : Nat) : Option Bytes :=
  if offset ≤ buffer.length then some (buffer.drop offset) else none

/-- How far a buffer is taken apart, and what was found so far. -/
structure Splitting where
  offset : Nat := 0
  messages : List Message := []
  deriving DecidableEq, Repr

namespace Splitting

variable {buffer : Bytes} {s : Splitting}

/-- One turn of the loop: as long as something remains, the next message is taken, and the offset
goes to the multiple of four at or after its end. -/
def turn (buffer : Bytes) (s : Splitting) : Ending ⊕ Splitting :=
  if s.offset < buffer.length then
    match sliceFrom? buffer s.offset with
    | none => .inl .outOfRange
    | some bytes =>
      match Message.decode bytes with
      | none => .inl (.failed malformed)
      | some (length, m) =>
        if length = 0 then .inl (.split s.messages)
        else .inr ⟨aligned (s.offset + length), s.messages ++ [m]⟩
  else .inl (.split s.messages)

def run (buffer : Bytes) : Nat → Splitting → Ending
  | 0, _ => .unfinished
  | turns + 1, s =>
    match turn buffer s with
    | .inl ending => ending
    | .inr next => run buffer turns next

/-- What a turn ends with, or leaves to be read, is what there is to be read. It goes forward by at
least the length of a header. -/
theorem turn_cases (buffer : Bytes) (whole : 4 ∣ s.offset) :
    turn buffer s = .inl (.ofRead s.messages (Message.readAll (buffer.drop s.offset))) ∨
      ∃ next, turn buffer s = .inr next ∧ 4 ∣ next.offset ∧
        s.offset < buffer.length ∧ s.offset + 16 ≤ next.offset ∧
        Ending.ofRead next.messages (Message.readAll (buffer.drop next.offset)) =
          .ofRead s.messages (Message.readAll (buffer.drop s.offset)) := by
  by_cases inside : s.offset < buffer.length
  · have sliced : sliceFrom? buffer s.offset = some (buffer.drop s.offset) :=
      if_pos (Nat.le_of_lt inside)
    simp only [turn, if_pos inside, sliced]
    cases found : Message.decode (buffer.drop s.offset) with
    | none =>
        have something : buffer.drop s.offset ≠ [] := by
          rw [Ne, List.drop_eq_nil_iff]
          omega
        rw [Message.readAll_of_read_none something (Message.read_eq_none_of_decode found)]
        exact .inl rfl
    | some first =>
        obtain ⟨length, m⟩ := first
        obtain ⟨covers, -, messageFound⟩ := Message.read_of_decode found
        have beyond : aligned (s.offset + length) = s.offset + aligned length := by
          unfold aligned
          omega
        have forward := le_aligned length
        rw [Message.readAll_of_read messageFound]
        refine .inr ⟨_, if_neg (by omega), Nat.dvd_mul_left 4 _, inside, ?_, ?_⟩
        · show s.offset + 16 ≤ aligned (s.offset + length)
          omega
        · show Ending.ofRead (s.messages ++ [m])
            (Message.readAll (buffer.drop (aligned (s.offset + length)))) = _
          rw [beyond, List.drop_drop]
          cases Message.readAll (buffer.drop (s.offset + aligned length)) with
          | none => rfl
          | some later => simp [Ending.ofRead]
  · have nothing : buffer.drop s.offset = [] := List.drop_eq_nil_iff.2 (Nat.le_of_not_lt inside)
    rw [nothing, Message.readAll_nil, turn, if_neg inside, Ending.ofRead, List.append_nil]
    exact .inl rfl

theorem run_eq_ofRead (turns : Nat) (whole : 4 ∣ s.offset)
    (enough : buffer.length ≤ s.offset + 16 * turns) :
    run buffer (turns + 1) s =
      .ofRead s.messages (Message.readAll (buffer.drop s.offset)) := by
  induction turns generalizing s with
  | zero =>
      obtain ended | ⟨next, -, -, inside, -, -⟩ := turn_cases buffer whole
      · rw [run, ended]
      · omega
  | succ turns inductionHypothesis =>
      rw [run]
      obtain ended | ⟨next, turned, wholeStill, -, forward, same⟩ := turn_cases buffer whole
      · rw [ended]
      · rw [turned]
        exact (inductionHypothesis wholeStill (by omega)).trans same

/-- A buffer is read as messages exactly if it is made of their written forms, and what follows a
buffer of full length is read as it is alone. Any buffer whatsoever is gone through in a bounded
number of turns, without looking beyond its end. -/
theorem run_splits_datagram (messages : List Message) (buffer other : Bytes) :
    (Message.readAll buffer = some messages ↔ Message.Datagram messages buffer) ∧
      ((∀ m ∈ messages, m.Fits) →
        Message.readAll (Message.packed messages) = some messages ∧
        ∀ last : Message, last.Fits →
          Message.readAll (Message.packed messages ++ last.bytes) = some (messages ++ [last])) ∧
      (Message.readAll buffer = some messages → 4 ∣ buffer.length →
        Message.readAll (buffer ++ other) = (Message.readAll other).map (messages ++ ·)) ∧
      run buffer ((buffer.length + 15) / 16 + 1) {} =
        match Message.readAll buffer with
        | some found => .split found
        | none => .failed malformed := by
  refine ⟨Message.readAll_eq_some_iff, ?_, ?_, ?_⟩
  · intro fit
    exact ⟨Message.readAll_packed fit, fun _ lastFits => Message.readAll_packed_append fit lastFits⟩
  · intro found full
    exact Message.readAll_append found full other
  · have enough : buffer.length ≤ 0 + 16 * ((buffer.length + 15) / 16) := by omega
    rw [run_eq_ofRead _ (Nat.dvd_zero 4) enough, List.drop_zero]
    cases Message.readAll buffer <;> rfl

/-- Two messages, the last of which has a body of one byte and lacks three to a multiple of four. -/
theorem run_splits_datagram_unfilled :
    let first : Message := ⟨0, 1, .noop⟩
    let second : Message := ⟨0, 2, .noop⟩
    let tail := second.header 1 0 ++ [7]
    first.Fits ∧ 4 ∣ (Message.packed [first]).length ∧ Message.Datagram [second] tail ∧
      Message.readAll (Message.packed [first] ++ tail) = some [first, second] := by
  intro first second tail
  have fits : first.Fits := ⟨trivial, by decide⟩
  have whole : 4 ∣ (Message.packed [first]).length := by decide
  have written : second.Form tail := .mk 0 [7] (by decide) rfl
  have unfilled : Fills tail [] [] := .inr ⟨Nat.zero_le _, rfl⟩
  have datagram := Message.Datagram.cons written unfilled .nil
  rw [List.append_nil, List.append_nil] at datagram
  have front : Message.readAll (Message.packed [first]) = some [first] :=
    ((run_splits_datagram _ [] []).2.1 (by simpa using fits)).1
  refine ⟨fits, whole, datagram, ?_⟩
  rw [(run_splits_datagram _ _ _).2.2.1 front whole, (run_splits_datagram _ _ []).1.2 datagram]
  rfl

end Splitting

end DefaultGateway.Netlink
