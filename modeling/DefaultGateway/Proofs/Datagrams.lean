import DefaultGateway.Netlink.Message

/-!
# Messages taken out of a datagram

A message is read off the front of a datagram, up to where its header says, and what comes after
plays no part in it. So messages can be taken out of a datagram without a trace: the others are
read as before.
-/

namespace DefaultGateway.Netlink

variable {bytes front rest later : Bytes}

/-! ## Words at the front -/

/-- A word that lies in the front is read from there, whatever follows. -/
theorem readWord16_front {n : UInt16} (enough : 2 ≤ front.length)
    (found : readWord16 (front ++ later) = some (n, rest)) :
    ∃ remaining, front.length = remaining.length + 2 ∧ rest = remaining ++ later ∧
      ∀ other, readWord16 (front ++ other) = some (n, remaining ++ other) := by
  match front, enough with
  | _ :: _ :: remaining, _ =>
      simp only [List.cons_append, readWord16, Option.some.injEq, Prod.mk.injEq] at found
      obtain ⟨rfl, rfl⟩ := found
      exact ⟨remaining, rfl, rfl, fun _ => rfl⟩

theorem readWord32_front {n : UInt32} (enough : 4 ≤ front.length)
    (found : readWord32 (front ++ later) = some (n, rest)) :
    ∃ remaining, front.length = remaining.length + 4 ∧ rest = remaining ++ later ∧
      ∀ other, readWord32 (front ++ other) = some (n, remaining ++ other) := by
  match front, enough with
  | _ :: _ :: _ :: _ :: remaining, _ =>
      simp only [List.cons_append, readWord32, Option.some.injEq, Prod.mk.injEq] at found
      obtain ⟨rfl, rfl⟩ := found
      exact ⟨remaining, rfl, rfl, fun _ => rfl⟩

namespace Message

variable {m : Message}

/-! ## The bytes of the first message -/

/-- The bytes that the first message takes up, when `rest` is what it leaves. -/
def frame (bytes rest : Bytes) : Bytes := bytes.take (bytes.length - rest.length)

/-- The fields of a message, and the length in its header, which covers the header. -/
theorem fields_of_read (found : read bytes = some (m, rest)) :
    ∃ length afterLength type afterType flags afterFlags sequence afterSequence payload,
      readWord32 bytes = some (length, afterLength) ∧
      readWord16 afterLength = some (type, afterType) ∧
      readWord16 afterType = some (flags, afterFlags) ∧
      readWord32 afterFlags = some (sequence, afterSequence) ∧
      16 ≤ length.toNat ∧ length.toNat ≤ bytes.length ∧
      Payload.ofBody? type ((bytes.take length.toNat).drop 16) = some payload ∧
      m = ⟨flags, sequence, payload⟩ ∧ rest = bytes.drop (aligned length.toNat) := by
  simp only [read, Option.bind_eq_bind, Option.bind_eq_some_iff, Prod.exists] at found
  obtain ⟨length, afterLength, lengthFound, type, afterType, typeFound, flags, afterFlags,
    flagsFound, sequence, afterSequence, sequenceFound, chosen⟩ := found
  split at chosen
  · cases chosen
  · rename_i inRange
    obtain ⟨payload, payloadFound, made⟩ := Option.bind_eq_some_iff.1 chosen
    simp only [Option.some.injEq, Prod.mk.injEq] at made
    exact ⟨length, afterLength, type, afterType, flags, afterFlags, sequence, afterSequence,
      payload, lengthFound, typeFound, flagsFound, sequenceFound, by omega, by omega,
      payloadFound, made.1.symm, made.2.symm⟩

theorem read_of_fields
    {length sequence : UInt32} {type flags : UInt16} {payload : Payload}
    {afterLength afterType afterFlags afterSequence : Bytes}
    (lengthFound : readWord32 bytes = some (length, afterLength))
    (typeFound : readWord16 afterLength = some (type, afterType))
    (flagsFound : readWord16 afterType = some (flags, afterFlags))
    (sequenceFound : readWord32 afterFlags = some (sequence, afterSequence))
    (covers : 16 ≤ length.toNat) (there : length.toNat ≤ bytes.length)
    (payloadFound :
      Payload.ofBody? type ((bytes.take length.toNat).drop 16) = some payload) :
    read bytes = some (⟨flags, sequence, payload⟩, bytes.drop (aligned length.toNat)) := by
  have inRange : ¬(length.toNat < 16 ∨ bytes.length < length.toNat) := by omega
  simp only [read, Option.bind_eq_bind, lengthFound, typeFound, flagsFound, sequenceFound,
    Option.bind_some, if_neg inRange, payloadFound]

/-- The first message is read off its own bytes. Only the last message of a datagram may lack the
bytes up to the next multiple of four, so that nothing can follow it. -/
theorem read_frame_append
    (found : read bytes = some (m, rest)) (last : rest = [] → later = []) :
    read (frame bytes rest ++ later) = some (m, later) := by
  obtain ⟨length, afterLength, type, afterType, flags, afterFlags, sequence, afterSequence,
    payload, lengthFound, typeFound, flagsFound, sequenceFound, covers, there, payloadFound,
    rfl, restEq⟩ := fields_of_read found
  have alignedLength : length.toNat ≤ aligned length.toNat := by unfold aligned; omega
  have restLength : rest.length = bytes.length - aligned length.toNat := by
    rw [restEq, List.length_drop]
  have frameLength : (frame bytes rest).length = min (aligned length.toNat) bytes.length := by
    rw [frame, List.length_take]
    omega
  have split : frame bytes rest ++ bytes.drop (bytes.length - rest.length) = bytes :=
    List.take_append_drop _ _
  generalize bytes.drop (bytes.length - rest.length) = behind at split
  rw [← split] at lengthFound
  obtain ⟨inLength, lengthSize, rfl, readLength⟩ := readWord32_front (by omega) lengthFound
  obtain ⟨inType, typeSize, rfl, readType⟩ := readWord16_front (by omega) typeFound
  obtain ⟨inFlags, flagsSize, rfl, readFlags⟩ := readWord16_front (by omega) flagsFound
  obtain ⟨_, _, rfl, readSequence⟩ := readWord32_front (by omega) sequenceFound
  have same : (frame bytes rest ++ later).take length.toNat = bytes.take length.toNat := by
    rw [List.take_append_of_le_length (by omega), frame, List.take_take]
    congr 1
    omega
  rw [← same] at payloadFound
  have whole := read_of_fields (readLength later) (readType later) (readFlags later)
    (readSequence later) covers (by rw [List.length_append]; omega) payloadFound
  have dropped : (frame bytes rest ++ later).drop (aligned length.toNat) = later := by
    by_cases nothing : rest = []
    · rw [last nothing, List.append_nil, List.drop_eq_nil_iff]
      omega
    · have something := List.length_pos_iff.2 nothing
      rw [List.drop_append_of_le_length (by omega), List.drop_of_length_le (by omega),
        List.nil_append]
  rw [whole, dropped]

/-! ## All messages of a datagram -/

theorem readAll_nil : readAll [] = some [] := by
  rw [readAll]
  rfl

theorem read_nil : read [] = none := rfl

theorem readAll_of_read_none
    (something : bytes ≠ []) (found : read bytes = none) : readAll bytes = none := by
  rw [readAll, if_neg (by simpa using something)]
  split
  · rfl
  · rename_i message
    rw [found] at message
    cases message

theorem readAll_of_read (found : read bytes = some (m, rest)) :
    readAll bytes = (readAll rest).map (m :: ·) := by
  have something : bytes ≠ [] := by
    rintro rfl
    rw [read_nil] at found
    cases found
  rw [readAll, if_neg (by simpa using something)]
  split
  · rename_i nothing
    rw [found] at nothing
    cases nothing
  · rename_i message
    rw [found] at message
    cases message
    rfl

/-- A datagram without the messages that are not to be kept. From where it stops being well
formed, it stays as it is. -/
def keepOnly (keep : Message → Bool) (bytes : Bytes) : Bytes :=
  match _found : read bytes with
  | none => bytes
  | some (m, rest) =>
    if keep m then frame bytes rest ++ keepOnly keep rest else keepOnly keep rest
termination_by bytes.length
decreasing_by all_goals exact length_lt_of_read ‹_›

variable {keep : Message → Bool}

theorem keepOnly_of_read_none (found : read bytes = none) : keepOnly keep bytes = bytes := by
  rw [keepOnly]
  split
  · rfl
  · rename_i message
    rw [found] at message
    cases message

theorem keepOnly_of_read (found : read bytes = some (m, rest)) :
    keepOnly keep bytes =
      if keep m then frame bytes rest ++ keepOnly keep rest else keepOnly keep rest := by
  rw [keepOnly]
  split
  · rename_i nothing
    rw [found] at nothing
    cases nothing
  · rename_i message
    rw [found] at message
    cases message
    rfl

theorem keepOnly_nil : keepOnly keep [] = [] := keepOnly_of_read_none read_nil

/-- What is left of a datagram holds the messages that are kept, and no others. It is malformed
where the datagram is. -/
theorem readAll_keepOnly (keep : Message → Bool) (bytes : Bytes) :
    readAll (keepOnly keep bytes) = (readAll bytes).map (·.filter keep) := by
  induction bytes using readAll.induct with
  | case1 bytes empty =>
      rw [List.isEmpty_iff.1 empty, keepOnly_nil, readAll_nil]
      rfl
  | case2 bytes nonempty found =>
      have something : bytes ≠ [] := by simpa using nonempty
      rw [keepOnly_of_read_none found, readAll_of_read_none something found]
      rfl
  | case3 bytes nonempty m rest found inductionHypothesis =>
      rw [keepOnly_of_read found, readAll_of_read found]
      cases kept : keep m with
      | true =>
          have last : rest = [] → keepOnly keep rest = [] := by
            rintro rfl
            exact keepOnly_nil
          rw [if_pos rfl, readAll_of_read (read_frame_append found last), inductionHypothesis]
          simp only [Option.map_map]
          congr 1
          funext messages
          simp [kept]
      | false =>
          rw [if_neg (by decide), inductionHypothesis]
          simp only [Option.map_map]
          congr 1
          funext messages
          simp [kept]

end Message

end DefaultGateway.Netlink
