import Mathlib.Tactic.Ring
import DefaultGateway.Netlink.Message

/-!
# What is written is read back

Whatever a message is about, its payload is read back from the bytes that it is written as. For
this the lengths must fit their fields, and every value must have the form of its type.
-/

namespace DefaultGateway.Netlink

/-! ## Filling up -/

theorem le_aligned (n : Nat) : n ≤ aligned n := by
  unfold aligned
  omega

theorem length_padded (bytes : Bytes) : (padded bytes).length = aligned bytes.length := by
  have := le_aligned bytes.length
  rw [padded, List.length_append, List.length_replicate]
  omega

theorem take_padded_append (bytes rest : Bytes) :
    (padded bytes ++ rest).take bytes.length = bytes := by
  rw [padded, List.append_assoc, List.take_left]

theorem drop_padded_append (bytes rest : Bytes) :
    (padded bytes ++ rest).drop (aligned bytes.length) = rest := by
  rw [← length_padded, List.drop_left]

/-! ## Addresses -/

theorem bitsToBytes_zero (n : Nat) : bitsToBytes 0 n = [] := rfl

theorem bitsToBytes_succ (octets n : Nat) :
    bitsToBytes (octets + 1) n = (n / 256 ^ octets).toUInt8 :: bitsToBytes octets n := rfl

theorem length_bitsToBytes (octets n : Nat) : (bitsToBytes octets n).length = octets := by
  induction octets with
  | zero => rfl
  | succ octets inductionHypothesis => rw [bitsToBytes_succ, List.length_cons, inductionHypothesis]

theorem foldl_bitsToBytes (octets n before : Nat) :
    (bitsToBytes octets n).foldl (fun n byte => n * 256 + byte.toNat) before =
      before * 256 ^ octets + n % 256 ^ octets := by
  induction octets generalizing before with
  | zero => simp [bitsToBytes_zero, Nat.mod_one]
  | succ octets inductionHypothesis =>
      have first : (n / 256 ^ octets).toUInt8.toNat = n / 256 ^ octets % 256 := UInt8.toNat_ofNat'
      rw [bitsToBytes_succ, List.foldl_cons, inductionHypothesis, first, Nat.pow_succ, Nat.mod_mul]
      ring

theorem bytesToBits_bitsToBytes {octets n : Nat} (bound : n < 256 ^ octets) :
    bytesToBits (bitsToBytes octets n) = n := by
  rw [bytesToBits, foldl_bitsToBytes, Nat.zero_mul, Nat.zero_add, Nat.mod_eq_of_lt bound]

theorem length_addressBytes (a : Address) : (addressBytes a).length * 8 = a.family.width := by
  cases a <;> simp [addressBytes, length_bitsToBytes, Address.family, Family.width]

theorem addressOfBytes?_addressBytes (a : Address) :
    addressOfBytes? (addressBytes a) = some a := by
  cases a with
  | v4 bits =>
      have bound : bits.toNat < 256 ^ 4 := bits.isLt
      simp [addressOfBytes?, addressBytes, length_bitsToBytes, bytesToBits_bitsToBytes bound]
  | v6 bits =>
      have bound : bits.toNat < 256 ^ 16 := bits.isLt
      simp [addressOfBytes?, addressBytes, length_bitsToBytes, bytesToBits_bitsToBytes bound]

/-! ## Attributes -/

namespace Attribute

/-- The type has no meaningless bit set, and the length has room in its field. -/
structure Fits (a : Attribute) : Prop where
  type : a.type &&& 0x3fff = a.type
  length : a.value.length + 4 < UInt16.size

variable {a : Attribute} {bytes rest : Bytes}

theorem length_fields (length type : UInt16) (value : Bytes) :
    (word16 length ++ word16 type ++ value).length = value.length + 4 := by
  rw [List.length_append, List.length_append, length_word16, length_word16, Nat.add_comm]

theorem length_bytes (a : Attribute) : a.bytes.length = aligned (a.value.length + 4) := by
  rw [bytes, length_padded, length_fields]

theorem read_bytes (fits : a.Fits) (rest : Bytes) : read (a.bytes ++ rest) = some (a, rest) := by
  have fields :
      a.bytes ++ rest =
        word16 (.ofNat (a.value.length + 4)) ++ (word16 a.type ++ (a.bytes ++ rest).drop 4) := rfl
  have lengthFound := readWord16_word16 (.ofNat (a.value.length + 4))
    (word16 a.type ++ (a.bytes ++ rest).drop 4)
  rw [← fields] at lengthFound
  have unfilled : a.bytes =
      padded (word16 (.ofNat (a.value.length + 4)) ++ word16 a.type ++ a.value) := rfl
  generalize content :
    word16 (.ofNat (a.value.length + 4)) ++ word16 a.type ++ a.value = core at unfilled
  have size : core.length = a.value.length + 4 := by
    rw [← content, length_fields]
  have covered : (UInt16.ofNat (a.value.length + 4)).toNat = core.length :=
    (UInt16.toNat_ofNat_of_lt' fits.length).trans size.symm
  have value : core.drop 4 = a.value := by rw [← content]; rfl
  have enough : ¬(core.length < 4 ∨ (padded core ++ rest).length < core.length) := by
    have := le_aligned core.length
    rw [List.length_append, length_padded]
    omega
  rw [unfilled] at lengthFound ⊢
  simp only [read, lengthFound, readWord16_word16, Option.bind_eq_bind, Option.bind_some, covered,
    if_neg enough, take_padded_append, drop_padded_append, value, fits.type]

theorem readAll_nil : readAll [] = some [] := by
  rw [readAll]
  rfl

theorem readAll_of_read (found : read bytes = some (a, rest)) :
    readAll bytes = (readAll rest).map (a :: ·) := by
  have something : bytes ≠ [] := by
    rintro rfl
    cases found
  rw [readAll, if_neg (by simpa using something)]
  split
  · rename_i nothing
    rw [found] at nothing
    cases nothing
  · rename_i present
    rw [found] at present
    cases present
    rfl

theorem readAll_flatMap_bytes {attributes : List Attribute} (fit : ∀ a ∈ attributes, a.Fits) :
    readAll (attributes.flatMap Attribute.bytes) = some attributes := by
  induction attributes with
  | nil => exact readAll_nil
  | cons a rest inductionHypothesis =>
      obtain ⟨first, later⟩ := List.forall_mem_cons.1 fit
      rw [List.flatMap_cons, readAll_of_read (read_bytes first _), inductionHypothesis later]
      rfl

end Attribute

/-! ## Records -/

/-- The attributes fit, and have values of their form. -/
def AllFit (hasValue : Attribute → Bool) (attributes : List Attribute) : Prop :=
  ∀ a ∈ attributes, a.Fits ∧ hasValue a = true

theorem AllFit.readAll {hasValue : Attribute → Bool} {attributes : List Attribute}
    (fit : AllFit hasValue attributes) :
    Attribute.readAll (attributes.flatMap Attribute.bytes) = some attributes :=
  Attribute.readAll_flatMap_bytes fun a member => (fit a member).1

theorem AllFit.all {hasValue : Attribute → Bool} {attributes : List Attribute}
    (fit : AllFit hasValue attributes) : attributes.all hasValue = true :=
  List.all_eq_true.2 fun a member => (fit a member).2

theorem LinkRecord.ofBody?_body {r : LinkRecord} (fit : AllFit hasValue r.attributes) :
    ofBody? r.body = some r := by
  have fields : r.body =
      r.family :: 0 :: 0 :: 0 :: (word32 r.index ++ (word32 r.flags ++
        (word32 r.changed ++ r.attributes.flatMap Attribute.bytes))) := rfl
  simp only [fields, ofBody?, readWord32_word32, Option.bind_eq_bind, Option.bind_some,
    fit.readAll, fit.all, if_true]

theorem AddressRecord.ofBody?_body {r : AddressRecord} (fit : AllFit hasValue r.attributes) :
    ofBody? r.body = some r := by
  have fields : r.body =
      r.family :: r.length :: 0 :: 0 ::
        (word32 r.index ++ r.attributes.flatMap Attribute.bytes) := rfl
  simp only [fields, ofBody?, readWord32_word32, Option.bind_eq_bind, Option.bind_some,
    fit.readAll, fit.all, if_true]

theorem RouteRecord.ofBody?_body {r : RouteRecord}
    (fit : AllFit (hasValue r.family) r.attributes) : ofBody? r.body = some r := by
  have fields : r.body =
      r.family :: r.length :: 0 :: 0 :: r.table :: r.protocol :: r.scope :: r.type ::
        0 :: 0 :: 0 :: 0 :: r.attributes.flatMap Attribute.bytes := rfl
  simp only [fields, ofBody?, Option.bind_eq_bind, Option.bind_some, fit.readAll, fit.all,
    if_true]

namespace Record

/-- The record is of a kind that there is, and its attributes fit. -/
def Fits : Record → Prop
  | .link _ r => AllFit LinkRecord.hasValue r.attributes
  | .address verb r => verb ≠ .set ∧ AllFit AddressRecord.hasValue r.attributes
  | .route verb r => verb ≠ .set ∧ AllFit (RouteRecord.hasValue r.family) r.attributes
  | .other type bytes => (otherOfBody? type bytes).isSome = true

/-- A body that is not as short as a request of the family alone is read in full. -/
theorem shortGet_eq_none {body : Bytes} {family : UInt8} {n : Nat} (long : 4 < body.length) :
    shortGet body family n = none := by
  unfold shortGet
  split <;> first | rfl | omega

theorem bind_shortGet_eq_none {body : Bytes} {n : Nat} (long : 4 < body.length) :
    (body.head?.bind fun family => shortGet body family n) = none := by
  cases body.head? with
  | none => rfl
  | some family => exact shortGet_eq_none long

theorem eq_other_of_otherOfBody? {type : UInt16} {bytes : Bytes} {r : Record}
    (found : otherOfBody? type bytes = some r) :
    r = .other type bytes ∧ (otherLength? type.toNat).isSome = true := by
  simp only [otherOfBody?, Option.bind_eq_bind, Option.bind_eq_some_iff] at found
  obtain ⟨length, known, found⟩ := found
  split at found
  · cases found
  · obtain ⟨_, _, rfl⟩ := Option.map_eq_some_iff.1 found
    exact ⟨rfl, known ▸ rfl⟩

theorem ofBody?_other {type : UInt16} {bytes : Bytes}
    (known : (otherLength? type.toNat).isSome = true) :
    ofBody? type bytes = otherOfBody? type bytes := by
  simp only [ofBody?]
  split
  case h_11 => rfl
  all_goals
    rename_i used
    rw [used] at known
    cases known

theorem ofBody?_body {r : Record} (fits : r.Fits) : ofBody? r.type r.body = some r := by
  cases r with
  | link verb r =>
      have long : 4 < r.body.length := by simp [LinkRecord.body]
      cases verb <;>
        simp [ofBody?, type, type.offset, body, bind_shortGet_eq_none long,
          LinkRecord.ofBody?_body fits]
  | address verb r =>
      have long : 4 < r.body.length := by simp [AddressRecord.body]
      cases verb with
      | set => exact absurd rfl fits.1
      | _ =>
          simp [ofBody?, type, type.offset, body, bind_shortGet_eq_none long,
            AddressRecord.ofBody?_body fits.2]
  | route verb r =>
      have long : 4 < r.body.length := by simp [RouteRecord.body]
      cases verb with
      | set => exact absurd rfl fits.1
      | _ =>
          simp [ofBody?, type, type.offset, body, bind_shortGet_eq_none long,
            RouteRecord.ofBody?_body fits.2]
  | other type bytes =>
      obtain ⟨r, found⟩ := Option.isSome_iff_exists.1 fits
      obtain ⟨rfl, known⟩ := eq_other_of_otherOfBody? found
      exact (ofBody?_other known).trans found

end Record

/-! ## Payloads -/

namespace Payload

def Fits : Payload → Prop
  | .record r => r.Fits
  | _ => True

theorem ofBody?_body {p : Payload} (fits : p.Fits) : ofBody? p.type p.body = some p := by
  have codeFound (code : Int32) : readWord32 (word32 code.toUInt32) = some (code.toUInt32, []) := by
    simpa using readWord32_word32 code.toUInt32 []
  cases p with
  | noop => rfl
  | overrun => rfl
  | error code => simp [ofBody?, type, body, codeFound]
  | done code =>
      have nonempty : (word32 code.toUInt32).isEmpty = false := rfl
      simp [ofBody?, type, body, codeFound, nonempty]
  | record r =>
      have found := Record.ofBody?_body fits
      rw [type, body, ofBody?]
      split
      case h_5 => rw [found]; rfl
      -- The other types are those of the other payloads, under which no record travels.
      all_goals
        rename_i reserved
        simp [Record.ofBody?, reserved, Record.otherOfBody?, Record.otherLength?] at found

end Payload

end DefaultGateway.Netlink
