import DefaultGateway.Address.Basic
import DefaultGateway.Netlink.Bytes

/-!
Attributes: values with a type and a length, one after another, each filled up to a multiple of
four bytes.
-/

namespace DefaultGateway.Netlink

/-- An attribute whose value has not been looked at. -/
structure Attribute where
  type : UInt16
  value : Bytes
  deriving DecidableEq, Repr, Inhabited

def aligned (n : Nat) : Nat := (n + 3) / 4 * 4

/-- Bytes filled up with zeros to a multiple of four. -/
def padded (bytes : Bytes) : Bytes :=
  bytes ++ List.replicate (aligned bytes.length - bytes.length) 0

namespace Attribute

def bytes (a : Attribute) : Bytes :=
  padded (word16 (.ofNat (a.value.length + 4)) ++ word16 a.type ++ a.value)

/-- Reads one attribute, and gives the bytes from the next on. The two highest bits of the type
carry no meaning here. -/
def read (bytes : Bytes) : Option (Attribute × Bytes) := do
  let (length, rest) ← readWord16 bytes
  let (type, _) ← readWord16 rest
  let length := length.toNat
  if length < 4 ∨ bytes.length < length then none
  else some (⟨type &&& 0x3fff, (bytes.take length).drop 4⟩, bytes.drop (aligned length))

theorem length_lt_of_read {bytes rest : Bytes} {a : Attribute}
    (found : read bytes = some (a, rest)) : rest.length < bytes.length := by
  simp only [read, Option.bind_eq_bind, Option.bind_eq_some_iff, Prod.exists] at found
  obtain ⟨length, _, _, _, _, _, chosen⟩ := found
  split at chosen
  · cases chosen
  · rename_i inRange
    simp only [Option.some.injEq, Prod.mk.injEq] at chosen
    rw [← chosen.2]
    simp only [aligned, List.length_drop]
    omega

def readAll (bytes : Bytes) : Option (List Attribute) :=
  if bytes.isEmpty then some []
  else
    match _found : read bytes with
    | none => none
    | some (first, rest) => (readAll rest).map (first :: ·)
termination_by bytes.length
decreasing_by exact length_lt_of_read ‹_›

end Attribute

def addressBytes : Address → Bytes
  | .v4 bits => bitsToBytes 4 bits.toNat
  | .v6 bits => bitsToBytes 16 bits.toNat

/-- The address that four or sixteen bytes make. -/
def addressOfBytes? (bytes : Bytes) : Option Address :=
  if bytes.length = 4 then some (.v4 (.ofNat 32 (bytesToBits bytes)))
  else if bytes.length = 16 then some (.v6 (.ofNat 128 (bytesToBits bytes)))
  else none

/-- A name; one zero byte at its end is not part of it. -/
def nameOfBytes? (bytes : Bytes) : Option String :=
  let bytes := if bytes.getLast? = some 0 then bytes.dropLast else bytes
  String.fromUTF8? ⟨bytes.toArray⟩

end DefaultGateway.Netlink
