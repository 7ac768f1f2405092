/-!
Words as bytes, the least significant byte first.

Main statements: `readWord16_word16` and `readWord32_word32`, reading gives back what was written.
-/

namespace DefaultGateway.Netlink

abbrev Bytes := List UInt8

def word16 (n : UInt16) : Bytes := [n.toUInt8, (n.toNat / 256).toUInt8]

def word32 (n : UInt32) : Bytes :=
  [n.toUInt8, (n.toNat / 256).toUInt8, (n.toNat / 65536).toUInt8, (n.toNat / 16777216).toUInt8]

/-- The word of the first two bytes, and the bytes after it. -/
def readWord16 : Bytes → Option (UInt16 × Bytes)
  | a :: b :: rest => some (.ofNat (a.toNat + 256 * b.toNat), rest)
  | _ => none

/-- The word of the first four bytes, and the bytes after it. -/
def readWord32 : Bytes → Option (UInt32 × Bytes)
  | a :: b :: c :: d :: rest =>
    some (.ofNat (a.toNat + 256 * b.toNat + 65536 * c.toNat + 16777216 * d.toNat), rest)
  | _ => none

/-- The word that exactly four bytes make. -/
def exactWord32 (bytes : Bytes) : Option UInt32 :=
  match readWord32 bytes with
  | some (n, []) => some n
  | _ => none

@[simp] theorem length_word16 (n : UInt16) : (word16 n).length = 2 := rfl

@[simp] theorem length_word32 (n : UInt32) : (word32 n).length = 4 := rfl

theorem readWord16_word16 (n : UInt16) (rest : Bytes) :
    readWord16 (word16 n ++ rest) = some (n, rest) := by
  have bound := n.toNat_lt
  simp only [word16, readWord16, List.cons_append, List.nil_append, Option.some.injEq,
    Prod.mk.injEq, and_true]
  apply UInt16.toNat_inj.1
  simp only [UInt16.toNat_toUInt8, Nat.toUInt8, UInt8.toNat_ofNat', UInt16.toNat_ofNat']
  omega

theorem readWord32_word32 (n : UInt32) (rest : Bytes) :
    readWord32 (word32 n ++ rest) = some (n, rest) := by
  have bound := n.toNat_lt
  simp only [word32, readWord32, List.cons_append, List.nil_append, Option.some.injEq,
    Prod.mk.injEq, and_true]
  apply UInt32.toNat_inj.1
  simp only [UInt32.toNat_toUInt8, Nat.toUInt8, UInt8.toNat_ofNat', UInt32.toNat_ofNat']
  omega

theorem exactWord32_word32 (n : UInt32) : exactWord32 (word32 n) = some n := by
  have := readWord32_word32 n []
  rw [List.append_nil] at this
  simp [exactWord32, this]

/-- The bytes of an address, the first octet first. -/
def bitsToBytes (octets : Nat) (n : Nat) : Bytes :=
  match octets with
  | 0 => []
  | octets + 1 => (n / 256 ^ octets).toUInt8 :: bitsToBytes octets n

/-- The number that bytes make, the most significant first. -/
def bytesToBits (bytes : Bytes) : Nat := bytes.foldl (fun n byte => n * 256 + byte.toNat) 0

end DefaultGateway.Netlink
