import DefaultGateway.Netlink.Bytes
import DefaultGateway.Text.Hex

/-!
Bytes in hexadecimal text: two lower-case digits for each. Reading takes digits of either case.

Main statement: `ofHex?_toHex`, reading gives back what was written.
-/

namespace DefaultGateway.Netlink

/-- The digit of a value below 16. -/
def hexDigit (n : Nat) : Char := "0123456789abcdef".toList.getD n '0'

def hexChars (bytes : Bytes) : List Char :=
  bytes.flatMap fun byte => [hexDigit (byte.toNat / 16), hexDigit (byte.toNat % 16)]

def toHex (bytes : Bytes) : String := .ofList (hexChars bytes)

def readHexBytes : List Char → Option Bytes
  | [] => some []
  | high :: low :: rest => do
    let byte := 16 * (← Text.hexDigitValue? high) + (← Text.hexDigitValue? low)
    return .ofNat byte :: (← readHexBytes rest)
  | [_] => none

def ofHex? (text : String) : Option Bytes := readHexBytes text.toList

theorem hexDigitValue?_hexDigit {n : Nat} (small : n < 16) :
    Text.hexDigitValue? (hexDigit n) = some n := by
  have all : ∀ n : Fin 16, Text.hexDigitValue? (hexDigit n) = some n.val := by decide
  exact all ⟨n, small⟩

theorem readHexBytes_hexChars (bytes : Bytes) : readHexBytes (hexChars bytes) = some bytes := by
  induction bytes with
  | nil => rfl
  | cons byte rest inductionHypothesis =>
    have bound := byte.toNat_lt
    have whole : 16 * (byte.toNat / 16) + byte.toNat % 16 = byte.toNat := by omega
    rw [show hexChars (byte :: rest) = hexDigit (byte.toNat / 16) :: hexDigit (byte.toNat % 16) ::
        hexChars rest from rfl]
    simp only [readHexBytes, hexDigitValue?_hexDigit (show byte.toNat / 16 < 16 by omega),
      hexDigitValue?_hexDigit (show byte.toNat % 16 < 16 by omega), inductionHypothesis,
      Option.bind_eq_bind, Option.bind_some, whole, UInt8.ofNat_toNat]
    rfl

theorem ofHex?_toHex (bytes : Bytes) : ofHex? (toHex bytes) = some bytes := by
  simpa [ofHex?, toHex] using readHexBytes_hexChars bytes

end DefaultGateway.Netlink
