import Courier.Text.Octets

/-!
# Percent escapes

An octet of a URL can be written as a percent sign and two hexadecimal digits.
-/

namespace Courier.Http

/-- The value of a hexadecimal digit in either case. -/
def hexValue? (b : UInt8) : Option UInt8 :=
  if 0x30 ≤ b && b ≤ 0x39 then some (b - 0x30)
  else if 0x41 ≤ b && b ≤ 0x46 then some (b - 0x37)
  else if 0x61 ≤ b && b ≤ 0x66 then some (b - 0x57)
  else none

/-- Octets with every escape replaced by what it stands for; a percent sign that begins no escape stays. -/
def percentDecode : Octets → Octets
  | 0x25 :: a :: b :: s =>
    match hexValue? a, hexValue? b with
    | some h, some l => (h * 16 + l) :: percentDecode s
    | _, _ => 0x25 :: percentDecode (a :: b :: s)
  | b :: s => b :: percentDecode s
  | [] => []

/-- A hexadecimal digit in upper case. -/
def upperHex (n : UInt8) : Char := Char.ofNat (if n < 10 then 0x30 + n.toNat else 0x37 + n.toNat)

/-- An octet as an escape. -/
def escape (b : UInt8) : List Char := ['%', upperHex (b / 16), upperHex (b % 16)]

/-- A character, escaped octet by octet if it has to be. -/
def escapeChar (mustEscape : Char → Bool) (c : Char) : List Char :=
  if mustEscape c then (Octets.ofText (String.singleton c)).flatMap escape else [c]

/-- Characters with some of them escaped. -/
def percentEncode (mustEscape : Char → Bool) (cs : List Char) : List Char := cs.flatMap (escapeChar mustEscape)

end Courier.Http
