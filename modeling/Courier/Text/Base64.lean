import Courier.Text.Octets

/-!
# Base 64

Octets written with sixty-four characters, four for every three octets. What is missing from the last three is made up
with equals signs.
-/

namespace Courier.Base64

/-- The character of a digit. -/
def digit (n : Nat) : Char :=
  Char.ofNat
    (if n < 26 then 0x41 + n else if n < 52 then 0x61 + (n - 26) else if n < 62 then 0x30 + (n - 52)
      else if n = 62 then 0x2B else 0x2F)

/-- The digits of a number, so many of them from the highest of four on. -/
def digits (count n : Nat) : List Char :=
  ([n / 0x40000, n / 0x1000 % 64, n / 64 % 64, n % 64].take count).map digit

/-- Octets as characters. -/
def encode : Octets → List Char
  | a :: b :: c :: os => digits 4 (a.toNat * 0x10000 + b.toNat * 0x100 + c.toNat) ++ encode os
  | [a, b] => digits 3 (a.toNat * 0x10000 + b.toNat * 0x100) ++ ['=']
  | [a] => digits 2 (a.toNat * 0x10000) ++ ['=', '=']
  | [] => []

end Courier.Base64
