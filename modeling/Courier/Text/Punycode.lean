/-!
# Punycode

Characters beyond ASCII written with ASCII letters and digits. The ASCII characters of a text come first; behind a
hyphen stand numbers that say which other characters go where, in the order of their code points. A number is written
with its lowest digit first, and a digit below the threshold of its place is the last one; the thresholds follow the
numbers before (`bias`).
-/

namespace Courier.Punycode

/-- The first code point that has to be encoded. -/
def firstCode : Nat := 0x80

/-- The bias before the first number. -/
def firstBias : Nat := 72

/-- The threshold of a place, counted in steps of 36. -/
def threshold (bias place : Nat) : Nat := if place ≤ bias then 1 else min 26 (place - bias)

/-- How often a number is scaled down by 35 until it is small, in steps of 36, and what is left of it. -/
def scale (steps n : Nat) : Nat × Nat := if 455 < n then scale (steps + 36) (n / 35) else (steps, n)
termination_by n

/-- The bias after a number, when so many characters have been placed. -/
def nextBias (number placed : Nat) (isFirst : Bool) : Nat :=
  let n := if isFirst then number / 700 else number / 2
  let (steps, n) := scale 0 (n + n / placed)
  steps + 36 * n / (n + 38)

/-- A digit as a character. -/
def digitChar (d : Nat) : Char := Char.ofNat (if d < 26 then 0x61 + d else 0x30 + (d - 26))

/-- The value of a digit. -/
def digit? (c : Char) : Option Nat :=
  if c.isLower then some (c.toNat - 0x61)
  else if c.isUpper then some (c.toNat - 0x41)
  else if c.isDigit then some (c.toNat - 0x30 + 26)
  else none

/-! ## Encoding -/

/-- The digits of a number from a place on. -/
def numberFrom (bias place n : Nat) : List Char :=
  let t := threshold bias place
  if n < t then [digitChar n]
  else digitChar (t + (n - t) % (36 - t)) :: numberFrom bias (place + 36) ((n - t) / (36 - t))
termination_by n
decreasing_by
  have : 1 ≤ threshold bias place := by unfold threshold; split <;> omega
  exact Nat.lt_of_le_of_lt (Nat.div_le_self _ _) (by omega)

/-- How far a text has been encoded. -/
structure Encoding where
  /-- The digits so far, last first. -/
  digits : List Char
  /-- The number that is being counted. -/
  number : Nat
  bias : Nat
  /-- How many characters have been placed. -/
  placed : Nat

/-- Passes a character in search of those with a code point; `plain` characters need no place. -/
def Encoding.pass (plain code : Nat) (e : Encoding) (c : Char) : Encoding :=
  if c.toNat < code then { e with number := e.number + 1 }
  else if c.toNat = code then
    { digits := (numberFrom e.bias 36 e.number).reverse ++ e.digits
      number := 0
      bias := nextBias e.number (e.placed + 1) (e.placed == plain)
      placed := e.placed + 1 }
  else e

/-- Places the characters with the given code points, which grow from `next` on. -/
def Encoding.place (plain : Nat) (cs : List Char) (e : Encoding) (next : Nat) : List Nat → Encoding
  | [] => e
  | code :: codes =>
    let e := { e with number := e.number + (code - next) * (e.placed + 1) }
    let e := cs.foldl (pass plain code) e
    place plain cs { e with number := e.number + 1 } (code + 1) codes

/-- A number among growing ones, once. -/
def insertCode (n : Nat) : List Nat → List Nat
  | [] => [n]
  | m :: ms => if n < m then n :: m :: ms else if n = m then m :: ms else m :: insertCode n ms

/-- A text encoded. -/
def encode (cs : List Char) : List Char :=
  let plain := cs.filter fun c => c.toNat < firstCode
  let codes := (cs.filter fun c => firstCode ≤ c.toNat).foldl (fun codes c => insertCode c.toNat codes) []
  let e := Encoding.place plain.length cs ⟨[], 0, firstBias, plain.length⟩ firstCode codes
  plain ++ (if plain = [] then [] else ['-']) ++ e.digits.reverse

/-! ## Decoding -/

/-- How far a text has been decoded. -/
structure Decoding where
  /-- The characters so far. -/
  chars : List Char
  code : Nat
  bias : Nat
  /-- Where the last number ended, counting round the characters. -/
  start : Nat
  /-- The number that is being read, added to where the last one ended. -/
  index : Nat
  /-- The weight of the next digit. -/
  weight : Nat
  /-- The place of the next digit. -/
  place : Nat

/-- Puts a character at an index. -/
def insertAt (index : Nat) (c : Char) (cs : List Char) : List Char := cs.take index ++ c :: cs.drop index

/-- Reads a digit. -/
def Decoding.read (s : Decoding) (c : Char) : Option Decoding := do
  let d ← digit? c
  let index := s.index + d * s.weight
  let t := threshold s.bias s.place
  if d < t then
    let count := s.chars.length + 1
    let code := s.code + index / count
    guard (code.isValidChar)
    let index := index % count
    some
      { chars := insertAt index (Char.ofNat code) s.chars
        code := code
        bias := nextBias (s.index + d * s.weight - s.start) count (s.start == 0)
        start := index + 1
        index := index + 1
        weight := 1
        place := 36 }
  else some { s with index := index, weight := s.weight * (36 - t), place := s.place + 36 }

/-- The plain characters in front of the last hyphen, and the digits. A hyphen at the very front is no such one. -/
def splitPlain (cs : List Char) : List Char × List Char :=
  match cs.reverse.dropWhile (· != '-') with
  | _ :: c :: plain => ((c :: plain).reverse, (cs.reverse.takeWhile (· != '-')).reverse)
  | _ => ([], cs)

/-- The text that an encoded one stands for. -/
def decode? (cs : List Char) : Option (List Char) := do
  let (plain, digits) := splitPlain cs
  let s ← digits.foldlM Decoding.read ⟨plain, firstCode, firstBias, 0, 0, 1, 36⟩
  guard (s.place == 36)
  some s.chars

end Courier.Punycode
