import Courier.Json.Token
import Courier.Text.Shortest

/-!
# Numbers in JSON text

A number is whole when it is written with digits alone and fits in 64 bits; minus zero and everything with a point or
an exponent is fractional. Of the digits of a fractional number the leading ones that fit in 64 bits count, the others
are places only. A fractional literal whose number is not finite is malformed.
-/

namespace Courier.Json

/-- What a number literal denotes. -/
inductive Numeral
  /-- A whole number of at most 64 bits. -/
  | whole (n : Int)
  /-- Any other number but for its sign, the significand times a power of ten. -/
  | fractional (significand : Nat) (exponent : Int)
  deriving DecidableEq, Repr

/-- The largest number of 64 bits. -/
def wordMax : Nat := 0xFFFFFFFFFFFFFFFF

/-- The digit of an octet. -/
def digitOf (b : UInt8) : Nat := b.toNat - 0x30

/-- Appends digits to a significand as long as it fits in 64 bits; the second part counts the digits left over. -/
def absorb (m : Nat) : Octets → Nat × Nat
  | [] => (m, 0)
  | d :: ds => if m * 10 + digitOf d ≤ wordMax then absorb (m * 10 + digitOf d) ds else (m, ds.length + 1)

/-- Whether a significand with a decimal exponent is beyond every finite number. -/
def isTooLarge (m : Nat) (e : Int) : Bool :=
  m != 0 && 0 ≤ e && (Binary.mostTens < e || !(Binary.ofScaled m e).isFinite)

/-- A fractional number, unless it is too large. -/
def fractionOf (m : Nat) (e : Int) (s : Octets) : Except Problem (Numeral × Octets) :=
  if isTooLarge m e then .error .malformed else .ok (.fractional m e, s)

/-- The digits at the front of a text. -/
def leadingDigits (s : Octets) : Octets := s.takeWhile isDigit

/-- The text after the digits at its front. -/
def afterDigits (s : Octets) : Octets := s.dropWhile isDigit

/-- The value of an exponent's digits, if it fits in 31 bits. -/
def exponentValue (ds : Octets) : Option Nat :=
  ds.foldl (fun acc d => acc.bind fun n =>
    if n * 10 + digitOf d ≤ 0x7FFFFFFF then some (n * 10 + digitOf d) else none) (some 0)

/-- The sign at the front of an exponent and the text after it. -/
def exponentSign : Octets → Bool × Octets
  | [] => (false, [])
  | b :: s => if b == code '-' then (true, s) else if b == code '+' then (false, s) else (false, b :: s)

/-- An exponent after its letter, for a significand `m` with exponent `e`. -/
def exponent (m : Nat) (e : Int) (s : Octets) : Except Problem (Numeral × Octets) :=
  let (negative, s) := exponentSign s
  match s with
  | [] => .error .truncated
  | b :: _ =>
    if isDigit b then
      match exponentValue (leadingDigits s) with
      | some x => fractionOf m (if negative then e - x else e + x) (afterDigits s)
      | none => if m != 0 && !negative then .error .malformed else .ok (.fractional 0 0, afterDigits s)
    else .error .malformed

/-- A letter that begins an exponent. -/
def isExponentMark (b : UInt8) : Bool := b == code 'e' || b == code 'E'

/-- The part of a number after its point, for a significand `m` with exponent `e`. -/
def fraction (m : Nat) (e : Int) (s : Octets) : Except Problem (Numeral × Octets) :=
  let ds := leadingDigits s
  let rest := afterDigits s
  if ds = [] then .error (if rest = [] then .truncated else .malformed)
  else
    let (m, spare) := absorb m ds
    let e := e - (ds.length - spare : Nat)
    match rest with
    | b :: r => if isExponentMark b then exponent m e r else fractionOf m e rest
    | [] => fractionOf m e rest

/-- A number whose digits before any point are known. -/
def numeralOf (negative : Bool) (ds : Octets) (rest : Octets) : Except Problem (Numeral × Octets) :=
  let (m, spare) := absorb 0 ds
  let plain : Except Problem (Numeral × Octets) :=
    if spare ≠ 0 then fractionOf m spare rest
    else if !negative then .ok (.whole m, rest)
    else if m = 0 || 0x8000000000000000 < m then .ok (.fractional m 0, rest)
    else .ok (.whole (-(m : Int)), rest)
  match rest with
  | b :: r =>
    if b == code '.' then fraction m spare r
    else if isExponentMark b then exponent m spare r
    else plain
  | [] => plain

/-- A number after its sign. -/
def unsignedNumeral (negative : Bool) (s : Octets) : Except Problem (Numeral × Octets) :=
  match s with
  | [] => .error .truncated
  | b :: r =>
    if b == code '0' then
      match r with
      | c :: _ => if isDigit c then .error .malformed else numeralOf negative [b] r
      | [] => numeralOf negative [b] r
    else if isDigit b then numeralOf negative (leadingDigits s) (afterDigits s)
    else .error .malformed

/-- A number, at its sign or first digit. -/
def numeral : Reader Numeral := fun s =>
  match s with
  | [] => .error .truncated
  | b :: r => if b == code '-' then unsignedNumeral true r else unsignedNumeral false s

/-- An octet that begins a number. -/
def beginsNumeral (b : UInt8) : Bool := b == code '-' || isDigit b

/-- A number literal in canonical form: a fractional number in the shortest text of the binary number that it stands
for. -/
def canonicalNumeral (literal : Octets) : Octets :=
  match numeral literal with
  | .ok (.fractional m e, _) =>
    literal.takeWhile (· == code '-') ++ Octets.ofText (Binary.ofScaled m e).text
  | _ => literal

/-- A whole number in decimal. -/
def writeInt (n : Int) : Octets := Octets.ofAscii (Decimal.signedDigits n)

end Courier.Json
