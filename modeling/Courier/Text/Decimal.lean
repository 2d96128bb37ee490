/-!
# Decimal numbers as texts

Whole numbers written with ASCII digits, no superfluous zeros and a leading minus, and read with any number of leading
zeros and an optional sign. `value_digits` says that reading undoes writing.
-/

namespace Courier.Decimal

/-- One of the ten ASCII digits. -/
def isDigit (c : Char) : Bool := '0' ≤ c && c ≤ '9'

/-- The digits of a number, the most significant first. -/
def digits (n : Nat) : List Char := Nat.toDigits 10 n

/-- The number that a list of digits denotes. -/
def value (cs : List Char) : Nat := Nat.ofDigitChars 10 cs 0

/-- A number as a text. -/
def ofNat (n : Nat) : String := String.ofList (digits n)

/-- The characters of a signed number. -/
def signedDigits : Int → List Char
  | .ofNat n => digits n
  | .negSucc n => '-' :: digits (n + 1)

/-- A signed number as a text. -/
def ofInt (n : Int) : String := String.ofList (signedDigits n)

/-- The number denoted by one or more digits. -/
def natural? (cs : List Char) : Option Nat :=
  if cs ≠ [] ∧ cs.all isDigit = true then some (value cs) else none

/-- One or more digits, after at most one plus sign. -/
def unsigned? (s : String) : Option Nat :=
  match s.toList with
  | '+' :: cs => natural? cs
  | cs => natural? cs

/-- One or more digits, after at most one sign. -/
def signed? (s : String) : Option Int :=
  match s.toList with
  | '+' :: cs => (natural? cs).map Int.ofNat
  | '-' :: cs => (natural? cs).map fun n => -(n : Int)
  | cs => (natural? cs).map Int.ofNat

/-- An unsigned number of at most `bits` bits. -/
def word? (bits : Nat) (s : String) : Option Nat := (unsigned? s).filter (· < Nat.pow 2 bits)

/-- A signed number as a 64-bit integer; none when it does not fit. -/
def toInt64? (n : Int) : Option Int64 :=
  if -0x8000000000000000 ≤ n ∧ n < 0x8000000000000000 then some (Int64.ofInt n) else none

/-- A signed 64-bit integer written in decimal. -/
def int64? (s : String) : Option Int64 := (signed? s).bind toInt64?

/-- A number in exactly `width` digits or more, padded with zeros on the left. -/
def padded (width n : Nat) : String :=
  String.ofList (List.replicate (width - (digits n).length) '0' ++ digits n)

theorem value_digits (n : Nat) : value (digits n) = n :=
  Nat.ofDigitChars_toDigits (by decide) (by decide)

theorem toInt64?_toInt (x : Int64) : toInt64? x.toInt = some x := by
  have h1 := x.le_toInt
  have h2 := x.toInt_lt
  simp only [toInt64?]
  rw [if_pos ⟨by simpa using h1, by simpa using h2⟩, Int64.ofInt_toInt]

theorem toInt_of_toInt64? {n : Int} {x : Int64} (h : toInt64? n = some x) : x.toInt = n := by
  unfold toInt64? at h
  split at h
  · rename_i hr; cases h; exact Int64.toInt_ofInt_of_le hr.1 hr.2
  · cases h

end Courier.Decimal
