import Courier.Binary
import Courier.Text.Decimal

/-!
# Shortest decimal texts

The shortest text of a binary fraction that reads back as the same one. `Binary.shortest` takes the coarsest decimal
grid that has a point among the numbers that round to the fraction, and on it the point nearest to it.
-/

namespace Courier.Binary

/-- A decimal number, `digits * 10 ^ exponent`. -/
structure Decimal where
  digits : Nat
  exponent : Int
  deriving DecidableEq, Repr

/-- The finest decimal grid that is looked at has steps of one over this many powers of ten. -/
def finest : Nat := 330

/-- The point nearest to `v / d` on a grid of steps `step / 10 ^ finest`, if it lies between `low / d` and `high / d`.
The ends belong to the range only if `closed`. -/
def gridPoint? (closed : Bool) (low v high d step : Nat) : Option Nat :=
  let tens := Nat.pow 10 finest
  let inside (k : Nat) : Bool :=
    let p := k * step * d
    if closed then low * tens ≤ p && p ≤ high * tens else low * tens < p && p < high * tens
  let k := v * tens / (d * step)
  let near := roundedQuotient (v * tens) (d * step)
  if inside near then some near else if inside k then some k else if inside (k + 1) then some (k + 1) else none

/-- The first point on grids that get finer, down to the finest one. -/
def firstPoint (closed : Bool) (low v high d : Nat) : Nat → Decimal
  | 0 => ⟨roundedQuotient (v * Nat.pow 10 finest) d, -finest⟩
  | n + 1 =>
    match gridPoint? closed low v high d (Nat.pow 10 (n + 1)) with
    | some k => ⟨k, (n + 1 : Int) - finest⟩
    | none => firstPoint closed low v high d n

/-- The decimal number of fewest digits that rounds to the same binary one, and of those the nearest. The next number
below a power of two is only half as far as the next one above, unless there are no more binary places. -/
def shortest (x : Binary) : Decimal :=
  let u := unit x.numerator
  let m := x.numerator / u
  let v := 4 * x.numerator
  let d := 4 * Nat.pow 2 x.scale
  let below := if m = Nat.pow 2 (precision - 1) ∧ ¬ (u = 1 ∧ x.scale = places) then u else 2 * u
  firstPoint (m % 2 == 0) (v - below) v (v + 2 * u) d (Courier.Decimal.digits (v * Nat.pow 10 finest / d)).length

/-- A decimal number as a text with at least one decimal place, between one hundred-thousandth and ten to the
sixteenth; beyond that with an exponent, and with decimal places only if it has any. -/
def Decimal.text (x : Decimal) : String :=
  let ds := Courier.Decimal.digits x.digits
  let point := ds.length + x.exponent
  if 16 < point ∨ point ≤ -5 then
    let fraction := if ds.tail = [] then [] else '.' :: ds.tail
    String.ofList (ds.take 1 ++ fraction) ++ "e" ++ Courier.Decimal.ofInt (point - 1)
  else if 0 ≤ x.exponent then String.ofList (ds ++ List.replicate x.exponent.toNat '0') ++ ".0"
  else if 0 < point then String.ofList (ds.take point.toNat ++ '.' :: ds.drop point.toNat)
  else String.ofList ('0' :: '.' :: List.replicate (-point).toNat '0' ++ ds)

/-- The shortest text of a number. -/
def text (x : Binary) : String := if x.numerator = 0 then "0.0" else x.shortest.text

end Courier.Binary
