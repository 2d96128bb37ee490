/-!
# Binary fractions

A `Binary` is a fraction whose denominator is a power of two. `Binary.ofQuotient` rounds a quotient to 53 binary digits,
and to 1074 binary places if those end first; halves go to the even neighbour. Sums, products and quotients are rounded
in this way as well.
-/

namespace Courier

/-- The number `numerator / 2 ^ scale`. -/
structure Binary where
  numerator : Nat
  scale : Nat
  deriving DecidableEq, Repr

/-- A quotient rounded to a whole number, a half to the even neighbour. -/
def roundedQuotient (a b : Nat) : Nat :=
  let q := a / b
  let r := 2 * (a % b)
  if b < r ∨ r = b ∧ q % 2 = 1 then q + 1 else q

namespace Binary

/-- How many binary digits are kept. -/
def precision : Nat := 53

/-- The binary places behind the point are at most so many. -/
def places : Nat := 1074

/-- How many binary digits a number has. -/
def width (n : Nat) : Nat := if n = 0 then 0 else n.log2 + 1

/-- The weight of the last binary digit that is kept of a numerator. -/
def unit (n : Nat) : Nat := Nat.pow 2 (width n - precision)

/-- The quotient of two numbers, rounded. -/
def ofQuotient (a b : Nat) : Binary :=
  let scale := min places (precision + width b - width a)
  let n := a * Nat.pow 2 scale
  let u := unit (n / b)
  ⟨roundedQuotient n (b * u) * u, scale⟩

/-- A sum, rounded. -/
def add (x y : Binary) : Binary :=
  ofQuotient (x.numerator * Nat.pow 2 y.scale + y.numerator * Nat.pow 2 x.scale) (Nat.pow 2 (x.scale + y.scale))

/-- A product, rounded. -/
def mul (x y : Binary) : Binary := ofQuotient (x.numerator * y.numerator) (Nat.pow 2 (x.scale + y.scale))

/-- A quotient of two numbers, rounded. -/
def div (x y : Binary) : Binary :=
  ofQuotient (x.numerator * Nat.pow 2 y.scale) (y.numerator * Nat.pow 2 x.scale)

/-- The largest power of ten that is a number, as an exponent. -/
def mostTens : Nat := 308

/-- A power of ten, rounded. -/
def powerOfTen (k : Nat) : Binary := ofQuotient (Nat.pow 10 k) 1

/-- A number divided by ten so many times, by as large powers of ten as there are. -/
def overTens (x : Binary) (k : Nat) : Binary :=
  if k ≤ mostTens then x.div (powerOfTen k)
  else if x.numerator = 0 then x
  else overTens (x.div (powerOfTen mostTens)) (k - mostTens)
  termination_by k
  decreasing_by simp only [mostTens] at *; omega

/-- The number `m * 10 ^ e`. The significand and the power of ten are rounded first, and then what comes of them. -/
def ofScaled (m : Nat) (e : Int) : Binary :=
  let x := ofQuotient m 1
  if m = 0 then x else if 0 ≤ e then x.mul (powerOfTen e.toNat) else x.overTens (-e).toNat

/-- Whether a number is less than two to the power of 1024. -/
def isFinite (x : Binary) : Bool := x.numerator < Nat.pow 2 (1024 + x.scale)

end Binary

end Courier
