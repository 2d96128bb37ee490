import Courier.Proofs.Decimals
import Courier.Proofs.Json.Taking

/-!
# Reading whole numbers back

The digits of a number are taken together (`leadingDigits_append`), they add up to the number as long as it fits in a
word (`absorb_ofAscii`), and so `numeral` takes every whole number that `writeInt` has written, unless it does not fit
(`numeral_writeInt`).
-/

namespace Courier.Json

open Decimal (digits signedDigits)

/-! ## Digits -/

theorem toNat_ofAscii {c : Char} (h : Decimal.isDigit c = true) : c.toNat.toUInt8.toNat = c.toNat := by
  have := Decimal.toNat_of_isDigit h
  show c.toNat % 256 = c.toNat
  omega

theorem isDigit_ofAscii {c : Char} (h : Decimal.isDigit c = true) : isDigit c.toNat.toUInt8 = true := by
  have := Decimal.toNat_of_isDigit h
  have := toNat_ofAscii h
  simp only [isDigit, Bool.and_eq_true, decide_eq_true_eq, UInt8.le_iff_toNat_le]
  exact ⟨by simpa [this] using (Decimal.toNat_of_isDigit h).1, by simpa [this] using (Decimal.toNat_of_isDigit h).2⟩

theorem digitOf_ofAscii {c : Char} (h : Decimal.isDigit c = true) : digitOf c.toNat.toUInt8 = c.toNat - '0'.toNat := by
  rw [digitOf, toNat_ofAscii h]
  rfl

theorem isDigit_of_mem_ofAscii {cs : List Char} (h : ∀ c ∈ cs, Decimal.isDigit c = true) {b : UInt8}
    (hb : b ∈ Octets.ofAscii cs) : isDigit b = true := by
  obtain ⟨c, hc, rfl⟩ := List.mem_map.mp hb
  exact isDigit_ofAscii (h c hc)

/-- What does not go on with digits. -/
def EndsDigits : Octets → Prop
  | [] => True
  | b :: _ => isDigit b = false

theorem Closes.endsDigits {s : Octets} (hs : Closes s) : EndsDigits s := by
  cases s with
  | nil => exact trivial
  | cons b s => exact hs.1

theorem leadingDigits_append {ds rest : Octets} (h : ∀ b ∈ ds, isDigit b = true) (hrest : EndsDigits rest) :
    leadingDigits (ds ++ rest) = ds := by
  rw [leadingDigits, List.takeWhile_append_of_pos h]
  cases rest with
  | nil => simp
  | cons b rest => simp [show isDigit b = false from hrest]

theorem afterDigits_append {ds rest : Octets} (h : ∀ b ∈ ds, isDigit b = true) (hrest : EndsDigits rest) :
    afterDigits (ds ++ rest) = rest := by
  rw [afterDigits, List.dropWhile_append_of_pos h]
  cases rest with
  | nil => rfl
  | cons b rest => simp [show isDigit b = false from hrest]

/-- Digits are absorbed entirely when their value fits in a word. -/
theorem absorb_ofAscii {cs : List Char} (h : ∀ c ∈ cs, Decimal.isDigit c = true) {m : Nat}
    (hfits : Nat.ofDigitChars 10 cs m ≤ wordMax) :
    absorb m (Octets.ofAscii cs) = (Nat.ofDigitChars 10 cs m, 0) := by
  induction cs generalizing m with
  | nil => rfl
  | cons c cs ih =>
    have hc := digitOf_ofAscii (h c List.mem_cons_self)
    rw [Nat.ofDigitChars_cons, Nat.mul_comm] at hfits ⊢
    have hle := Decimal.le_ofDigitChars cs (m * 10 + (c.toNat - '0'.toNat))
    show absorb m (c.toNat.toUInt8 :: Octets.ofAscii cs) = _
    rw [absorb, hc, if_pos (Nat.le_trans hle hfits)]
    exact ih (fun d hd => h d (List.mem_cons_of_mem _ hd)) hfits

/-! ## Numbers -/

/-- A number without point and exponent is as large as its digits say. -/
theorem numeralOf_closes {ds rest : Octets} {m : Nat} (hds : absorb 0 ds = (m, 0)) (hrest : Closes rest)
    (negative : Bool) :
    numeralOf negative ds rest =
      if !negative then .ok (.whole m, rest)
      else if m = 0 || 0x8000000000000000 < m then .ok (.fractional m 0, rest)
      else .ok (.whole (-(m : Int)), rest) := by
  unfold numeralOf
  rw [hds]
  cases rest with
  | nil => rfl
  | cons b rest =>
    obtain ⟨-, hpoint, hmark⟩ := hrest
    have hb : (b == code '.') = false := by simpa using hpoint
    simp only [hb, hmark, Bool.false_eq_true, if_false, ne_eq, not_true_eq_false]

/-- A number is taken up to its last digit. -/
theorem unsignedNumeral_digits (n : Nat) {rest : Octets} (hrest : Closes rest) (negative : Bool) :
    unsignedNumeral negative (Octets.ofAscii (digits n) ++ rest) =
      numeralOf negative (Octets.ofAscii (digits n)) rest := by
  have hdigits : ∀ b ∈ Octets.ofAscii (digits n), isDigit b = true :=
    fun b => isDigit_of_mem_ofAscii fun c => Decimal.isDigit_of_mem_digits
  have hlead := leadingDigits_append hdigits hrest.endsDigits
  have hafter := afterDigits_append hdigits hrest.endsDigits
  rcases Nat.eq_zero_or_pos n with rfl | hn
  · -- zero is the one number that begins with a zero
    cases rest with
    | nil => rfl
    | cons b rest =>
      show (if isDigit b then _ else _) = _
      rw [hrest.1]
      rfl
  · obtain ⟨c, cs, hcs, hc⟩ := Decimal.digits_cons n
    have hzero : (c.toNat.toUInt8 == code '0') = false := by
      refine beq_eq_false_iff_ne.mpr fun h => ?_
      have hnat := congrArg UInt8.toNat h
      rw [toNat_ofAscii hc] at hnat
      obtain rfl : c = '0' := Char.toNat_inj.mp hnat
      exact Decimal.head_digits hn hcs
    have hread : unsignedNumeral negative (Octets.ofAscii (digits n) ++ rest) =
        numeralOf negative (leadingDigits (Octets.ofAscii (digits n) ++ rest))
          (afterDigits (Octets.ofAscii (digits n) ++ rest)) := by
      rw [hcs]
      show unsignedNumeral negative (c.toNat.toUInt8 :: (Octets.ofAscii cs ++ rest)) = _
      simp only [unsignedNumeral, hzero, isDigit_ofAscii hc, Bool.false_eq_true, if_false, if_true]
      rfl
    rw [hread, hlead, hafter]

/-- A whole number that fits is taken as it was written. -/
theorem numeral_writeInt {n : Int} (hlow : -0x8000000000000000 ≤ n) (hhigh : n ≤ wordMax) :
    Takes numeral (writeInt n) (.whole n) := by
  intro rest hrest
  have habsorb : ∀ m : Nat, m ≤ wordMax → absorb 0 (Octets.ofAscii (digits m)) = (m, 0) := by
    intro m hm
    have hvalue : Nat.ofDigitChars 10 (digits m) 0 = m := Decimal.value_digits m
    have hdigits : ∀ c ∈ digits m, Decimal.isDigit c = true := fun c => Decimal.isDigit_of_mem_digits
    rw [absorb_ofAscii hdigits (by rwa [hvalue]), hvalue]
  cases n with
  | ofNat m =>
    obtain ⟨c, cs, hcs, hc⟩ := Decimal.digits_cons m
    have hminus : (c.toNat.toUInt8 == code '-') = false := by
      refine beq_eq_false_iff_ne.mpr fun h => ?_
      have hdigit := isDigit_ofAscii hc
      rw [h] at hdigit
      exact absurd hdigit (by decide)
    have hm : m ≤ wordMax := by simpa using hhigh
    have hread := unsignedNumeral_digits m hrest false
    rw [numeralOf_closes (habsorb m hm) hrest] at hread
    rw [show writeInt (.ofNat m) = Octets.ofAscii (digits m) from rfl, hcs] at *
    show numeral (c.toNat.toUInt8 :: (Octets.ofAscii cs ++ rest)) = _
    rw [numeral, hminus, if_neg (by decide)]
    exact hread
  | negSucc m =>
    have hm : m + 1 ≤ 0x8000000000000000 := by omega
    have hread := unsignedNumeral_digits (m + 1) hrest true
    rw [numeralOf_closes (habsorb (m + 1) (Nat.le_trans hm (by decide))) hrest, if_neg (by decide),
      if_neg (by simp; omega)] at hread
    exact hread

/-- What a whole number is written with begins a number. -/
theorem writeInt_cons (n : Int) : ∃ b o, writeInt n = b :: o ∧ beginsNumeral b = true := by
  cases n with
  | ofNat m =>
    obtain ⟨c, cs, hcs, hc⟩ := Decimal.digits_cons m
    refine ⟨c.toNat.toUInt8, Octets.ofAscii cs, ?_, by rw [beginsNumeral, isDigit_ofAscii hc, Bool.or_true]⟩
    rw [show writeInt (.ofNat m) = Octets.ofAscii (digits m) from rfl, hcs]
    rfl
  | negSucc m => exact ⟨code '-', Octets.ofAscii (digits (m + 1)), rfl, rfl⟩

theorem ne_of_beginsNumeral {b c : UInt8} (hb : beginsNumeral b = true) (hc : beginsNumeral c = false) : b ≠ c := by
  rintro rfl
  rw [hb] at hc
  cases hc

/-- An octet that begins a number is no blank, no bracket and no letter. -/
theorem opensValue_of_beginsNumeral {b : UInt8} (hb : beginsNumeral b = true) : OpensValue b ∧ b ≠ code 'n' := by
  refine ⟨⟨?_, ne_of_beginsNumeral hb (by decide)⟩, ne_of_beginsNumeral hb (by decide)⟩
  simp only [isBlank, Bool.or_eq_false_iff, beq_eq_false_iff_ne]
  exact ⟨⟨⟨ne_of_beginsNumeral hb (by decide), ne_of_beginsNumeral hb (by decide)⟩,
    ne_of_beginsNumeral hb (by decide)⟩, ne_of_beginsNumeral hb (by decide)⟩

theorem opens_writeInt (n : Int) : Opens (writeInt n) := by
  obtain ⟨b, o, ho, hb⟩ := writeInt_cons n
  rw [ho]
  exact (opensValue_of_beginsNumeral hb).1

end Courier.Json
