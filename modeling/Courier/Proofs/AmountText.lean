import Courier.Proofs.Decimals
import Courier.Sentence
import Mathlib.Algebra.Order.Ring.Int
import Mathlib.Tactic.Ring

/-!
# The amount in a sentence

The value of an event is shown as a number with two places. Its text is taken apart again by `Decimal.fraction?`, which
reads any number with a point, so that the hundredths can be counted: they are those that the event has
(`fraction?_amountText`). Hence no two amounts look alike. The size of an amount fits in 64 bits without a sign, also
that of the smallest amount (`toNat_magnitude`), so all of it can be worked out in words (`amount_shown`).
-/

namespace Courier

open Decimal

/-! ## Numbers with a point -/

namespace Decimal

/-- Digits of a number, with a zero in front only if it is the only one. -/
def IsPlain (ds : List Char) : Prop :=
  ds ≠ [] ∧ (∀ c ∈ ds, isDigit c = true) ∧ (ds.head? = some '0' → ds = ['0'])

theorem isPlain_digits (n : Nat) : IsPlain (digits n) := by
  refine ⟨digits_ne_nil n, fun c => isDigit_of_mem_digits, fun hzero => ?_⟩
  obtain ⟨cs, hcs⟩ := List.head?_eq_some_iff.mp hzero
  rcases Nat.eq_zero_or_pos n with rfl | hn
  · rfl
  · exact absurd hcs (head_digits hn)

/-- The number denoted by digits, a point and digits. -/
def unsignedFraction? (cs : List Char) : Option ℚ :=
  match cs.dropWhile isDigit with
  | '.' :: places => do
    let n ← natural? (cs.takeWhile isDigit)
    let m ← natural? places
    return (n : ℚ) + m / 10 ^ places.length
  | _ => none

/-- The number denoted by digits, a point and digits, after at most one minus sign. -/
def fraction? (s : String) : Option ℚ :=
  match s.toList with
  | '-' :: cs => (unsignedFraction? cs).map fun q => -q
  | cs => unsignedFraction? cs

theorem natural?_eq_value {ds : List Char} (hne : ds ≠ []) (hds : ∀ c ∈ ds, isDigit c = true) :
    natural? ds = some (value ds) :=
  if_pos ⟨hne, List.all_eq_true.mpr hds⟩

variable {whole places : List Char}

theorem unsignedFraction?_append (hwhole : IsPlain whole) (hne : places ≠ [])
    (hplaces : ∀ c ∈ places, isDigit c = true) :
    unsignedFraction? (whole ++ '.' :: places) = some ((value whole : ℚ) + value places / 10 ^ places.length) := by
  obtain ⟨hwne, hdigits, -⟩ := hwhole
  have htake : (whole ++ '.' :: places).takeWhile isDigit = whole := by
    rw [List.takeWhile_append_of_pos hdigits]
    simp [isDigit]
  have hdrop : (whole ++ '.' :: places).dropWhile isDigit = '.' :: places := by
    rw [List.dropWhile_append_of_pos hdigits]
    simp [isDigit]
  simp [unsignedFraction?, htake, hdrop, natural?_eq_value hwne hdigits, natural?_eq_value hne hplaces]

/-- A sign in front of a number with a point changes the number's sign. -/
theorem fraction?_signed (hwhole : IsPlain whole) (hne : places ≠ []) (hplaces : ∀ c ∈ places, isDigit c = true)
    (negative : Prop) [Decidable negative] :
    fraction? (String.ofList ((if negative then ['-'] else []) ++ whole ++ '.' :: places)) =
      some ((if negative then -1 else 1) * ((value whole : ℚ) + value places / 10 ^ places.length)) := by
  have hread := unsignedFraction?_append hwhole hne hplaces
  unfold fraction?
  rw [String.toList_ofList, List.append_assoc]
  split_ifs with h
  · simp [hread]
  · obtain ⟨c, cs, rfl⟩ := List.exists_cons_of_ne_nil hwhole.1
    have hc : c ≠ '-' := by
      rintro rfl
      exact absurd (hwhole.2.1 '-' List.mem_cons_self) (by decide)
    simp only [List.nil_append, List.cons_append] at hread ⊢
    split
    · next heq =>
      injection heq with hhead
      exact absurd hhead hc
    · rw [hread, one_mul]

end Decimal

/-! ## Amounts -/

/-- The characters of an amount. -/
theorem amountText_eq_ofList (cents : Int64) :
    amountText cents = String.ofList ((if cents.toInt < 0 then ['-'] else []) ++ digits (cents.toInt.natAbs / 100) ++
      '.' :: (padded 2 (cents.toInt.natAbs % 100)).toList) := by
  rw [← String.toList_inj, String.toList_ofList, amountText]
  split_ifs <;> simp [ofNat]

/-- What is shown of an amount, times a hundred, is the amount. -/
theorem fraction?_amountText (cents : Int64) :
    (fraction? (amountText cents)).map (· * 100) = some (cents.toInt : ℚ) := by
  have hlength : (padded 2 (cents.toInt.natAbs % 100)).toList.length = 2 :=
    length_padded (by decide) (Nat.mod_lt _ (by decide))
  have hsplit : ((cents.toInt.natAbs / 100 : Nat) : ℚ) * 100 + (cents.toInt.natAbs % 100 : Nat) = cents.toInt.natAbs := by
    exact_mod_cast Nat.div_add_mod' _ _
  have hsign : (if cents.toInt < 0 then -1 else 1 : ℚ) * cents.toInt.natAbs = cents.toInt := by
    rw [Nat.cast_natAbs]
    split_ifs with h
    · simp [abs_of_neg h]
    · simp [abs_of_nonneg (not_lt.mp h)]
  rw [amountText_eq_ofList, fraction?_signed (isPlain_digits _) (padded_ne_nil _ _) fun c => isDigit_of_mem_padded,
    value_digits, value_padded, hlength, Option.map_some, ← hsign, ← hsplit]
  congr 1
  ring

/-- The size of an amount, as a word without a sign. -/
def magnitude (cents : Int64) : UInt64 := cents.abs.toUInt64

theorem toNat_magnitude (cents : Int64) : (magnitude cents).toNat = cents.toInt.natAbs := by
  have hword : (magnitude cents).toNat = cents.toBitVec.abs.toNat := rfl
  have hint : cents.toInt = cents.toBitVec.toInt := rfl
  have hlt := cents.toBitVec.isLt
  rw [hword, hint, BitVec.toNat_abs, BitVec.toInt_eq_msb_cond]
  split_ifs <;> omega

theorem amountText_injective : Function.Injective amountText := by
  intro a b hab
  have hread := fraction?_amountText a
  rw [hab, fraction?_amountText b, Option.some.injEq] at hread
  exact (Int64.toInt_inj.mp (by exact_mod_cast hread)).symm

/-- **What a sentence shows of an amount.** A minus sign if the amount is negative, a whole number without superfluous
zeros, a point and two digits; read as a number and times a hundred, this is the amount again, so two amounts never look
alike. The size of the amount is a word, and its text can be worked out in words. -/
theorem amount_shown (cents : Int64) :
    (∃ whole places, IsPlain whole ∧ places.length = 2 ∧ (∀ c ∈ places, isDigit c = true) ∧
      amountText cents = String.ofList ((if cents < 0 then ['-'] else []) ++ whole ++ '.' :: places)) ∧
    (fraction? (amountText cents)).map (· * 100) = some (cents.toInt : ℚ) ∧
    (∀ other, amountText other = amountText cents ↔ other = cents) ∧
    (magnitude cents).toNat = cents.toInt.natAbs ∧
    amountText cents = (if cents < 0 then "-" else "") ++ ofNat (magnitude cents / 100).toNat ++ "." ++
      padded 2 (magnitude cents % 100).toNat := by
  have hneg : cents < 0 ↔ cents.toInt < 0 := Int64.lt_iff_toInt_lt
  refine ⟨?_, fraction?_amountText cents, fun other => amountText_injective.eq_iff, toNat_magnitude cents, ?_⟩
  · refine ⟨digits (cents.toInt.natAbs / 100), (padded 2 (cents.toInt.natAbs % 100)).toList, isPlain_digits _,
      length_padded (by decide) (Nat.mod_lt _ (by decide)), fun c => isDigit_of_mem_padded, ?_⟩
    simp only [hneg]
    exact amountText_eq_ofList cents
  · rw [UInt64.toNat_div, UInt64.toNat_mod, toNat_magnitude]
    simp only [hneg]
    rfl

/-- The smallest amount has no counterpart among the positive ones. -/
example : amountText (-9223372036854775808) = "-92233720368547758.08" := by decide

example : amountText (-5) = "-0.05" := by decide

end Courier
