import Courier.Text.Blank
import Courier.Text.Decimal
import Courier.Text.Octets
import Mathlib.Algebra.Group.Nat.Defs

/-!
# Decimal digits

What is written in decimal consists of digits (`isDigit_of_mem_digits`), begins with a zero only if it is zero
(`head_digits`), and when it is padded has the wanted width and the same value (`length_padded`, `value_padded`).
-/

namespace Courier.Decimal

theorem isDigit_of_mem_digits {n : Nat} {c : Char} (h : c ∈ digits n) : isDigit c = true := by
  have hc := Nat.isDigit_of_mem_toDigits (b := 10) (by decide) (by decide) h
  simpa [isDigit, Char.isDigit, Char.le_def] using hc

theorem digits_ne_nil (n : Nat) : digits n ≠ [] := Nat.toDigits_ne_nil

theorem digits_cons (n : Nat) : ∃ c cs, digits n = c :: cs ∧ isDigit c = true := by
  obtain ⟨c, cs, hcs⟩ := List.exists_cons_of_ne_nil (digits_ne_nil n)
  exact ⟨c, cs, hcs, isDigit_of_mem_digits (by rw [hcs]; exact List.mem_cons_self)⟩

/-- A number with a place after the first one is written as the number before that place, and the place. -/
theorem digits_of_ten_le {n : Nat} (h : 10 ≤ n) : digits n = digits (n / 10) ++ [Nat.digitChar (n % 10)] :=
  Nat.toDigits_of_base_le (by decide) h

/-- No number but zero is written with a zero in front. -/
theorem head_digits {n : Nat} (hn : 0 < n) {cs : List Char} : digits n ≠ '0' :: cs := by
  induction n using Nat.strongRecOn generalizing cs with
  | ind n ih =>
    intro h
    by_cases hten : 10 ≤ n
    · rw [digits_of_ten_le hten] at h
      obtain ⟨d, ds, hds⟩ := List.exists_cons_of_ne_nil (digits_ne_nil (n / 10))
      rw [hds, List.cons_append] at h
      injection h with hd
      subst hd
      exact ih (n / 10) (by omega) (by omega) hds
    · rw [digits, Nat.toDigits_of_lt_base (by omega)] at h
      injection h with hd
      have hchars : ∀ d, d < 10 → 0 < d → Nat.digitChar d ≠ '0' := by decide
      exact hchars n (by omega) hn hd

theorem length_digits_le {n w : Nat} (hw : 0 < w) (h : n < 10 ^ w) : (digits n).length ≤ w :=
  (Nat.length_toDigits_le_iff (by decide) hw).mpr h

/-! ## Padded numbers -/

theorem toList_padded (w n : Nat) :
    (padded w n).toList = List.replicate (w - (digits n).length) '0' ++ digits n := by
  simp [padded]

theorem isDigit_of_mem_padded {w n : Nat} {c : Char} (h : c ∈ (padded w n).toList) : isDigit c = true := by
  rw [toList_padded] at h
  rcases List.mem_append.mp h with h | h
  · rw [List.eq_of_mem_replicate h]
    decide
  · exact isDigit_of_mem_digits h

/-- Zeros in front do not count. -/
theorem value_zeros (k : Nat) (cs : List Char) : value (List.replicate k '0' ++ cs) = value cs := by
  rw [value, Nat.ofDigitChars_append, Nat.ofDigitChars_replicate_zero, Nat.mul_zero]
  rfl

theorem value_padded (w n : Nat) : value (padded w n).toList = n := by
  rw [toList_padded, value_zeros, value_digits]

theorem padded_ne_nil (w n : Nat) : (padded w n).toList ≠ [] := by
  rw [toList_padded]
  exact List.append_ne_nil_of_right_ne_nil _ (digits_ne_nil n)

theorem length_padded {w n : Nat} (hw : 0 < w) (h : n < 10 ^ w) :
    (padded w n).toList.length = w := by
  have := length_digits_le hw h
  rw [toList_padded, List.length_append, List.length_replicate]
  omega

/-! ## Digits as octets -/

/-- The value of digits after a number is no less than the number. -/
theorem le_ofDigitChars (cs : List Char) (m : Nat) : m ≤ Nat.ofDigitChars 10 cs m := by
  induction cs generalizing m with
  | nil => exact Nat.le_refl _
  | cons c cs ih =>
    rw [Nat.ofDigitChars_cons]
    have := ih (10 * m + (c.toNat - '0'.toNat))
    omega

theorem toNat_of_isDigit {c : Char} (h : isDigit c = true) : 0x30 ≤ c.toNat ∧ c.toNat ≤ 0x39 := by
  simp only [isDigit, Bool.and_eq_true, decide_eq_true_eq, Char.le_def, UInt32.le_iff_toNat_le] at h
  exact h

theorem isBlankChar_of_isDigit {c : Char} (h : isDigit c = true) : Text.isBlankChar c = false := by
  have hc := toNat_of_isDigit h
  simp only [Text.isBlankChar, Text.blankRanges, List.any_cons, List.any_nil, Bool.or_false, Bool.or_eq_false_iff,
    Bool.and_eq_false_iff, decide_eq_false_iff_not]
  omega

/-! ## Signed numbers -/

theorem natural?_digits (n : Nat) : natural? (digits n) = some n := by
  rw [natural?, if_pos ⟨digits_ne_nil n, List.all_eq_true.mpr fun c => isDigit_of_mem_digits⟩, value_digits]

theorem signed?_ofInt (n : Int) : signed? (ofInt n) = some n := by
  have htext : (ofInt n).toList = signedDigits n := String.toList_ofList
  unfold signed?
  rw [htext]
  cases n with
  | negSucc m =>
    simp only [signedDigits, natural?_digits]
    rfl
  | ofNat m =>
    have hread := natural?_digits m
    obtain ⟨c, cs, hcs, hc⟩ := digits_cons m
    simp only [signedDigits]
    rw [hcs] at hread ⊢
    split
    · next heq => cases heq; exact absurd hc (by decide)
    · next heq => cases heq; exact absurd hc (by decide)
    · rw [hread]
      rfl

/-- Digits alone are read as the number that they denote. -/
theorem signed?_of_all_isDigit {s : String} (hne : s ≠ "") (hs : s.toList.all isDigit = true) :
    signed? s = some (value s.toList : Int) := by
  have hnil : s.toList ≠ [] := fun h => hne (String.toList_eq_nil_iff.mp h)
  have hread : natural? s.toList = some (value s.toList) := if_pos ⟨hnil, hs⟩
  unfold signed?
  revert hread hs
  generalize s.toList = cs
  intro hs hread
  split
  · simp [isDigit] at hs
  · simp [isDigit] at hs
  · rw [hread]
    rfl

theorem toInt64?_eq_some_iff {n : Int} {k : Int64} : toInt64? n = some k ↔ n = k.toInt := by
  constructor
  · intro h
    exact (toInt_of_toInt64? h).symm
  · rintro rfl
    exact toInt64?_toInt k

theorem int64?_ofInt (k : Int64) : int64? (ofInt k.toInt) = some k := by
  rw [int64?, signed?_ofInt, Option.bind_some, toInt64?_toInt]

theorem lt_of_mem_signedDigits {n : Int} {c : Char} (h : c ∈ signedDigits n) : c.toNat < 128 := by
  have hdigit : ∀ m, c ∈ digits m → c.toNat < 128 := by
    intro m hm
    have := toNat_of_isDigit (isDigit_of_mem_digits hm)
    omega
  cases n with
  | ofNat m => exact hdigit m h
  | negSucc m =>
    rcases List.mem_cons.mp h with rfl | h
    · decide
    · exact hdigit (m + 1) h

end Courier.Decimal

namespace Courier.Octets

/-- Characters below 128 are single octets in UTF-8. -/
theorem ofText_ofList {cs : List Char} (h : ∀ c ∈ cs, c.toNat < 128) : ofText (String.ofList cs) = ofAscii cs := by
  have hone : ∀ c : Char, c.toNat < 128 → String.utf8EncodeChar c = [c.toNat.toUInt8] := by
    intro c hc
    have hsize : c.utf8Size = 1 := by
      rw [Char.utf8Size_eq_one_iff, UInt32.le_iff_toNat_le]
      exact Nat.le_of_lt_succ hc
    rw [String.utf8EncodeChar_eq_singleton hsize]
    rfl
  induction cs with
  | nil => rfl
  | cons c cs ih =>
    have hrest := ih fun d hd => h d (List.mem_cons_of_mem _ hd)
    simp only [ofText, String.toByteArray_ofList] at hrest ⊢
    rw [List.utf8Encode_cons, List.utf8Encode_singleton, hone c (h c List.mem_cons_self), ByteArray.data_append,
      Array.toList_append, hrest]
    simp [ofAscii]

end Courier.Octets
