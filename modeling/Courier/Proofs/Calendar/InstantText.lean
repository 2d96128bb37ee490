import Courier.Calendar.Instant
import Courier.Proofs.Calendar.Days
import Courier.Proofs.Decimals

/-!
# Reading instants back

The text of an instant is read field by field: the year (`year?_yearText`), numbers of two digits (`field?_padded`),
marks between them (`mark?_cons`) and the fraction of the second (`nanos?_fractionText`). Together they give the instant
again, whatever its year and its fraction, and in leap seconds too (`parse?_text`).
-/

namespace Courier.Instant

open Calendar Decimal

/-! ## Characters -/

theorem dropBlankStart_cons {c : Char} (h : Text.isBlankChar c = false) (cs : List Char) :
    Text.dropBlankStart (c :: cs) = c :: cs := by
  simp [Text.dropBlankStart, h]

/-- No blanks stand before a number. -/
theorem dropBlankStart_padded (w n : Nat) (rest : List Char) :
    Text.dropBlankStart ((padded w n).toList ++ rest) = (padded w n).toList ++ rest := by
  obtain ⟨c, cs, hcs⟩ := List.exists_cons_of_ne_nil (padded_ne_nil w n)
  have hc : isDigit c = true := isDigit_of_mem_padded (w := w) (n := n) (by rw [hcs]; exact List.mem_cons_self)
  rw [hcs]
  exact dropBlankStart_cons (isBlankChar_of_isDigit hc) _

/-- What follows a number that is not bounded by its length. -/
def NoDigit : List Char → Prop
  | [] => True
  | c :: _ => isDigit c = false

theorem takeWhile_isDigit_append {ds rest : List Char} (hds : ∀ c ∈ ds, isDigit c = true) (hrest : NoDigit rest) :
    (ds ++ rest).takeWhile isDigit = ds := by
  rw [List.takeWhile_append_of_pos hds]
  cases rest with
  | nil => simp
  | cons c rest => simp [show isDigit c = false from hrest]

theorem dropWhile_isDigit_append {ds rest : List Char} (hds : ∀ c ∈ ds, isDigit c = true) (hrest : NoDigit rest) :
    (ds ++ rest).dropWhile isDigit = rest := by
  rw [List.dropWhile_append_of_pos hds]
  cases rest with
  | nil => rfl
  | cons c rest => simp [show isDigit c = false from hrest]

/-! ## Fields -/

/-- Exactly as many digits as wanted are taken whatever follows. -/
theorem digits?_padded {w n : Nat} (hw : 0 < w) (hn : n < 10 ^ w) (rest : List Char) :
    digits? w ((padded w n).toList ++ rest) = some (n, rest) := by
  have hlength := length_padded hw hn
  have htake : ((padded w n).toList ++ rest).take w = (padded w n).toList := by
    rw [List.take_append_of_le_length (by omega), List.take_of_length_le (by omega)]
  have hdigits : (padded w n).toList.takeWhile isDigit = (padded w n).toList := by
    simpa using takeWhile_isDigit_append (fun c => isDigit_of_mem_padded) (show NoDigit [] from trivial)
  simp only [digits?, htake, hdigits, padded_ne_nil, if_false, value_padded, List.drop_left]

/-- All digits are taken up to something else. -/
theorem anyDigits?_padded {w n : Nat} {rest : List Char} (hrest : NoDigit rest) :
    anyDigits? ((padded w n).toList ++ rest) = some (n, rest) := by
  have hdigits := takeWhile_isDigit_append (fun c => isDigit_of_mem_padded (w := w) (n := n)) hrest
  simp only [anyDigits?, digits?, List.take_length, hdigits, padded_ne_nil, if_false, value_padded, List.drop_left]

theorem field?_padded {n : Nat} (hn : n < 100) (rest : List Char) :
    field? ((padded 2 n).toList ++ rest) = some (n, rest) := by
  rw [field?, dropBlankStart_padded]
  exact digits?_padded (by decide) hn rest

theorem mark?_cons {c : Char} (hc : Text.isBlankChar c = false) (cs : List Char) : mark? c (c :: cs) = some cs := by
  rw [mark?, dropBlankStart_cons hc]
  exact if_pos rfl

theorem toList_yearText (y : Int) : (yearText y).toList =
    if 0 ≤ y ∧ y ≤ 9999 then (padded 4 y.toNat).toList
    else (if y < 0 then '-' else '+') :: (padded 4 y.natAbs).toList := by
  unfold yearText
  split
  · rfl
  · rw [String.toList_append]
    split <;> rfl

/-- The year of a text, whatever its sign. -/
theorem year?_yearText (y : Int) {rest : List Char} (hrest : NoDigit rest) :
    year? ((yearText y).toList ++ rest) = some (y, rest) := by
  rw [toList_yearText]
  split
  · next h =>
    obtain ⟨c, cs, hcs⟩ := List.exists_cons_of_ne_nil (padded_ne_nil 4 y.toNat)
    have hc : isDigit c = true := isDigit_of_mem_padded (w := 4) (n := y.toNat) (by rw [hcs]; exact List.mem_cons_self)
    have hread := digits?_padded (w := 4) (n := y.toNat) (by decide) (by omega) rest
    have hy : (y.toNat : Int) = y := by omega
    rw [year?, dropBlankStart_padded]
    rw [hcs] at hread ⊢
    split
    · next heq => cases heq; exact absurd hc (by decide)
    · next heq => cases heq; exact absurd hc (by decide)
    · simp only [hread, Option.map_some, hy]
  · next h =>
    have hread := anyDigits?_padded (w := 4) (n := y.natAbs) hrest
    rw [List.cons_append, year?]
    by_cases hneg : y < 0
    · have hy : -(y.natAbs : Int) = y := by omega
      rw [if_pos hneg, dropBlankStart_cons (by decide)]
      simp only [hread, Option.map_some, hy]
    · have hy : (y.natAbs : Int) = y := by omega
      rw [if_neg hneg, dropBlankStart_cons (by decide)]
      simp only [hread, Option.map_some, hy]

theorem zone?_end : zone? (Text.dropBlankStart ['Z']) = some (0, []) := by decide

/-- Nanoseconds are a number of digits and the zeros after them. -/
theorem nanos?_padded {w n : Nat} (hw : 0 < w) (hnine : w ≤ 9) (hn : n < 10 ^ w) {rest : List Char}
    (hrest : NoDigit rest) :
    nanos? ('.' :: ((padded w n).toList ++ rest)) = some (n * 10 ^ (9 - w), rest) := by
  have hlength := length_padded hw hn
  have htake := takeWhile_isDigit_append (fun c => isDigit_of_mem_padded (w := w) (n := n)) hrest
  have hdrop := dropWhile_isDigit_append (fun c => isDigit_of_mem_padded (w := w) (n := n)) hrest
  have hkept : (padded w n).toList.take 9 = (padded w n).toList := List.take_of_length_le (by omega)
  simp only [nanos?, htake, hdrop, hkept, padded_ne_nil, if_false, value_padded, hlength]
  rfl

theorem nanos?_fractionText {n : Nat} (hn : n < 1000000000) :
    nanos? ((fractionText n).toList ++ ['Z']) = some (n, ['Z']) := by
  have hZ : NoDigit ['Z'] := show isDigit 'Z' = false by decide
  have hpoint : ∀ s : String, ("." ++ s).toList = '.' :: s.toList := fun s => by simp
  unfold fractionText
  split
  · next h =>
    subst h
    rfl
  split
  · next h =>
    have hread := nanos?_padded (w := 3) (n := n / 1000000) (by decide) (by decide) (by omega) hZ
    have hvalue : n / 1000000 * 10 ^ (9 - 3) = n := by omega
    rw [hvalue] at hread
    rw [hpoint, List.cons_append, hread]
  split
  · next h =>
    have hread := nanos?_padded (w := 6) (n := n / 1000) (by decide) (by decide) (by omega) hZ
    have hvalue : n / 1000 * 10 ^ (9 - 6) = n := by omega
    rw [hvalue] at hread
    rw [hpoint, List.cons_append, hread]
  · have hread := nanos?_padded (w := 9) (n := n) (by decide) (by decide) (by omega) hZ
    rw [Nat.sub_self, Nat.pow_zero, Nat.mul_one] at hread
    rw [hpoint, List.cons_append, hread]

/-! ## Instants -/

theorem bind_of_some {α β : Type} {x : Option α} {a : α} (h : x = some a) (f : α → Option β) : (x >>= f) = f a := by
  rw [h]
  rfl

/-- The text of a date and a time. -/
def layout (d : Date) (hour minute second nanos : Nat) : List Char :=
  (yearText d.year).toList ++ '-' :: ((padded 2 d.month).toList ++ '-' :: ((padded 2 d.day).toList ++ 'T' ::
    ((padded 2 hour).toList ++ ':' :: ((padded 2 minute).toList ++ ':' :: ((padded 2 second).toList ++
      ((fractionText nanos).toList ++ ['Z']))))))

/-- What a date and a time are read as. -/
theorem parse?_layout {d : Date} {hour minute second nanos : Nat} (hdate : d.Valid) (hreach : d.inReach = true)
    (hhour : hour ≤ 23) (hminute : minute ≤ 59) (hsecond : second ≤ 60) (hnanos : nanos < 1000000000) :
    parse? (String.ofList (layout d hour minute second nanos)) =
      of? (d.dayNumber * daySeconds + (hour * 3600 + minute * 60 + min second 59 : Nat))
        (if second = 60 then nanos + 1000000000 else nanos) := by
  obtain ⟨year, month, day⟩ := d
  have hmonth : month < 100 := by
    have : month ≤ 12 := hdate.2.1
    omega
  have hday : day < 100 := by
    have hlength : day ≤ Date.monthLength year month := hdate.2.2.2
    have : Date.monthLength year month ≤ 31 := Date.monthLength_le year month
    omega
  have hdash : NoDigit ('-' :: ((padded 2 month).toList ++ '-' :: ((padded 2 day).toList ++ 'T' ::
    ((padded 2 hour).toList ++ ':' :: ((padded 2 minute).toList ++ ':' :: ((padded 2 second).toList ++
      ((fractionText nanos).toList ++ ['Z']))))))) := show isDigit '-' = false by decide
  have htime : ∀ cs, timeMark? ('T' :: cs) = some cs := fun cs => by simp [timeMark?]
  have hoffset : -daySeconds < 0 ∧ 0 < daySeconds := by decide
  have hguard : ∀ p [Decidable p], p → (guard p : Option Unit) = some () := fun p _ hp => by simp [guard, hp]
  have hlist : (String.ofList (layout ⟨year, month, day⟩ hour minute second nanos)).toList =
      layout ⟨year, month, day⟩ hour minute second nanos := String.toList_ofList
  unfold parse?
  rw [hlist]
  -- the parts of the text from left to right, and then the three checks
  refine (bind_of_some (year?_yearText year hdash) _).trans ?_
  refine (bind_of_some (mark?_cons (by decide) _) _).trans ?_
  refine (bind_of_some (field?_padded hmonth _) _).trans ?_
  refine (bind_of_some (mark?_cons (by decide) _) _).trans ?_
  refine (bind_of_some (field?_padded hday _) _).trans ?_
  refine (bind_of_some (htime _) _).trans ?_
  refine (bind_of_some (field?_padded (by omega) _) _).trans ?_
  refine (bind_of_some (mark?_cons (by decide) _) _).trans ?_
  refine (bind_of_some (field?_padded (by omega) _) _).trans ?_
  refine (bind_of_some (mark?_cons (by decide) _) _).trans ?_
  refine (bind_of_some (field?_padded (by omega) _) _).trans ?_
  refine (bind_of_some (nanos?_fractionText hnanos) _).trans ?_
  refine (bind_of_some zone?_end _).trans ?_
  refine (bind_of_some (hguard _ (by decide)) _).trans ?_
  refine (bind_of_some (hguard _ ⟨hdate, hreach, hhour, hminute, hsecond⟩) _).trans ?_
  refine (bind_of_some (hguard _ hoffset) _).trans ?_
  simp only [Int.sub_zero]

theorem of?_self (t : Instant) : of? t.seconds t.nanos = some t := by
  rw [of?, dif_pos t.reached, dif_pos t.leap]

theorem text_eq (t : Instant) : t.text = String.ofList (layout (dateOf t.seconds)
    (secondOfDay t.seconds / 3600) (secondOfDay t.seconds / 60 % 60)
    (if 1000000000 ≤ t.nanos then secondOfDay t.seconds % 60 + 1 else secondOfDay t.seconds % 60)
    (if 1000000000 ≤ t.nanos then t.nanos - 1000000000 else t.nanos)) := by
  rw [← String.toList_inj, String.toList_ofList, layout, text]
  simp

/-- The seconds of an instant, from its date and the second of its day. -/
theorem seconds_eq (t : Instant) :
    t.seconds = (dateOf t.seconds).dayNumber * daySeconds + (secondOfDay t.seconds : Nat) := by
  have hnumber : (dateOf t.seconds).dayNumber = t.seconds / daySeconds := Date.dayNumber_ofDayNumber _
  rw [hnumber]
  unfold secondOfDay daySeconds
  omega

/-- The text of an instant denotes that instant. -/
theorem parse?_text (t : Instant) : parse? t.text = some t := by
  have hseconds := t.seconds_eq
  have hleap := t.leap
  have hday : secondOfDay t.seconds < 86400 := by
    unfold secondOfDay daySeconds
    omega
  have hminute : t.seconds % 60 = ((secondOfDay t.seconds % 60 : Nat) : Int) := by
    unfold daySeconds at hseconds
    omega
  have hvalid : (dateOf t.seconds).Valid := Date.ofDayNumber_valid _
  rw [text_eq, parse?_layout hvalid t.reached (by omega) (by omega) (by split <;> omega) (by split <;> omega),
    ← of?_self t]
  generalize secondOfDay t.seconds = s at *
  by_cases hnanos : 1000000000 ≤ t.nanos
  · have hlast : s % 60 = 59 := by omega
    have hsum : s / 3600 * 3600 + s / 60 % 60 * 60 + min (s % 60 + 1) 59 = s := by omega
    rw [if_pos hnanos, if_pos hnanos, hsum, if_pos (by omega), Nat.sub_add_cancel hnanos]
    exact congrArg (of? · t.nanos) hseconds.symm
  · have hsum : s / 3600 * 3600 + s / 60 % 60 * 60 + min (s % 60) 59 = s := by omega
    rw [if_neg hnanos, if_neg hnanos, hsum, if_neg (by omega)]
    exact congrArg (of? · t.nanos) hseconds.symm

end Courier.Instant
