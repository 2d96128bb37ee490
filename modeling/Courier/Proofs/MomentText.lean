import Courier.Proofs.Calendar.Following
import Courier.Proofs.Decimals
import Courier.Sentence

/-!
# The moment in a sentence

A timestamp falls on exactly one date (`FallsOn`): the one that lies as many days away from 1970-01-01 as whole days
have passed. While the year of the date is one that instants reach, the sentence about an event shows the date and the
time of day in fields of two digits (`momentText_of_reached`); otherwise it shows the bare number. Fields of two digits
can be told from their text (`stamp_inj`), and the year can be told from its last two digits within a century. So the
moments of a minute look alike, and the minutes of a century look different (`moment_shown`).
-/

namespace Courier

open Calendar Decimal

/-! ## Fields of two digits -/

namespace Decimal

/-- A number below a hundred in two digits. -/
def twoDigits (n : Nat) : List Char := [Nat.digitChar (n / 10), Nat.digitChar (n % 10)]

theorem toList_padded_two {n : Nat} (hn : n < 100) : (padded 2 n).toList = twoDigits n := by
  have hone : ∀ k, k < 10 → digits k = [Nat.digitChar k] := fun k hk => Nat.toDigits_of_lt_base hk
  rw [toList_padded]
  by_cases hten : 10 ≤ n
  · rw [digits_of_ten_le hten, hone (n / 10) (by omega)]
    rfl
  · have hlt : n < 10 := Nat.not_le.mp hten
    rw [hone n hlt, twoDigits, Nat.div_eq_of_lt hlt, Nat.mod_eq_of_lt hlt]
    rfl

theorem twoDigits_inj {m n : Nat} (hm : m < 100) (hn : n < 100) (h : twoDigits m = twoDigits n) : m = n := by
  rw [← toList_padded_two hm, ← toList_padded_two hn] at h
  have hvalue := congrArg value h
  rwa [value_padded, value_padded] at hvalue

theorem ofInt_eq_toString (n : Int) : ofInt n = toString n := by
  cases n with
  | ofNat n => rfl
  | negSucc n =>
    have hminus : toString (Int.negSucc n) = "-" ++ Nat.repr (n + 1) := rfl
    rw [hminus, ← String.toList_inj, String.toList_append]
    simp [ofInt, signedDigits, digits, Nat.repr]

end Decimal

namespace Calendar

/-- A date and a second of the day, as day, month, year of the century, hour and minute. -/
def stamp (d : Date) (second : Nat) : List Char :=
  twoDigits d.day ++ '/' :: twoDigits d.month ++ '/' :: twoDigits (d.year % 100).toNat ++ ' ' ::
    twoDigits (second / 3600) ++ ':' :: twoDigits (second / 60 % 60)

/-- The fields of a stamp fit into two digits. -/
theorem Date.Valid.fields_lt {d : Date} (h : d.Valid) : d.day < 100 ∧ d.month < 100 ∧ (d.year % 100).toNat < 100 := by
  obtain ⟨-, hmonth, -, hday⟩ := h
  have hlength := Date.monthLength_le d.year d.month
  omega

/-- A stamp tells the fields that it is made of. -/
theorem stamp_inj {d e : Date} (hd : d.Valid) (he : e.Valid) {s t : Nat} (hs : s < 86400) (ht : t < 86400)
    (h : stamp d s = stamp e t) :
    d.day = e.day ∧ d.month = e.month ∧ d.year % 100 = e.year % 100 ∧ s / 60 = t / 60 := by
  obtain ⟨hdday, hdmonth, hdyear⟩ := hd.fields_lt
  obtain ⟨heday, hemonth, heyear⟩ := he.fields_lt
  have hfields : twoDigits d.day = twoDigits e.day ∧ twoDigits d.month = twoDigits e.month ∧
      twoDigits (d.year % 100).toNat = twoDigits (e.year % 100).toNat ∧
      twoDigits (s / 3600) = twoDigits (t / 3600) ∧ twoDigits (s / 60 % 60) = twoDigits (t / 60 % 60) := by
    simpa [stamp, twoDigits, and_assoc] using h
  obtain ⟨hday, hmonth, hyear, hhour, hminute⟩ := hfields
  have hyears := twoDigits_inj hdyear heyear hyear
  have hhours := twoDigits_inj (by omega) (by omega) hhour
  have hminutes := twoDigits_inj (by omega) (by omega) hminute
  exact ⟨twoDigits_inj hdday heday hday, twoDigits_inj hdmonth hemonth hmonth, by omega, by omega⟩

/-- A timestamp falls on the date that is as many days away from 1970-01-01 as whole days have passed. -/
def FallsOn (t : Int64) (d : Date) : Prop := d.Valid ∧ Date.epoch.Away (t.toInt / 86400) d

theorem existsUnique_fallsOn (t : Int64) : ∃! d, FallsOn t d := Date.existsUnique_away Date.epoch_valid _

theorem FallsOn.eq_dateOf {t : Int64} {d : Date} (h : FallsOn t d) : d = dateOf t.toInt :=
  Date.eq_ofDayNumber_of_away h.1 h.2

/-- The year of a date is one that instants reach. -/
def Date.Reached (d : Date) : Prop := -262143 ≤ d.year ∧ d.year ≤ 262142

instance (d : Date) : Decidable d.Reached := inferInstanceAs (Decidable (_ ∧ _))

theorem Date.inReach_iff (d : Date) : d.inReach = true ↔ d.Reached := by
  rw [Date.inReach, Bool.and_eq_true, decide_eq_true_iff, decide_eq_true_iff]
  rfl

end Calendar

/-! ## What is shown of a timestamp -/

variable {t u : Int64} {d e : Date}

theorem momentText_of_reached (h : FallsOn t d) (hreached : d.Reached) :
    momentText t = String.ofList (stamp d (t.toInt % 86400).toNat) := by
  obtain rfl := h.eq_dateOf
  obtain ⟨hday, hmonth, hyear⟩ := h.1.fields_lt
  have hsecond : secondOfDay t.toInt = (t.toInt % 86400).toNat := rfl
  rw [momentText, if_pos ((Date.inReach_iff _).mpr hreached), hsecond, ← String.toList_inj, String.toList_ofList, stamp,
    ← toList_padded_two hday, ← toList_padded_two hmonth, ← toList_padded_two hyear,
    ← toList_padded_two (n := (t.toInt % 86400).toNat / 3600) (by omega),
    ← toList_padded_two (n := (t.toInt % 86400).toNat / 60 % 60) (by omega)]
  simp

theorem momentText_of_not_reached (h : FallsOn t d) (hreached : ¬ d.Reached) :
    momentText t = toString t.toInt := by
  obtain rfl := h.eq_dateOf
  rw [momentText, if_neg (mt (Date.inReach_iff _).mp hreached), ofInt_eq_toString]

/-- The sentence about an event begins with its moment. -/
theorem Event.sentence_begins (e : Event) : ∃ rest,
    e.sentence = "There was a new transaction at " ++ momentText e.timestamp ++ ", between " ++ rest := by
  unfold sentence
  -- the texts of the moment and the amount must not be unfolded while the parts are put together
  generalize momentText e.timestamp = moment
  generalize amountText e.cents = amount
  refine ⟨e.requester ++ (" and " ++ (e.receiver ++ (" by " ++ (e.category ++ (", with the value of " ++
    (e.currency ++ (" " ++ (amount ++ (", status: " ++ e.name))))))))), ?_⟩
  simp only [String.append_assoc]

/-- The moments of a minute fall on one date and look alike. -/
theorem momentText_of_same_minute (hd : FallsOn t d) (he : FallsOn u e) (hreached : d.Reached)
    (hminute : t.toInt / 60 = u.toInt / 60) : momentText t = momentText u := by
  have hday : t.toInt / 86400 = u.toInt / 86400 := by omega
  obtain rfl : d = e := by
    rw [hd.eq_dateOf, he.eq_dateOf, dateOf, dateOf, daySeconds, hday]
  have hhours : (t.toInt % 86400).toNat / 3600 = (u.toInt % 86400).toNat / 3600 := by omega
  have hminutes : (t.toInt % 86400).toNat / 60 % 60 = (u.toInt % 86400).toNat / 60 % 60 := by omega
  rw [momentText_of_reached hd hreached, momentText_of_reached he hreached, stamp, stamp, hhours, hminutes]

/-- Within the years of a century, what looks alike is of one minute. -/
theorem same_minute_of_momentText (hd : FallsOn t d) (he : FallsOn u e) (hdreached : d.Reached)
    (hereached : e.Reached) (hcentury : d.year / 100 = e.year / 100) (h : momentText t = momentText u) :
    t.toInt / 60 = u.toInt / 60 := by
  rw [momentText_of_reached hd hdreached, momentText_of_reached he hereached, String.ofList_inj] at h
  obtain ⟨hday, hmonth, hyear, hminute⟩ := stamp_inj hd.1 he.1 (by omega) (by omega) h
  have hdate : d = e := by
    obtain ⟨dyear, dmonth, dday⟩ := d
    obtain ⟨eyear, emonth, eday⟩ := e
    obtain rfl : dyear = eyear := by
      dsimp only at hyear hcentury
      omega
    obtain rfl : dmonth = emonth := hmonth
    obtain rfl : dday = eday := hday
    rfl
  have hdays : t.toInt / 86400 = u.toInt / 86400 := by
    have hnumber := congrArg Date.dayNumber hdate
    rwa [hd.eq_dateOf, he.eq_dateOf, dateOf, dateOf, Date.dayNumber_ofDayNumber, Date.dayNumber_ofDayNumber] at hnumber
  omega

/-- **What a sentence shows of a timestamp.** A timestamp falls on exactly one date. When instants reach its year, the
sentence shows day, month, year of the century, hour and minute, in two digits each; otherwise it shows the bare number.
Of two timestamps whose years are reached, those of the same minute look alike, and those of different minutes look
different when their years agree but for the last two digits. -/
theorem moment_shown (t : Int64) :
    (∃! d, FallsOn t d) ∧
    (∀ event : Event, event.timestamp = t →
      ∃ rest, event.sentence = "There was a new transaction at " ++ momentText t ++ ", between " ++ rest) ∧
    ∀ d, FallsOn t d →
      (d.Reached → momentText t = String.ofList (stamp d (t.toInt % 86400).toNat)) ∧
      (¬ d.Reached → momentText t = toString t.toInt) ∧
      ∀ u e, FallsOn u e → d.Reached → e.Reached →
        (t.toInt / 60 = u.toInt / 60 → momentText t = momentText u) ∧
        (t.toInt / 60 ≠ u.toInt / 60 → d.year / 100 = e.year / 100 → momentText t ≠ momentText u) := by
  refine ⟨existsUnique_fallsOn t, ?_, fun d hd => ⟨momentText_of_reached hd, momentText_of_not_reached hd, ?_⟩⟩
  · rintro event rfl
    exact event.sentence_begins
  · intro u e he hdreached hereached
    refine ⟨momentText_of_same_minute hd he hdreached, fun hminute hcentury hsame => hminute ?_⟩
    exact same_minute_of_momentText hd he hdreached hereached hcentury hsame

theorem moment_shown_leap_day :
    momentText 951827696 = "29/02/00 12:34" ∧ momentText 951827696 = momentText 951827640 ∧
      momentText 951827696 ≠ momentText 951827700 ∧ momentText 9223372036854775807 = "9223372036854775807" := by
  have hday : ∀ t : Int64, t.toInt / 86400 = 11016 → FallsOn t ⟨2000, 2, 29⟩ := by
    intro t ht
    have hvalid : Date.Valid ⟨2000, 2, 29⟩ := by decide
    exact ⟨hvalid, (Date.away_iff Date.epoch_valid hvalid).mpr (by rw [ht]; rfl)⟩
  have hreached : Date.Reached ⟨2000, 2, 29⟩ := by decide
  obtain ⟨-, -, hshown⟩ := moment_shown 951827696
  obtain ⟨hstamp, -, hother⟩ := hshown _ (hday _ (by decide))
  refine ⟨hstamp hreached, (hother _ _ (hday _ (by decide)) hreached hreached).1 (by decide),
    (hother _ _ (hday _ (by decide)) hreached hreached).2 (by decide) rfl, ?_⟩
  obtain ⟨⟨d, hd, -⟩, -, hlast⟩ := moment_shown 9223372036854775807
  obtain ⟨-, hnumber, -⟩ := hlast d hd
  refine hnumber ?_
  rw [hd.eq_dateOf]
  decide

end Courier
