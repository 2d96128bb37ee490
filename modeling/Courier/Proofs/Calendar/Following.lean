import Courier.Proofs.Calendar.Days
import Mathlib.Logic.ExistsUnique
import Mathlib.Logic.Function.Iterate

/-!
# One day after another

`Date.next` is the day after a date, by the lengths of the months alone, and its day number is the next one
(`Valid.dayNumber_next`). No two dates that exist share a day number (`dayNumber_inj`): counted from March, a day number
tells the year by where the years begin (`Valid.inYear_lt`) and the month by the days before it (`Valid.marchMonth_eq`).
So day numbers count days, forward and back (`away_iff`), and there is exactly one date so many days away from another
(`existsUnique_away`).
-/

namespace Courier.Calendar.Date

/-- The first day of the month after the one of a date. -/
def nextMonth (d : Date) : Date := if d.month < 12 then ⟨d.year, d.month + 1, 1⟩ else ⟨d.year + 1, 1, 1⟩

/-- The day after. -/
def next (d : Date) : Date :=
  if d.day < monthLength d.year d.month then ⟨d.year, d.month, d.day + 1⟩ else d.nextMonth

/-- A date lies so many days after another; before it when the number is negative. -/
def Away (d : Date) : Int → Date → Prop
  | .ofNat n, e => next^[n] d = e
  | .negSucc n, e => next^[n + 1] e = d

/-! ## Years that begin in March -/

/-- The year of a date when years begin in March. -/
def marchYear (d : Date) : Int := if d.month ≤ 2 then d.year - 1 else d.year

/-- The months of such a year before the month of a date. -/
def marchMonth (d : Date) : Int := if d.month ≤ 2 then d.month + 9 else d.month - 3

/-- The days of such a year before a date. -/
def inYear (d : Date) : Int := daysBefore d.marchMonth + (d.day - 1)

/-- The days before such a year. -/
def yearStart (y : Int) : Int := 365 * y + y / 4 - y / 100 + y / 400

theorem yearStart_succ (y : Int) : yearStart (y + 1) = yearStart y + if isLeap (y + 1) = true then 366 else 365 := by
  simp only [yearStart, isLeap, Bool.and_eq_true, Bool.or_eq_true, beq_iff_eq, bne_iff_ne, ne_eq]
  split <;> omega

theorem yearStart_le {y z : Int} (h : y ≤ z) : yearStart y ≤ yearStart z := by
  unfold yearStart
  omega

theorem dayNumber_eq (d : Date) : d.dayNumber = yearStart d.marchYear + d.inYear - epochShift := by
  simp only [dayNumber, yearStart, inYear, marchYear, marchMonth]
  omega

theorem monthLength_february (year : Int) : monthLength year 2 = if isLeap year = true then 29 else 28 := rfl

theorem one_le_monthLength (year : Int) (month : Nat) : 1 ≤ monthLength year month := by
  unfold monthLength
  split
  · split <;> omega
  · split <;> omega

variable {d e : Date}

theorem marchYear_february (h : d.month = 2) : d.marchYear + 1 = d.year := by
  simp [marchYear, h]

theorem marchMonth_february (h : d.month = 2) : d.marchMonth = 11 := by
  simp [marchMonth, h]

/-- Apart from February, a month lasts until the next one begins. -/
theorem Valid.daysBefore_succ (h : d.Valid) (hfebruary : d.month ≠ 2) :
    daysBefore (d.marchMonth + 1) = daysBefore d.marchMonth + monthLength d.year d.month ∧
      d.marchMonth ≤ 10 := by
  obtain ⟨year, month, day⟩ := d
  obtain ⟨hfirst, hlast, -, -⟩ := h
  simp only [marchMonth, daysBefore, monthLength] at *
  interval_cases month <;> simp at hfebruary ⊢

/-- The days before a date tell its month. -/
theorem Valid.marchMonth_eq (h : d.Valid) : d.marchMonth = (5 * d.inYear + 2) / 153 := by
  have hday := h.2.2
  by_cases hfebruary : d.month = 2
  · have hmonth := marchMonth_february hfebruary
    have hlength : monthLength d.year d.month ≤ 29 := by
      rw [hfebruary, monthLength_february]
      split <;> omega
    unfold inYear daysBefore
    omega
  · obtain ⟨hsucc, -⟩ := h.daysBefore_succ hfebruary
    unfold inYear
    unfold daysBefore at *
    omega

/-- A date lies before the next year begins. -/
theorem Valid.inYear_lt (h : d.Valid) : yearStart d.marchYear + d.inYear < yearStart (d.marchYear + 1) := by
  have hday := h.2.2
  rw [yearStart_succ]
  by_cases hfebruary : d.month = 2
  · rw [hfebruary, monthLength_february] at hday
    rw [marchYear_february hfebruary, inYear, marchMonth_february hfebruary, daysBefore]
    split at hday
    · next hleap => rw [if_pos hleap]; omega
    · next hleap => rw [if_neg hleap]; omega
  · obtain ⟨hsucc, hmonth⟩ := h.daysBefore_succ hfebruary
    have hshort : d.inYear < 365 := by
      unfold inYear
      unfold daysBefore at *
      omega
    split <;> omega

theorem Valid.inYear_nonneg (h : d.Valid) : 0 ≤ d.inYear := by
  have hday := h.2.2.1
  have hmonth : 0 ≤ d.marchMonth := by
    unfold marchMonth
    omega
  unfold inYear daysBefore
  omega

/-- A day that is no later lies in a year that is no later. -/
theorem Valid.marchYear_le (hd : d.Valid) (he : e.Valid)
    (h : yearStart e.marchYear + e.inYear ≤ yearStart d.marchYear + d.inYear) : e.marchYear ≤ d.marchYear := by
  by_contra hlt
  have hbegun : yearStart (d.marchYear + 1) ≤ yearStart e.marchYear := yearStart_le (by omega)
  have := hd.inYear_lt
  have := he.inYear_nonneg
  omega

/-- A date is told by its day, and by its month and year counted from March. -/
theorem Valid.eq_of_march (hd : d.Valid) (he : e.Valid) (hyear : d.marchYear = e.marchYear)
    (hmonth : d.marchMonth = e.marchMonth) (hday : d.day = e.day) : d = e := by
  obtain ⟨dyear, dmonth, dday⟩ := d
  obtain ⟨eyear, emonth, eday⟩ := e
  obtain ⟨hdfirst, hdlast, -, -⟩ := hd
  obtain ⟨hefirst, helast, -, -⟩ := he
  simp only [marchYear, marchMonth] at *
  obtain rfl : dmonth = emonth := by omega
  obtain rfl : dyear = eyear := by omega
  rw [hday]

/-- **No two dates share a day number.** -/
theorem dayNumber_inj (hd : d.Valid) (he : e.Valid) (h : d.dayNumber = e.dayNumber) : d = e := by
  have hdays : yearStart d.marchYear + d.inYear = yearStart e.marchYear + e.inYear := by
    rw [dayNumber_eq, dayNumber_eq] at h
    omega
  have hyear : d.marchYear = e.marchYear :=
    Int.le_antisymm (he.marchYear_le hd (Int.le_of_eq hdays)) (hd.marchYear_le he (Int.le_of_eq hdays.symm))
  have hin : d.inYear = e.inYear := by
    rw [hyear] at hdays
    exact Int.add_left_cancel hdays
  have hmonth : d.marchMonth = e.marchMonth := by rw [hd.marchMonth_eq, he.marchMonth_eq, hin]
  have hday : d.day = e.day := by
    rw [inYear, inYear, hmonth] at hin
    omega
  exact hd.eq_of_march he hyear hmonth hday

/-! ## The day after -/

theorem Valid.next (h : d.Valid) : d.next.Valid := by
  obtain ⟨hfirst, hlast, hday, -⟩ := h
  unfold Date.next nextMonth
  split
  · next hlt => exact ⟨hfirst, hlast, Nat.succ_pos _, hlt⟩
  split
  · next hmonth => exact ⟨Nat.succ_pos _, hmonth, Nat.le_refl 1, one_le_monthLength _ _⟩
  · exact ⟨Nat.le_refl 1, Nat.le_of_ble_eq_true rfl, Nat.le_refl 1, one_le_monthLength _ _⟩

/-- A month is as long as it takes until the next one begins. -/
theorem Valid.dayNumber_nextMonth (h : d.Valid) :
    d.nextMonth.dayNumber = d.dayNumber + (monthLength d.year d.month - d.day + 1) := by
  have hlast := h.2.1
  have hday : d.nextMonth.day = 1 := by
    unfold nextMonth
    split <;> rfl
  rw [dayNumber_eq, dayNumber_eq, inYear, inYear, hday]
  by_cases hfebruary : d.month = 2
  · have hnextYear : d.nextMonth.marchYear = d.marchYear + 1 := by simp [nextMonth, marchYear, hfebruary]
    have hnextMonth : d.nextMonth.marchMonth = 0 := by simp [nextMonth, marchMonth, hfebruary]
    rw [hnextYear, hnextMonth, marchMonth_february hfebruary, yearStart_succ, marchYear_february hfebruary, hfebruary,
      monthLength_february, daysBefore, daysBefore]
    split <;> omega
  · obtain ⟨hsucc, -⟩ := h.daysBefore_succ hfebruary
    have hnextYear : d.nextMonth.marchYear = d.marchYear := by
      unfold nextMonth marchYear
      split <;> dsimp only <;> omega
    have hnextMonth : d.nextMonth.marchMonth = d.marchMonth + 1 := by
      unfold nextMonth marchMonth
      split <;> dsimp only <;> omega
    rw [hnextYear, hnextMonth, hsucc]
    omega

/-- **The day after has the next day number.** -/
theorem Valid.dayNumber_next (h : d.Valid) : d.next.dayNumber = d.dayNumber + 1 := by
  unfold Date.next
  split
  · simp only [dayNumber]
    omega
  · next hlast =>
    have hday : d.day = monthLength d.year d.month := Nat.le_antisymm h.2.2.2 (Nat.not_lt.mp hlast)
    rw [h.dayNumber_nextMonth, hday]
    omega

/-! ## Days away -/

theorem Valid.iterate_next (h : d.Valid) (n : Nat) :
    (Date.next^[n] d).Valid ∧ (Date.next^[n] d).dayNumber = d.dayNumber + n := by
  induction n with
  | zero => exact ⟨h, (Int.add_zero _).symm⟩
  | succ n ih =>
    obtain ⟨hvalid, hnumber⟩ := ih
    rw [Function.iterate_succ_apply']
    refine ⟨hvalid.next, ?_⟩
    rw [hvalid.dayNumber_next, hnumber, Int.add_assoc]
    rfl

/-- Day numbers count days. -/
theorem away_iff (hd : d.Valid) (he : e.Valid) {n : Int} : d.Away n e ↔ e.dayNumber = d.dayNumber + n := by
  cases n with
  | ofNat n =>
    obtain ⟨hvalid, hnumber⟩ := hd.iterate_next n
    constructor
    · rintro rfl
      exact hnumber
    · intro h
      exact dayNumber_inj hvalid he (hnumber.trans h.symm)
  | negSucc n =>
    obtain ⟨hvalid, hnumber⟩ := he.iterate_next (n + 1)
    constructor
    · rintro rfl
      rw [hnumber]
      omega
    · intro h
      refine dayNumber_inj hvalid hd ?_
      rw [hnumber, h]
      omega

/-- There is exactly one date so many days away from another. -/
theorem existsUnique_away (hd : d.Valid) (n : Int) : ∃! e, Valid e ∧ d.Away n e := by
  have hvalid := ofDayNumber_valid (d.dayNumber + n)
  have hnumber := dayNumber_ofDayNumber (d.dayNumber + n)
  refine ⟨_, ⟨hvalid, (away_iff hd hvalid).mpr hnumber⟩, ?_⟩
  rintro e ⟨he, haway⟩
  exact dayNumber_inj he hvalid (((away_iff hd he).mp haway).trans hnumber.symm)

/-- The date that day number zero belongs to. -/
def epoch : Date := ⟨1970, 1, 1⟩

theorem epoch_valid : epoch.Valid := by decide

theorem eq_ofDayNumber_of_away {n : Int} (hd : d.Valid) (h : epoch.Away n d) : d = ofDayNumber n := by
  have hzero : epoch.dayNumber = 0 := rfl
  have hnumber := (away_iff epoch_valid hd).mp h
  rw [hzero, Int.zero_add, ← dayNumber_ofDayNumber n] at hnumber
  exact dayNumber_inj hd (ofDayNumber_valid n) hnumber

end Courier.Calendar.Date
