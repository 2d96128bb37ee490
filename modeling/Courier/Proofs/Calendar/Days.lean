import Courier.Calendar.Date
import Mathlib.Tactic.IntervalCases

/-!
# Dates and their day numbers

Counted from March, a day lies in an era, a century, a cycle of four years and a year (`Place`). `exists_place`
finds the place of every day number, and the date at a place exists and has the day number of the place. So every day
number has a date that exists (`ofDayNumber_valid`) and comes back from it (`dayNumber_ofDayNumber`).
-/

namespace Courier.Calendar.Date

/-- The parts of a day number that is counted from March 1 of the year zero. -/
structure Place (z era century cycle yearOfCycle inYear : Int) : Prop where
  sum : z = era * 146097 + century * 36524 + cycle * 1461 + yearOfCycle * 365 + inYear
  century_mem : 0 ≤ century ∧ century ≤ 3
  cycle_mem : 0 ≤ cycle ∧ cycle ≤ 24
  year_mem : 0 ≤ yearOfCycle ∧ yearOfCycle ≤ 3
  inYear_mem : 0 ≤ inYear ∧ inYear ≤ 365
  /-- Only leap years have a last day more. -/
  leap : inYear = 365 → yearOfCycle = 3 ∧ (cycle = 24 → century = 3)

/-- The date at a place. -/
def ofPlace (era century cycle yearOfCycle inYear : Int) : Date :=
  let marchMonth := (5 * inYear + 2) / 153
  let year := era * 400 + century * 100 + cycle * 4 + yearOfCycle
  { year := if marchMonth < 10 then year else year + 1
    month := (if marchMonth < 10 then marchMonth + 3 else marchMonth - 9).toNat
    day := (inYear - daysBefore marchMonth + 1).toNat }

/-- Every day number has a place, and its date is the date at that place. -/
theorem exists_place (n : Int) : ∃ era century cycle yearOfCycle inYear,
    Place (n + epochShift) era century cycle yearOfCycle inYear ∧
      ofDayNumber n = ofPlace era century cycle yearOfCycle inYear := by
  refine ⟨_, _, _, _, _, ?_, rfl⟩
  generalize n + epochShift = z
  simp only [eraDays, centuryDays, cycleDays]
  generalize hera : z / 146097 = era
  generalize hin : z % 146097 = inEra
  have hinEra : z = era * 146097 + inEra ∧ 0 ≤ inEra ∧ inEra < 146097 := by omega
  generalize hc : min (inEra / 36524) 3 = century
  have hcentury : 0 ≤ century ∧ century ≤ 3 ∧ 0 ≤ inEra - century * 36524 ∧
      inEra - century * 36524 ≤ 36524 ∧ (inEra - century * 36524 = 36524 → century = 3) := by omega
  generalize hic : inEra - century * 36524 = inCentury at *
  generalize hy : inCentury / 1461 = cycle
  have hcycle : 0 ≤ cycle ∧ cycle ≤ 24 ∧ 0 ≤ inCentury - cycle * 1461 ∧ inCentury - cycle * 1461 ≤ 1460 := by omega
  generalize hicy : inCentury - cycle * 1461 = inCycle at *
  generalize hyoc : min (inCycle / 365) 3 = yearOfCycle
  have hyear : 0 ≤ yearOfCycle ∧ yearOfCycle ≤ 3 ∧ 0 ≤ inCycle - yearOfCycle * 365 ∧
      inCycle - yearOfCycle * 365 ≤ 365 ∧ (inCycle - yearOfCycle * 365 = 365 → yearOfCycle = 3 ∧ inCycle = 1460) := by
    omega
  exact ⟨by omega, by omega, by omega, by omega, by omega, by omega⟩

variable {z era century cycle yearOfCycle inYear : Int}

/-- The month of a place, counted from March, and the days before it. -/
theorem Place.marchMonth_mem (h : Place z era century cycle yearOfCycle inYear) :
    0 ≤ (5 * inYear + 2) / 153 ∧ (5 * inYear + 2) / 153 ≤ 11 ∧
      daysBefore ((5 * inYear + 2) / 153) ≤ inYear := by
  have := h.inYear_mem
  unfold daysBefore
  omega

/-- The days before the year of a place, and those of the year up to it. -/
theorem Place.days_of_year (h : Place z era century cycle yearOfCycle inYear) :
    let y := era * 400 + century * 100 + cycle * 4 + yearOfCycle
    365 * y + y / 4 - y / 100 + y / 400 + inYear = z := by
  obtain ⟨hsum, hcentury, hcycle, hyear, -, -⟩ := h
  intro y
  have hfour : y / 4 = era * 100 + century * 25 + cycle := by omega
  have hhundred : y / 100 = era * 4 + century := by omega
  have hera : y / 400 = era := by omega
  omega

/-- The day number of the date at a place is the one that it is the place of. -/
theorem Place.dayNumber_ofPlace (h : Place z era century cycle yearOfCycle inYear) :
    (ofPlace era century cycle yearOfCycle inYear).dayNumber = z - epochShift := by
  obtain ⟨hlow, hhigh, hbefore⟩ := h.marchMonth_mem
  have hdays := h.days_of_year
  unfold dayNumber ofPlace
  generalize (5 * inYear + 2) / 153 = marchMonth at *
  by_cases hm : marchMonth < 10
  · have hmonth : ¬ (marchMonth + 3).toNat ≤ 2 := by omega
    have hm' : ((marchMonth + 3).toNat : Int) - 3 = marchMonth := by omega
    simp only [hm, if_true, hmonth, if_false, hm']
    omega
  · have hmonth : (marchMonth - 9).toNat ≤ 2 := by omega
    have hm' : ((marchMonth - 9).toNat : Int) + 9 = marchMonth := by omega
    simp only [hm, if_true, hmonth, if_false, hm', Int.add_sub_cancel]
    omega

/-- The year in which the last day of a leap year lies is a leap year. -/
theorem Place.isLeap (h : Place z era century cycle yearOfCycle inYear) (hlast : inYear = 365) :
    isLeap (era * 400 + century * 100 + cycle * 4 + yearOfCycle + 1) = true := by
  obtain ⟨hyear, hcentury⟩ := h.leap hlast
  have := h.century_mem
  have := h.cycle_mem
  simp only [Date.isLeap, Bool.and_eq_true, Bool.or_eq_true, beq_iff_eq, bne_iff_ne, ne_eq]
  omega

theorem Place.ofPlace_valid (h : Place z era century cycle yearOfCycle inYear) :
    (ofPlace era century cycle yearOfCycle inYear).Valid := by
  obtain ⟨hlow, hhigh, hbefore⟩ := h.marchMonth_mem
  have hinYear := h.inYear_mem
  have hleap := h.isLeap
  unfold ofPlace Valid monthLength
  generalize hm : (5 * inYear + 2) / 153 = marchMonth at *
  generalize era * 400 + century * 100 + cycle * 4 + yearOfCycle = year at *
  unfold daysBefore at *
  by_cases hfebruary : marchMonth = 11
  · subst hfebruary
    have hday : inYear - 337 + 1 ≤ if Date.isLeap (year + 1) = true then 29 else 28 := by
      by_cases hl : Date.isLeap (year + 1) = true
      · rw [if_pos hl]
        omega
      · have hne : inYear ≠ 365 := fun h365 => hl (hleap h365)
        rw [if_neg hl]
        omega
    simpa using ⟨by omega, hday⟩
  · have hother : marchMonth ≤ 10 := by omega
    interval_cases marchMonth <;> simp <;> omega

theorem monthLength_le (year : Int) (month : Nat) : monthLength year month ≤ 31 := by
  unfold monthLength
  split
  · split <;> omega
  · split <;> omega

theorem dayNumber_ofDayNumber (n : Int) : (ofDayNumber n).dayNumber = n := by
  obtain ⟨era, century, cycle, yearOfCycle, inYear, hplace, he⟩ := exists_place n
  rw [he, hplace.dayNumber_ofPlace]
  omega

theorem ofDayNumber_valid (n : Int) : (ofDayNumber n).Valid := by
  obtain ⟨era, century, cycle, yearOfCycle, inYear, hplace, he⟩ := exists_place n
  rw [he]
  exact hplace.ofPlace_valid

end Courier.Calendar.Date
