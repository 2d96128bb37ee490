/-!
# Civil dates

Dates of the proleptic Gregorian calendar and their day numbers, counted from 1970-01-01. Both directions count years
from March, so that the leap day is the last day of a year, of a cycle of four years, of a century and of an era.
-/

namespace Courier.Calendar

/-- A day of the proleptic Gregorian calendar. -/
structure Date where
  year : Int
  month : Nat
  day : Nat
  deriving DecidableEq, Repr

namespace Date

/-- Every fourth year is a leap year, of the centuries only every fourth. -/
def isLeap (year : Int) : Bool := year % 4 == 0 && (year % 100 != 0 || year % 400 == 0)

/-- The number of days of a month. -/
def monthLength (year : Int) (month : Nat) : Nat :=
  if month = 2 then if isLeap year then 29 else 28
  else if month = 4 ∨ month = 6 ∨ month = 9 ∨ month = 11 then 30
  else 31

/-- A date that exists. -/
def Valid (d : Date) : Prop := 1 ≤ d.month ∧ d.month ≤ 12 ∧ 1 ≤ d.day ∧ d.day ≤ monthLength d.year d.month

instance (d : Date) : Decidable d.Valid := inferInstanceAs (Decidable (_ ∧ _ ∧ _ ∧ _))

/-- The day number of 1970-01-01 counted from March 1 of the year zero. -/
def epochShift : Int := 719468

/-- Days of an era of 400 years. -/
def eraDays : Int := 146097

/-- Days of a century that does not end an era. -/
def centuryDays : Int := 36524

/-- Days of a cycle of four years that does not end a century. -/
def cycleDays : Int := 1461

/-- Days before a month of a year that begins in March. -/
def daysBefore (marchMonth : Int) : Int := (153 * marchMonth + 2) / 5

/-- Days from 1970-01-01 to a date. -/
def dayNumber (d : Date) : Int :=
  let y := if d.month ≤ 2 then d.year - 1 else d.year
  let m : Int := if d.month ≤ 2 then d.month + 9 else d.month - 3
  365 * y + y / 4 - y / 100 + y / 400 + daysBefore m + (d.day - 1) - epochShift

/-- The date with a day number. -/
def ofDayNumber (n : Int) : Date :=
  let z := n + epochShift
  let era := z / eraDays
  let inEra := z % eraDays
  let century := min (inEra / centuryDays) 3
  let inCentury := inEra - century * centuryDays
  let cycle := inCentury / cycleDays
  let inCycle := inCentury - cycle * cycleDays
  let yearOfCycle := min (inCycle / 365) 3
  let inYear := inCycle - yearOfCycle * 365
  let marchMonth := (5 * inYear + 2) / 153
  let year := era * 400 + century * 100 + cycle * 4 + yearOfCycle
  { year := if marchMonth < 10 then year else year + 1
    month := (if marchMonth < 10 then marchMonth + 3 else marchMonth - 9).toNat
    day := (inYear - daysBefore marchMonth + 1).toNat }

/-- The first year that instants reach. -/
def firstYear : Int := -262143

/-- The last year that instants reach. -/
def lastYear : Int := 262142

/-- Whether the year of a date is one that instants reach. -/
def inReach (d : Date) : Bool := firstYear ≤ d.year && d.year ≤ lastYear

end Date

/-- Seconds of a day. -/
def daySeconds : Int := 86400

/-- The date of a number of seconds since 1970-01-01T00:00:00. -/
def dateOf (seconds : Int) : Date := Date.ofDayNumber (seconds / daySeconds)

/-- The second of the day of a number of seconds since 1970-01-01T00:00:00. -/
def secondOfDay (seconds : Int) : Nat := (seconds % daySeconds).toNat

end Courier.Calendar
