import Courier.Notification

/-!
# The sentence about an event

Recipients read one sentence about an event. Amounts have exactly two places; the moment is day, month and year of the
century, then hour and minute, in universal time, or the bare number of seconds when it lies beyond the calendar.
-/

namespace Courier

/-- Hundredths of a currency as a number with two places. -/
def amountText (cents : Int64) : String :=
  let n := cents.toInt.natAbs
  (if cents.toInt < 0 then "-" else "") ++ Decimal.ofNat (n / 100) ++ "." ++ Decimal.padded 2 (n % 100)

/-- A moment to the minute. -/
def momentText (timestamp : Int64) : String :=
  let d := Calendar.dateOf timestamp.toInt
  let s := Calendar.secondOfDay timestamp.toInt
  if d.inReach then
    Decimal.padded 2 d.day ++ "/" ++ Decimal.padded 2 d.month ++ "/" ++ Decimal.padded 2 (d.year % 100).toNat ++ " " ++
      Decimal.padded 2 (s / 3600) ++ ":" ++ Decimal.padded 2 (s / 60 % 60)
  else Decimal.ofInt timestamp.toInt

/-- The sentence about an event. -/
def Event.sentence (e : Event) : String :=
  "There was a new transaction at " ++ momentText e.timestamp ++ ", between " ++ e.requester ++ " and " ++ e.receiver ++
    " by " ++ e.category ++ ", with the value of " ++ e.currency ++ " " ++ amountText e.cents ++ ", status: " ++ e.name

end Courier
