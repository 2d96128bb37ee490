import Courier.Calendar.Date
import Courier.Text.Blank
import Courier.Text.Decimal

/-!
# Instants

An instant is a point of universal time with nanoseconds; a leap second is the second 60 of a minute. Its text is that
of RFC 3339 in universal time. The reader also takes lower-case marks, a blank in place of the `T`, fields without
their zeros, blanks between fields, signed years and offsets written with or without a colon.
-/

namespace Courier

/-- A point of universal time, to the nanosecond. -/
structure Instant where
  /-- Seconds since 1970-01-01T00:00:00, without leap seconds. -/
  seconds : Int
  /-- Nanoseconds since that second; those above a second lie in the leap second after it. -/
  nanos : Nat
  /-- The year is one that instants reach. -/
  reached : (Calendar.dateOf seconds).inReach = true
  /-- Only the last second of a minute has a leap second after it. -/
  leap : nanos < 1000000000 ∨ (nanos < 2000000000 ∧ seconds % 60 = 59)
  deriving DecidableEq

namespace Instant

open Calendar

/-- The instant with the given parts, if there is one. -/
def of? (seconds : Int) (nanos : Nat) : Option Instant :=
  if h : (dateOf seconds).inReach = true then
    if hn : nanos < 1000000000 ∨ (nanos < 2000000000 ∧ seconds % 60 = 59) then some ⟨seconds, nanos, h, hn⟩
    else none
  else none

/-- The instant 1970-01-01T00:00:00Z. -/
def epoch : Instant := ⟨0, 0, by decide, by decide⟩

/-- The instant so many seconds after the epoch; the epoch itself when no instant is that far away. -/
def ofSeconds (n : Int) : Instant := (of? n 0).getD epoch

/-! ## Writing -/

/-- A year: four digits, or a sign and at least four digits outside 0 to 9999. -/
def yearText (y : Int) : String :=
  if 0 ≤ y ∧ y ≤ 9999 then Decimal.padded 4 y.toNat
  else (if y < 0 then "-" else "+") ++ Decimal.padded 4 y.natAbs

/-- The digits after the point of the seconds: none, three, six or nine. -/
def fractionText (nanos : Nat) : String :=
  if nanos = 0 then ""
  else if nanos % 1000000 = 0 then "." ++ Decimal.padded 3 (nanos / 1000000)
  else if nanos % 1000 = 0 then "." ++ Decimal.padded 6 (nanos / 1000)
  else "." ++ Decimal.padded 9 nanos

/-- The text of an instant in universal time. -/
def text (t : Instant) : String :=
  let d := dateOf t.seconds
  let s := secondOfDay t.seconds
  let leap := 1000000000 ≤ t.nanos
  let second := if leap then s % 60 + 1 else s % 60
  let nanos := if leap then t.nanos - 1000000000 else t.nanos
  yearText d.year ++ "-" ++ Decimal.padded 2 d.month ++ "-" ++ Decimal.padded 2 d.day ++ "T" ++
    Decimal.padded 2 (s / 3600) ++ ":" ++ Decimal.padded 2 (s / 60 % 60) ++ ":" ++ Decimal.padded 2 second ++
    fractionText nanos ++ "Z"

/-! ## Reading -/

/-- At least one digit and at most `most`: their value and what follows. -/
def digits? (most : Nat) (cs : List Char) : Option (Nat × List Char) :=
  let ds := (cs.take most).takeWhile Decimal.isDigit
  if ds = [] then none else some (Decimal.value ds, cs.drop ds.length)

/-- Any number of digits, at least one. -/
def anyDigits? (cs : List Char) : Option (Nat × List Char) := digits? cs.length cs

/-- A field of the date or the time, after blanks. -/
def field? (cs : List Char) : Option (Nat × List Char) := digits? 2 (Text.dropBlankStart cs)

/-- A year after blanks: at most four digits, or a sign and any number of digits. -/
def year? (cs : List Char) : Option (Int × List Char) :=
  match Text.dropBlankStart cs with
  | '-' :: cs => (anyDigits? cs).map fun (n, cs) => (-(n : Int), cs)
  | '+' :: cs => (anyDigits? cs).map fun (n, cs) => ((n : Int), cs)
  | cs => (digits? 4 cs).map fun (n, cs) => ((n : Int), cs)

/-- A mark, after blanks. -/
def mark? (c : Char) (cs : List Char) : Option (List Char) :=
  match Text.dropBlankStart cs with
  | d :: cs => if d = c then some cs else none
  | [] => none

/-- The nanoseconds after a point: the first nine digits count. Without a point there are none. -/
def nanos? : List Char → Option (Nat × List Char)
  | '.' :: cs =>
    let ds := cs.takeWhile Decimal.isDigit
    if ds = [] then none
    else
      let kept := ds.take 9
      some (Decimal.value kept * Nat.pow 10 (9 - kept.length), cs.dropWhile Decimal.isDigit)
  | cs => some (0, cs)

/-- The mark between date and time. -/
def timeMark? : List Char → Option (List Char)
  | c :: cs => if c = 'T' ∨ c = 't' ∨ c = ' ' then some cs else none
  | [] => none

/-- The hours and minutes of an offset after its sign, in seconds. -/
def offsetValue? (cs : List Char) : Option (Int × List Char) :=
  match cs with
  | a :: b :: cs =>
    if Decimal.isDigit a && Decimal.isDigit b then
      match cs.dropWhile fun c => c == ':' || Text.isBlankChar c with
      | m :: n :: cs =>
        if '0' ≤ m ∧ m ≤ '5' ∧ Decimal.isDigit n = true then
          some ((Decimal.value [a, b] * 3600 + Decimal.value [m, n] * 60 : Nat), cs)
        else none
      | _ => none
    else none
  | _ => none

/-- An offset from universal time in seconds. -/
def offset? : List Char → Option (Int × List Char)
  | 'Z' :: cs => some (0, cs)
  | 'z' :: cs => some (0, cs)
  | '+' :: cs => offsetValue? cs
  | '-' :: cs => (offsetValue? cs).map fun (n, cs) => (-n, cs)
  | '−' :: cs => (offsetValue? cs).map fun (n, cs) => (-n, cs)
  | _ => none

/-- The name of universal time in any case, or an offset. -/
def zone? : List Char → Option (Int × List Char)
  | a :: b :: c :: cs =>
    if (a = 'U' ∨ a = 'u') ∧ (b = 'T' ∨ b = 't') ∧ (c = 'C' ∨ c = 'c') then some (0, cs)
    else offset? (a :: b :: c :: cs)
  | cs => offset? cs

/-- The instant that a text denotes. -/
def parse? (s : String) : Option Instant := do
  let (year, cs) ← year? s.toList
  let (month, cs) ← field? (← mark? '-' cs)
  let (day, cs) ← field? (← mark? '-' cs)
  let (hour, cs) ← field? (← timeMark? cs)
  let (minute, cs) ← field? (← mark? ':' cs)
  let (second, cs) ← field? (← mark? ':' cs)
  let (nanos, cs) ← nanos? cs
  let (offset, cs) ← zone? (Text.dropBlankStart cs)
  let date : Date := ⟨year, month, day⟩
  guard (cs.all Text.isBlankChar)
  guard (date.Valid ∧ date.inReach ∧ hour ≤ 23 ∧ minute ≤ 59 ∧ second ≤ 60)
  guard (-daySeconds < offset ∧ offset < daySeconds)
  let local_ : Int := date.dayNumber * daySeconds + (hour * 3600 + minute * 60 + min second 59 : Nat)
  of? (local_ - offset) (if second = 60 then nanos + 1000000000 else nanos)

end Instant

end Courier
