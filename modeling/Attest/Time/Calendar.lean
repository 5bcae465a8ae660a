import Attest.Time

/-!
# Calendar dates

The date and time of day of an instant in the proleptic Gregorian calendar, and
the text of both.  Years count from the first of March inside, so that the leap
day is the last day of its year.
-/

namespace Attest

/-- A day of the calendar. -/
structure Date where
  year : Int
  month : Nat
  day : Nat
  deriving DecidableEq, Repr

/-- The date of the day with the given number, day 0 being the first of January
1970. -/
def Date.ofDay (number : Int) : Date :=
  let shifted := number + 719468
  let era := shifted / 146097
  let dayOfEra := (shifted % 146097).toNat
  let yearOfEra :=
    (dayOfEra - dayOfEra / 1460 + dayOfEra / 36524 - dayOfEra / 146096) / 365
  let dayOfYear := dayOfEra - (365 * yearOfEra + yearOfEra / 4 - yearOfEra / 100)
  let shiftedMonth := (5 * dayOfYear + 2) / 153
  let day := dayOfYear - (153 * shiftedMonth + 2) / 5 + 1
  let month := if shiftedMonth < 10 then shiftedMonth + 3 else shiftedMonth - 9
  let year := (yearOfEra : Int) + era * 400 + (if month ≤ 2 then 1 else 0)
  ⟨year, month, day⟩

/-- The number of days in a month. -/
def Date.daysInMonth (year month : Nat) : Nat :=
  if month = 2 then
    if year % 4 = 0 ∧ (year % 100 ≠ 0 ∨ year % 400 = 0) then 29 else 28
  else if month = 4 ∨ month = 6 ∨ month = 9 ∨ month = 11 then 30
  else 31

/-- A number with at least so many digits. -/
def paddedDigits (width n : Nat) : String :=
  let digits := Nat.toDigits 10 n
  String.ofList (List.replicate (width - digits.length) '0' ++ digits)

/-- A year: four digits, or a sign and at least four digits outside 0 to 9999. -/
def yearText (year : Int) : String :=
  if 0 ≤ year ∧ year ≤ 9999 then paddedDigits 4 year.toNat
  else if 0 ≤ year then "+" ++ paddedDigits 4 year.toNat
  else "-" ++ paddedDigits 4 year.natAbs

/-- The fraction of a second in milliseconds, microseconds or nanoseconds, the
coarsest unit that is exact; nothing for a whole second. -/
def fractionText (nanos : Nat) : String :=
  if nanos = 0 then ""
  else if nanos % 1000000 = 0 then "." ++ paddedDigits 3 (nanos / 1000000)
  else if nanos % 1000 = 0 then "." ++ paddedDigits 6 (nanos / 1000)
  else "." ++ paddedDigits 9 nanos

/-- The date and time of an instant in universal time. -/
def Instant.text (t : Instant) : String :=
  let second := t.seconds
  let nanos := (t.nanoseconds % nanosPerSecond).toNat
  let date := Date.ofDay (second / 86400)
  let timeOfDay := (second % 86400).toNat
  yearText date.year ++ "-" ++ paddedDigits 2 date.month ++ "-" ++ paddedDigits 2 date.day ++
    "T" ++ paddedDigits 2 (timeOfDay / 3600) ++ ":" ++ paddedDigits 2 (timeOfDay / 60 % 60) ++
    ":" ++ paddedDigits 2 (timeOfDay % 60) ++ fractionText nanos ++ "Z"

end Attest
