/-!
# Days and civil dates

Dates follow the proleptic Gregorian calendar. Days are counted from 1970-01-01. The
conversions work on a year that starts in March, so that the leap day is its last day,
and on eras of 400 years, which all have 146097 days. A time is a number of milliseconds
since 1970-01-01 00:00:00 UTC. It is written as a date and a clock time, with three
decimals only when it is not a whole second.
-/

namespace LogPipe.Calendar

/-- A date of the proleptic Gregorian calendar. -/
structure Date where
  year : Int
  month : Nat
  day : Nat
deriving DecidableEq, Repr

/-- Whether a year has a leap day. -/
def isLeap (year : Int) : Bool :=
  year % 4 == 0 && (year % 100 != 0 || year % 400 == 0)

/-- The number of days of a month, zero for a month that does not exist. -/
def monthLength (year : Int) : Nat → Nat
  | 1 => 31
  | 2 => if isLeap year then 29 else 28
  | 3 => 31
  | 4 => 30
  | 5 => 31
  | 6 => 30
  | 7 => 31
  | 8 => 31
  | 9 => 30
  | 10 => 31
  | 11 => 30
  | 12 => 31
  | _ => 0

/-- The years for which dates are kept. -/
def inRange (year : Int) : Bool :=
  -262143 ≤ year && year ≤ 262142

/-- Whether a date exists and lies in the kept range. -/
def Date.isValid (date : Date) : Bool :=
  inRange date.year && 1 ≤ date.day && date.day ≤ monthLength date.year date.month

/-- Days from 1970-01-01 to a date. -/
def Date.toDays (date : Date) : Int :=
  let year := if date.month ≤ 2 then date.year - 1 else date.year
  let era := year / 400
  let yearOfEra := year % 400
  let monthFromMarch : Int := if date.month ≤ 2 then date.month + 9 else date.month - 3
  let dayOfYear := (153 * monthFromMarch + 2) / 5 + date.day - 1
  let dayOfEra := 365 * yearOfEra + yearOfEra / 4 - yearOfEra / 100 + dayOfYear
  146097 * era + dayOfEra - 719468

/-- The date a number of days after 1970-01-01. -/
def Date.ofDays (days : Int) : Date :=
  let shifted := days + 719468
  let era := shifted / 146097
  let dayOfEra := shifted % 146097
  let yearOfEra := (dayOfEra - dayOfEra / 1460 + dayOfEra / 36524 - dayOfEra / 146096) / 365
  let dayOfYear := dayOfEra - (365 * yearOfEra + yearOfEra / 4 - yearOfEra / 100)
  let monthFromMarch := (5 * dayOfYear + 2) / 153
  let day := dayOfYear - (153 * monthFromMarch + 2) / 5 + 1
  let month := if monthFromMarch < 10 then monthFromMarch + 3 else monthFromMarch - 9
  let year := yearOfEra + 400 * era + (if month ≤ 2 then 1 else 0)
  ⟨year, month.toNat, day.toNat⟩

/-- The number of milliseconds in a day. -/
def dayMillis : Int := 86400000

/-- The epoch and the leap day of 2000. -/
example : Date.ofDays 0 = ⟨1970, 1, 1⟩ ∧ (⟨2000, 2, 29⟩ : Date).toDays = 11016 := by decide

/-! ## The written form of a time -/

/-- A natural number with leading zeros up to a width. -/
def padded (width : Nat) (value : Nat) : String :=
  let digits := Nat.toDigits 10 value
  String.ofList (List.replicate (width - digits.length) '0' ++ digits)

/-- A year has four digits from 0 to 9999, and outside a sign and at least four. -/
def writeYear (year : Int) : String :=
  if 0 ≤ year && year ≤ 9999 then padded 4 year.toNat
  else (if year < 0 then "-" else "+") ++ padded 4 year.natAbs

/-- The written form of epoch milliseconds; a time outside the calendar's range is
written as its number. -/
def writeTime (millis : Int) : String :=
  let date := Date.ofDays (millis / dayMillis)
  let inDay := (millis % dayMillis).toNat
  let seconds := inDay / 1000
  if inRange date.year then
    writeYear date.year ++ "-" ++ padded 2 date.month ++ "-" ++ padded 2 date.day ++ " " ++
      padded 2 (seconds / 3600) ++ ":" ++ padded 2 (seconds / 60 % 60) ++ ":" ++
      padded 2 (seconds % 60) ++
      (if inDay % 1000 == 0 then "" else "." ++ padded 3 (inDay % 1000))
  else
    toString millis

end LogPipe.Calendar
