import RuleReview.Trace

/-!
# Points of time

A clock counts nanoseconds since the start of the year 1970, in universal time.  Traces show a point
of time as a date and a time of day, in a short form for the names of files and in a long one for
readers.

Days are counted from the first of March of the year 0, so that the day a leap year adds is the last
one of a year; 400 years then always have the same number of days.

## What is here

* `Calendar.Date`, `Calendar.ofDays` — the date of a day.
* `Clock.ofNanoseconds` — what a clock says about a run that starts at a point of time.
-/

set_option autoImplicit false

namespace RuleReview

open Text

namespace Calendar

/-- A date. -/
structure Date where
  /-- The year. -/
  year : Nat
  /-- The month, from 1. -/
  month : Nat
  /-- The day of the month, from 1. -/
  day : Nat
  deriving DecidableEq

/-- The number of days of 400 years. -/
def daysOfEra : Nat := 146097

/-- The number of days from the first of March of the year 0 to the start of the year 1970. -/
def daysBefore1970 : Nat := 719468

/-- The date of a day, counted from the start of the year 1970. -/
def ofDays (days : Nat) : Date :=
  let day := days + daysBefore1970
  let era := day / daysOfEra
  let dayOfEra := day % daysOfEra
  let yearOfEra := (dayOfEra - dayOfEra / 1460 + dayOfEra / 36524 - dayOfEra / 146096) / 365
  let dayOfYear := dayOfEra - (365 * yearOfEra + yearOfEra / 4 - yearOfEra / 100)
  let monthFromMarch := (5 * dayOfYear + 2) / 153
  let month := if monthFromMarch < 10 then monthFromMarch + 3 else monthFromMarch - 9
  let year := era * 400 + yearOfEra + (if month ≤ 2 then 1 else 0)
  ⟨year, month, dayOfYear - (153 * monthFromMarch + 2) / 5 + 1⟩

example : ofDays 0 = ⟨1970, 1, 1⟩ := by decide
example : ofDays 11016 = ⟨2000, 2, 29⟩ := by decide
example : ofDays 19723 = ⟨2024, 1, 1⟩ := by decide

end Calendar

/-- The nanoseconds of a second. -/
def nanosecondsPerSecond : Nat := 1000000000

/-- What a clock says about a run that starts at a point of time. -/
def Clock.ofNanoseconds (n : Nat) : Clock :=
  let second := n / nanosecondsPerSecond
  let date := Calendar.ofDays (second / 86400)
  let hour := padded 2 (second / 3600 % 24)
  let minute := padded 2 (second / 60 % 60)
  let rest := padded 2 (second % 60)
  let nanos := dropEndWhile (· == '0') (padded 9 (n % nanosecondsPerSecond))
  let fraction : Text := if nanos.isEmpty then [] else "." ++ nanos
  let year := padded 4 date.year
  let month := padded 2 date.month
  let day := padded 2 date.day
  { stamp := year ++ month ++ day ++ "T" ++ hour ++ minute ++ rest
    startedAt :=
      year ++ "-" ++ month ++ "-" ++ day ++ "T" ++ hour ++ ":" ++ minute ++ ":" ++ rest ++
        fraction ++ "Z"
    elapsed := 0 }

end RuleReview
