/-
  This file defines the proleptic Gregorian calendar: days
  are counted from 1970-01-01, and each day has a year, a
  month and a day of the month.

  Key definitions include:
    * `Calendar.Date`
    * `Calendar.isLeapYear`
    * `Calendar.monthLength`
    * `Calendar.dayNumber`
    * `Calendar.ofDayNumber`
    * `Calendar.Date.IsValid`
-/

namespace Conform

namespace Calendar

/- A year, a month from one, and a day of the month from one. -/
structure Date where
  year : Int
  month : Nat
  day : Nat
deriving DecidableEq, Repr

/- Every fourth year, of the full centuries every fourth. -/
def isLeapYear
    (year : Int) : Bool :=
  year % 4 == 0 && (year % 100 != 0 || year % 400 == 0)

/- The number of days in a month. -/
def monthLength
    (year : Int)
    (month : Nat) : Nat :=
  if month = 2 then
    if isLeapYear year then 29 else 28
  else if month = 4 ∨ month = 6 ∨ month = 9 ∨ month = 11 then
    30
  else
    31

/- A date that the calendar has. -/
def Date.IsValid
    (d : Date) : Prop :=
  1 ≤ d.month ∧ d.month ≤ 12 ∧
    1 ≤ d.day ∧ d.day ≤ monthLength d.year d.month

instance
    (d : Date) :
    Decidable d.IsValid := by
  unfold Date.IsValid
  infer_instance

------------------------------------------------------------
-- Counting Days
------------------------------------------------------------

/-
  Years are counted from March here, so that a leap day ends
  its year. Then month `m` of the year starts on day
  `(153 * m + 2) / 5`, and 400 years have 146097 days, the
  719468th of which is 1970-01-01.
-/

/- The day of the March-based year on which a month starts. -/
def monthStart
    (marchMonth : Int) : Int :=
  (153 * marchMonth + 2) / 5

/- The day of the era on which a March-based year starts. -/
def yearStart
    (yearOfEra : Int) : Int :=
  365 * yearOfEra + yearOfEra / 4 - yearOfEra / 100

/- The number of a date, counted from 1970-01-01. -/
def dayNumber
    (d : Date) : Int :=
  let early := decide (d.month ≤ 2)
  let year := if early then d.year - 1 else d.year
  let month : Int := if early then d.month + 9 else d.month - 3
  let dayOfEra :=
    yearStart (year % 400) + monthStart month + (d.day - 1)
  year / 400 * 146097 + dayOfEra - 719468

/- The year of an era in which a day of the era lies. -/
def yearOfEra
    (dayOfEra : Int) : Int :=
  (dayOfEra - dayOfEra / 1460 + dayOfEra / 36524
    - dayOfEra / 146096) / 365

/- The date with a given number. -/
def ofDayNumber
    (n : Int) : Date :=
  let shifted := n + 719468
  let dayOfEra := shifted % 146097
  let year := yearOfEra dayOfEra
  let dayOfYear := dayOfEra - yearStart year
  let month := (5 * dayOfYear + 2) / 153
  let early := decide (10 ≤ month)
  {
    year := shifted / 146097 * 400 + year +
      (if early then 1 else 0)
    month := (if early then month - 9 else month + 3).toNat
    day := (dayOfYear - monthStart month + 1).toNat
  }

end Calendar

end Conform
