import Conform.Instant.Calendar

/-
  This file defines instants of universal time with a
  resolution of one nanosecond. A leap second is the second
  that follows the last one of a minute, so it is kept as
  that last second with a thousand million nanoseconds more.

  Key definitions include:
    * `Instant`
    * `Instant.lt`
    * `Instant.midnight`
    * `Instant.moveSeconds`
    * `Instant.year`
    * `Instant.truncateMillis`
-/

namespace Conform

/-
  A day counted from 1970-01-01, a second of that day, and
  nanoseconds. From a thousand million nanoseconds on the
  instant lies in a leap second, which only the last second
  of a minute has.
-/
structure Instant where
  day : Int
  second : Nat
  nano : Nat
  second_lt : second < 86400
  nano_lt : nano < 2000000000
  leap_ends_minute :
    1000000000 ≤ nano → second % 60 = 59
deriving DecidableEq

namespace Instant

------------------------------------------------------------
-- Order
------------------------------------------------------------

/- Instants are ordered by day, second and nanoseconds. -/
def lt
    (a b : Instant) : Bool :=
  decide (a.day < b.day) ||
    (a.day == b.day &&
      (decide (a.second < b.second) ||
        (a.second == b.second && decide (a.nano < b.nano))))

------------------------------------------------------------
-- Construction
------------------------------------------------------------

/- The start of a day. -/
def midnight
    (day : Int) : Instant where
  day := day
  second := 0
  nano := 0
  second_lt := by omega
  nano_lt := by omega
  leap_ends_minute := by omega

instance : Inhabited Instant :=
  ⟨midnight 0⟩

/- The instant with the given parts, if there is one. -/
def ofParts?
    (day : Int)
    (second nano : Nat) : Option Instant :=
  if h : second < 86400 ∧ nano < 2000000000 ∧
      (1000000000 ≤ nano → second % 60 = 59) then
    some ⟨day, second, nano, h.1, h.2.1, h.2.2⟩
  else
    none

/- The instant a number of whole minutes earlier. -/
def minutesEarlier
    (t : Instant)
    (minutes : Int) : Instant where
  day := t.day + (t.second - 60 * minutes) / 86400
  second := ((t.second - 60 * minutes) % 86400).toNat
  nano := t.nano
  second_lt := by omega
  nano_lt := t.nano_lt
  leap_ends_minute := by
    intro h
    have := t.leap_ends_minute h
    omega

------------------------------------------------------------
-- Parts
------------------------------------------------------------

/- The calendar date of an instant. -/
def date
    (t : Instant) : Calendar.Date :=
  Calendar.ofDayNumber t.day

/- The year of an instant. -/
def year
    (t : Instant) : Int :=
  t.date.year

/- The instant with whole milliseconds only. -/
def truncateMillis
    (t : Instant) : Instant where
  day := t.day
  second := t.second
  nano := t.nano / 1000000 * 1000000
  second_lt := t.second_lt
  nano_lt := by
    have := t.nano_lt
    omega
  leap_ends_minute := by
    intro h
    exact t.leap_ends_minute (by omega)

end Instant

end Conform
