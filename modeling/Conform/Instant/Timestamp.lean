import Conform.Instant
import Conform.Number.Decimal

/-
  This file writes and reads timestamps: a date, a time of
  day with an optional fraction of a second, and an offset
  from universal time, such as `2024-05-01T12:00:00.000Z`.
  A leap second is written as second 60.

  Key definitions include:
    * `Instant.render`
    * `Instant.timestamp`
    * `Timestamp.number?`
    * `Timestamp.nanos?`
    * `Timestamp.offset?`
    * `Instant.ofTimestamp?`
-/

namespace Conform

namespace Timestamp

------------------------------------------------------------
-- Writing
------------------------------------------------------------

/- A number with zeros in front up to a width. -/
def padded
    (width n : Nat) : List Char :=
  let digits := Nat.toDigits 10 n
  List.replicate (width - digits.length) '0' ++ digits

/-
  A year has four digits at least, and a sign if it lies
  outside the years that four digits can tell.
-/
def yearText
    (year : Int) : List Char :=
  if 0 ≤ year ∧ year ≤ 9999 then
    padded 4 year.toNat
  else
    (if year < 0 then '-' else '+') :: padded 4 year.natAbs

end Timestamp

namespace Instant

/-
  An instant as text, with a number of digits of its
  fraction of a second. Further digits are dropped.
-/
def render
    (places : Nat)
    (t : Instant) : String :=
  let d := t.date
  let leap := t.nano / 1000000000
  let fraction :=
    t.nano % 1000000000 / Nat.pow 10 (9 - places)
  String.ofList
    (Timestamp.yearText d.year ++
      '-' :: Timestamp.padded 2 d.month ++
      '-' :: Timestamp.padded 2 d.day ++
      'T' :: Timestamp.padded 2 (t.second / 3600) ++
      ':' :: Timestamp.padded 2 (t.second / 60 % 60) ++
      ':' :: Timestamp.padded 2 (t.second % 60 + leap) ++
      '.' :: Timestamp.padded places fraction ++
      ['Z'])

/- An instant as text with milliseconds. -/
def timestamp
    (t : Instant) : String :=
  t.render 3

end Instant

namespace Timestamp

------------------------------------------------------------
-- Reading
------------------------------------------------------------

/- The whole number that the first `n` digits spell. -/
def number?
    (n : Nat)
    (cs : List Char) : Option (Nat × List Char) :=
  let digits := cs.take n
  if digits.length = n ∧ digits.all Char.isDigit then
    some (Decimal.ofDigits digits, cs.drop n)
  else
    none

/- A given character at the front of a text. -/
def char?
    (accepted : List Char) : List Char → Option (List Char)
  | c :: rest => if accepted.contains c then some rest else none
  | [] => none

/-
  An optional fraction of a second in nanoseconds. Digits
  after the ninth are dropped.
-/
def nanos? : List Char → Option (Nat × List Char)
  | '.' :: cs =>
      let (digits, rest) := Decimal.spanDigits cs
      if digits.isEmpty then none
      else
        let kept := digits.take 9
        let missing := Nat.pow 10 (9 - kept.length)
        some (Decimal.ofDigits kept * missing, rest)
  | cs => some (0, cs)

/-
  An offset from universal time in minutes. It is `Z`, or a
  sign with hours below 24 and minutes below 60. The minus
  sign may be the hyphen or the mathematical sign.
-/
def offset?
    (cs : List Char) : Option (Int × List Char) :=
  match cs with
  | [] => none
  | c :: rest =>
      if c == 'Z' || c == 'z' then some (0, rest)
      else if c == '+' || c == '-' || c == '\u2212' then do
        let (hours, rest) ← number? 2 rest
        let rest ← char? [':'] rest
        let (minutes, rest) ← number? 2 rest
        if hours < 24 ∧ minutes < 60 then
          some (Number.signed (c != '+')
            (60 * hours + minutes), rest)
        else
          none
      else
        none

/-
  The instant of a date and a time of day. Second 60 is the
  leap second after second 59.
-/
def assemble?
    (date : Calendar.Date)
    (hour minute second nano : Nat) : Option Instant :=
  if date.IsValid ∧ hour < 24 ∧ minute < 60 ∧ second ≤ 60 then
    let clock := 3600 * hour + 60 * minute
    if second = 60 then
      Instant.ofParts? (Calendar.dayNumber date) (clock + 59)
        (1000000000 + nano)
    else
      Instant.ofParts? (Calendar.dayNumber date)
        (clock + second) nano
  else
    none

end Timestamp

namespace Instant

/-
  The instant that a timestamp denotes. The date and the
  time are separated by `T`, `t` or a blank, all fields have
  their full width, and nothing may follow the offset.
-/
def ofTimestamp?
    (text : String) : Option Instant := do
  let (year, cs) ← Timestamp.number? 4 text.toList
  let cs ← Timestamp.char? ['-'] cs
  let (month, cs) ← Timestamp.number? 2 cs
  let cs ← Timestamp.char? ['-'] cs
  let (day, cs) ← Timestamp.number? 2 cs
  let cs ← Timestamp.char? ['T', 't', ' '] cs
  let (hour, cs) ← Timestamp.number? 2 cs
  let cs ← Timestamp.char? [':'] cs
  let (minute, cs) ← Timestamp.number? 2 cs
  let cs ← Timestamp.char? [':'] cs
  let (second, cs) ← Timestamp.number? 2 cs
  let (nano, cs) ← Timestamp.nanos? cs
  let (offset, cs) ← Timestamp.offset? cs
  if cs.isEmpty then
    let t ← Timestamp.assemble? ⟨year, month, day⟩
      hour minute second nano
    some (t.minutesEarlier offset)
  else
    none

end Instant

end Conform
