import Conform.Instant.Timestamp
import Conform.Text.Blank

/-
  This file reads the two written forms of a date: the
  timestamp, and the plain date such as `2024-02-29`, which
  stands for the midnight at which that day starts.

  Key definitions include:
    * `Instant.plainYear?`
    * `Instant.plainField?`
    * `Instant.ofPlainDate?`
    * `Instant.ofText?`
-/

namespace Conform

namespace Instant

/- The first and the last year that a plain date may name. -/
def firstYear : Int :=
  -262143

def lastYear : Int :=
  262142

/-
  The digits at the front of a text, no more than a given
  number of them, after any blanks.
-/
def plainField?
    (width : Nat)
    (cs : List Char) : Option (Nat × List Char) :=
  let body := Text.dropBlanks cs
  let digits := (body.takeWhile Char.isDigit).take width
  if digits.isEmpty then none
  else some (Decimal.ofDigits digits, body.drop digits.length)

/-
  A year after any blanks. Without a sign it has up to four
  digits, and with a sign any number of them.
-/
def plainYear?
    (cs : List Char) : Option (Int × List Char) :=
  match Text.dropBlanks cs with
  | [] => none
  | c :: rest =>
      if c == '-' || c == '+' then
        let (digits, rest) := Decimal.spanDigits rest
        if digits.isEmpty then none
        else
          some (Number.signed (c == '-')
            (Decimal.ofDigits digits), rest)
      else
        (plainField? 4 (c :: rest)).map fun r =>
          ((r.1 : Int), r.2)

/-
  The midnight that a plain date denotes: a year, a month
  and a day with hyphens between them and nothing after
  them. The fields need no leading zeros.
-/
def ofPlainDate?
    (text : String) : Option Instant := do
  let (year, cs) ← plainYear? text.toList
  let cs ← Timestamp.char? ['-'] cs
  let (month, cs) ← plainField? 2 cs
  let cs ← Timestamp.char? ['-'] cs
  let (day, cs) ← plainField? 2 cs
  let date : Calendar.Date := ⟨year, month, day⟩
  if cs.isEmpty ∧ firstYear ≤ year ∧ year ≤ lastYear ∧
      date.IsValid then
    some (midnight (Calendar.dayNumber date))
  else
    none

/- The instant that a text denotes in either form. -/
def ofText?
    (text : String) : Option Instant :=
  match ofTimestamp? text with
  | some t => some t
  | none => ofPlainDate? text

end Instant

end Conform
