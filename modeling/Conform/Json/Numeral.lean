import Conform.Json
import Conform.Number.Decimal

/-
  This file reads JSON numerals. A numeral without fraction
  and exponent that fits 64 bits is an integer. Any other is
  read as a fraction in rounded steps: as many leading
  digits as fit 64 bits are rounded to a number, which is
  then scaled by a rounded power of ten.

  Key definitions include:
    * `Numeral`
    * `Numeral.absorb`
    * `Numeral.scale?`
    * `Numeral.toJson?`
    * `Numeral.scan?`
-/

namespace Conform

------------------------------------------------------------
-- Rounded Scaling
------------------------------------------------------------

namespace Magnitude

/- The size nearest to a product. -/
def times?
    (a b : Magnitude) : Option Magnitude :=
  ofUnits? (a.units * b.units) one

/- The size nearest to a quotient. -/
def over?
    (a b : Magnitude) : Option Magnitude :=
  ofUnits? (a.units * one) b.units

end Magnitude

/-
  A numeral with its sign, the digits before and after the
  decimal point, and its exponent. `isFloat` says that a
  point or an exponent was written.
-/
structure Numeral where
  negative : Bool
  whole : List Char
  fraction : List Char
  exponent : Int
  isFloat : Bool

namespace Numeral

/- The first whole number that does not fit 64 bits. -/
def wordLimit : Nat :=
  Nat.pow 2 64

/-
  Appends digits to a whole number for as long as it fits
  64 bits. The digits left over are returned as well.
-/
def absorb
    (n : Nat) : List Char → Nat × List Char
  | [] => (n, [])
  | c :: rest =>
      let next := 10 * n + Decimal.digitValue c
      if next < wordLimit then absorb next rest
      else (n, c :: rest)

/-
  A size times a power of ten, rounded once for exponents up
  to 308. A smaller exponent is reached by divisions by
  `10^308`, of which a few leave nothing. There is no result
  when a size or an exponent is too large.
-/
def scale? : Nat → Magnitude → Int → Option Magnitude
  | 0, m, _ => some m
  | steps + 1, m, e =>
      if m.units = 0 then some m
      else if e.natAbs ≤ 308 then do
        let power ← Magnitude.ofRatio? (Nat.pow 10 e.natAbs) 1
        if 0 ≤ e then m.times? power else m.over? power
      else if 0 ≤ e then none
      else do
        let power ← Magnitude.ofRatio? (Nat.pow 10 308) 1
        let m ← m.over? power
        scale? steps m (e + 308)

/- The fraction that a numeral denotes. -/
def toNumber?
    (n : Numeral) : Option Number := do
  let (leading, leftWhole) := absorb 0 n.whole
  let (significand, leftFraction) := absorb leading n.fraction
  let exponent : Int :=
    n.exponent + leftWhole.length
      - (n.fraction.length - leftFraction.length : Nat)
  let size ← Magnitude.ofRatio? significand 1
  let size ← scale? 5 size exponent
  some (.finite n.negative size)

/-
  The JSON data that a numeral denotes. A negative zero is
  a fraction, since integers have one zero only.
-/
def toJson?
    (n : Numeral) : Option Json :=
  let i := Decimal.ofDigits n.whole
  if n.isFloat then n.toNumber?.map Json.float
  else if n.negative then
    if 0 < i ∧ i ≤ wordLimit / 2 then some (.int (-i))
    else n.toNumber?.map Json.float
  else if i < wordLimit then some (.int i)
  else n.toNumber?.map Json.float

------------------------------------------------------------
-- Scanning
------------------------------------------------------------

/-
  The digits before the point. Further digits may not follow
  a zero at the front.
-/
def scanWhole?
    (cs : List Char) : Option (List Char × List Char) :=
  match Decimal.spanDigits cs with
  | ([], _) => none
  | ('0' :: _ :: _, _) => none
  | (digits, rest) => some (digits, rest)

/- The digits after the point, where a point is written. -/
def scanFraction?
    (cs : List Char) :
    Option (Option (List Char) × List Char) :=
  match cs with
  | '.' :: rest =>
      match Decimal.spanDigits rest with
      | ([], _) => none
      | (digits, rest) => some (some digits, rest)
  | rest => some (none, rest)

/- The exponent, where one is written. -/
def scanExponent?
    (cs : List Char) : Option (Option Int × List Char) :=
  match cs with
  | [] => some (none, [])
  | c :: rest =>
      if c == 'e' || c == 'E' then
        let (negative, body) := Decimal.splitSign rest
        match Decimal.spanDigits body with
        | ([], _) => none
        | (digits, rest) =>
            some (some (Number.signed negative
              (Decimal.ofDigits digits)), rest)
      else
        some (none, c :: rest)

/- The numeral at the front of a text, and the rest. -/
def scan?
    (cs : List Char) : Option (Numeral × List Char) := do
  let (negative, cs) :=
    match cs with
    | '-' :: rest => (true, rest)
    | rest => (false, rest)
  let (whole, cs) ← scanWhole? cs
  let (fraction, cs) ← scanFraction? cs
  let (exponent, cs) ← scanExponent? cs
  let numeral : Numeral :=
    {
      negative := negative
      whole := whole
      fraction := fraction.getD []
      exponent := exponent.getD 0
      isFloat := fraction.isSome || exponent.isSome
    }
  some (numeral, cs)

end Numeral

end Conform
