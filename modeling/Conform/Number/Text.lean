import Conform.Number

/-
  This file writes numbers. The digits are the fewest that
  read back to the same number, and of those the nearest to
  it. They are selected by exact arithmetic on sizes, and a
  layout then places the decimal point.

  Key definitions include:
    * `Magnitude.Interval`
    * `Magnitude.interval`
    * `Magnitude.Tie`
    * `Magnitude.scale`
    * `Magnitude.shortest`
    * `Number.positional`
    * `Number.jsonText`
-/

namespace Conform

namespace Magnitude

------------------------------------------------------------
-- The Interval That Rounds to a Size
------------------------------------------------------------

/-
  The sizes that round to one size, in quarter units. The
  ends belong to the interval when the last digit is even.
-/
structure Interval where
  low : Nat
  high : Nat
  closed : Bool

/-
  Half a last place on both sides, but a quarter below a
  power of two, where the neighbour is twice as near.
-/
def interval
    (units : Nat) : Interval :=
  let place := lastPlace units
  let below :=
    if place > 1 ∧ units = Nat.pow 2 units.log2 then place
    else 2 * place
  {
    low := 4 * units - below
    high := 4 * units + 2 * place
    closed := units / place % 2 == 0
  }

/- A number `num / den` of quarter units in an interval. -/
def Interval.holds
    (i : Interval)
    (num den : Nat) : Bool :=
  if i.closed then
    decide (i.low * den ≤ num) && decide (num ≤ i.high * den)
  else
    decide (i.low * den < num) && decide (num < i.high * den)

------------------------------------------------------------
-- Decimal Grids
------------------------------------------------------------

/- The numerator and denominator of a power of ten. -/
def tenPow
    (e : Int) : Nat × Nat :=
  (Nat.pow 10 e.toNat, Nat.pow 10 (-e).toNat)

/- A size below a power of ten. -/
def belowTenPow
    (units : Nat)
    (k : Int) : Bool :=
  let p := tenPow k
  decide (units * p.2 < p.1 * one)

/-
  The least power of ten above a positive size. The binary
  logarithm gives a guess that is at most two too small.
-/
def scale
    (units : Nat) : Int :=
  let guess := ((units.log2 : Int) - 1074) * 30103 / 100000
  if belowTenPow units guess then guess
  else if belowTenPow units (guess + 1) then guess + 1
  else guess + 2

/- Which of two neighbours is taken if both are as near. -/
inductive Tie
  | upper
  | even

/-
  Whether the upper of two neighbours is taken, by the
  position of a number against the middle between them.
-/
def Tie.takesUpper
    (tie : Tie)
    (lower : Nat) : Ordering → Bool
  | .lt => false
  | .gt => true
  | .eq =>
      match tie with
      | upper => true
      | even => lower % 2 == 1

/-
  The point of a decimal grid that reads back to a size, if
  there is one. Only the two neighbours of the size can, and
  the nearer is taken.
-/
def onGrid?
    (tie : Tie)
    (units : Nat)
    (e : Int) : Option Nat :=
  let i := interval units
  let p := tenPow e
  let d := units * p.2 / (one * p.1)
  let hit (d : Nat) : Bool :=
    i.holds (4 * (d * p.1 * one)) p.2
  let upper := tie.takesUpper d
    (compare (2 * units * p.2) ((2 * d + 1) * p.1 * one))
  if hit d && !(upper && hit (d + 1)) then some d
  else if hit (d + 1) then some (d + 1)
  else none

/- Digits without zeros at the end, and their exponent. -/
def stripZeros : Nat → Nat → Int → Nat × Int
  | 0, d, e => (d, e)
  | fuel + 1, d, e =>
      if d % 10 = 0 then stripZeros fuel (d / 10) (e + 1)
      else (d, e)

/-
  The digits `d` and exponent `e` of the shortest decimal
  `d * 10^e` that reads back to a positive size. Seventeen
  digits always suffice; were they not to, the exact value
  is given.
-/
def shortest
    (tie : Tie)
    (units : Nat) : Nat × Int :=
  let k := scale units
  let tries := (List.range 17).map fun n => k - (n + 1 : Nat)
  match tries.findSome? fun e =>
      (onGrid? tie units e).map fun d => (d, e) with
  | some (d, e) => stripZeros 20 d e
  | none => (units * Nat.pow 5 1074, -1074)

end Magnitude

------------------------------------------------------------
-- Layout
------------------------------------------------------------

namespace Number

/- A run of zeros. -/
def zeros
    (n : Nat) : List Char :=
  List.replicate n '0'

/-
  Digits with the decimal point after the first `point` of
  them, filled with zeros on either side. The last argument
  is what a whole number ends with.
-/
def placePoint
    (digits : List Char)
    (point : Int)
    (whole : List Char) : List Char :=
  if point ≤ 0 then
    '0' :: '.' :: (zeros (-point).toNat ++ digits)
  else
    let n := point.toNat
    if digits.length ≤ n then
      digits ++ zeros (n - digits.length) ++ whole
    else
      digits.take n ++ '.' :: digits.drop n

/- The minus sign of a negative number. -/
def signText
    (negative : Bool) : List Char :=
  if negative then ['-'] else []

/-
  A number in positional notation. There is never an
  exponent, and whole numbers have no decimal point. Of two
  equally near decimals the greater size is written.
-/
def positional : Number → String
  | nan => "NaN"
  | infinity negative =>
      String.ofList (signText negative ++ "inf".toList)
  | finite negative size =>
      if size.units = 0 then
        String.ofList (signText negative ++ ['0'])
      else
        let (d, e) := Magnitude.shortest .upper size.units
        let digits := Nat.toDigits 10 d
        String.ofList (signText negative ++
          placePoint digits (digits.length + e) [])

/- A one-digit mantissa, its fraction and its exponent. -/
def scientific
    (digits : List Char)
    (exponent : Int) : List Char :=
  let fraction :=
    match digits.drop 1 with
    | [] => []
    | rest => '.' :: rest
  let sign := if exponent < 0 then '-' else '+'
  digits.take 1 ++ fraction ++
    'e' :: sign :: Nat.toDigits 10 exponent.natAbs

/-
  A number as JSON text. It is positional from `10^-5` up to
  `10^16`, where whole numbers keep one zero behind the
  point, and scientific elsewhere. Of two equally near
  decimals the one with the even digit is written. JSON has
  no text for infinities and for what is not a number.
-/
def jsonText : Number → String
  | nan => "null"
  | infinity _ => "null"
  | finite negative size =>
      if size.units = 0 then
        String.ofList (signText negative ++ "0.0".toList)
      else
        let (d, e) := Magnitude.shortest .even size.units
        let digits := Nat.toDigits 10 d
        let point : Int := digits.length + e
        let body :=
          if -5 < point ∧ point ≤ 16 then
            placePoint digits point ['.', '0']
          else
            scientific digits (point - 1)
        String.ofList (signText negative ++ body)

end Number

end Conform
