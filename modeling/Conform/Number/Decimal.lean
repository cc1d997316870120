import Conform.Number

/-
  This file reads decimal text as the nearest number. The
  grammar has an optional sign, digits around an optional
  decimal point, an optional exponent, and names for the
  infinities and for what is not a number.

  Key definitions include:
    * `Decimal`
    * `Decimal.toNumber`
    * `Decimal.read?`
    * `Number.ofText?`
-/

namespace Conform

------------------------------------------------------------
-- Decimal Fractions
------------------------------------------------------------

/- The decimal fraction `digits * 10^exponent`. -/
structure Decimal where
  digits : Nat
  exponent : Int

namespace Decimal

/- The value of an ASCII digit. -/
def digitValue
    (c : Char) : Nat :=
  c.toNat - '0'.toNat

/- The whole number that a run of ASCII digits spells. -/
def ofDigits
    (cs : List Char) : Nat :=
  cs.foldl (fun n c => 10 * n + digitValue c) 0

/-
  The nearest number. A fraction whose first digit stands
  far outside the range of finite numbers is settled by its
  place alone, so that no huge power of ten is formed.
-/
def toNumber
    (negative : Bool)
    (d : Decimal) : Number :=
  let place := (Nat.toDigits 10 d.digits).length + d.exponent
  if d.digits = 0 ∨ place < -400 then
    Number.ofRatio negative 0 1
  else if place > 400 then
    .infinity negative
  else
    Number.ofRatio negative
      (d.digits * Nat.pow 10 d.exponent.toNat)
      (Nat.pow 10 (-d.exponent).toNat)

------------------------------------------------------------
-- Reading
------------------------------------------------------------

/- The digits at the front of a text, and the rest. -/
def spanDigits
    (cs : List Char) : List Char × List Char :=
  cs.span Char.isDigit

/- A sign at the front of a text, and the rest. -/
def splitSign : List Char → Bool × List Char
  | '-' :: rest => (true, rest)
  | '+' :: rest => (false, rest)
  | cs => (false, cs)

/-
  The exponent that a text consists of, zero if the text is
  empty.
-/
def readExponent? : List Char → Option Int
  | [] => some 0
  | c :: rest =>
      if c == 'e' || c == 'E' then
        let (negative, body) := splitSign rest
        match spanDigits body with
        | ([], _) => none
        | (ds, []) =>
            some (Number.signed negative (ofDigits ds))
        | (_, _ :: _) => none
      else
        none

/-
  The decimal fraction that a text without sign consists of.
  A digit must stand on one side of the point at least.
-/
def read?
    (cs : List Char) : Option Decimal :=
  let (whole, afterWhole) := spanDigits cs
  let (fraction, afterFraction) :=
    match afterWhole with
    | '.' :: rest => spanDigits rest
    | rest => ([], rest)
  if whole.isEmpty && fraction.isEmpty then none
  else
    (readExponent? afterFraction).map fun e =>
      {
        digits := ofDigits (whole ++ fraction)
        exponent := e - fraction.length
      }

end Decimal

namespace Number

/- ASCII letters in lower case, other characters as is. -/
def lowerAscii
    (cs : List Char) : List Char :=
  cs.map Char.toLower

/-
  The number that a text consists of: a decimal fraction,
  or one of the names `inf`, `infinity` and `nan` in any
  case, each with an optional sign.
-/
def ofText?
    (text : String) : Option Number :=
  let (negative, body) := Decimal.splitSign text.toList
  match String.ofList (lowerAscii body) with
  | "inf" => some (.infinity negative)
  | "infinity" => some (.infinity negative)
  | "nan" => some .nan
  | _ => (Decimal.read? body).map (Decimal.toNumber negative)

end Number

end Conform
