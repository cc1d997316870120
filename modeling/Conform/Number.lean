import Conform.Number.Magnitude

/-
  This file defines binary64 numbers and the operations that
  validation needs of them: exact comparison, the test for
  whole numbers, and rounding from exact fractions.

  Key definitions include:
    * `Number`
    * `Number.equal`
    * `Number.lt`
    * `Number.ofRatio`
    * `Number.ofInt`
    * `Number.isWhole`
    * `Number.exactInt?`
-/

namespace Conform

/-
  A binary64 number. Zero has two signs, and there is one
  value that is not a number.
-/
inductive Number
  | nan
  | infinity (negative : Bool)
  | finite (negative : Bool) (size : Magnitude)

namespace Number

instance : Inhabited Number :=
  ⟨.nan⟩

------------------------------------------------------------
-- Signed Units and Comparison
------------------------------------------------------------

/- An integer with a given sign and size. -/
def signed
    (negative : Bool)
    (n : Nat) : Int :=
  if negative then -(n : Int) else n

/-
  A key that orders the numbers. An infinity lies beyond the
  limit that every finite size stays below, and the value
  that is not a number has no key.
-/
def orderKey? : Number → Option Int
  | nan => none
  | infinity negative => some (signed negative Magnitude.limit)
  | finite negative size => some (signed negative size.units)

/-
  Numeric equality. Both zeros are equal, and the value that
  is not a number differs from everything, itself included.
-/
def equal
    (a b : Number) : Bool :=
  match a.orderKey?, b.orderKey? with
  | some x, some y => x == y
  | _, _ => false

instance : BEq Number :=
  ⟨equal⟩

/- Numeric order, false when a side is not a number. -/
def lt
    (a b : Number) : Bool :=
  match a.orderKey?, b.orderKey? with
  | some x, some y => decide (x < y)
  | _, _ => false

/- The value that is not a number. -/
def isNaN : Number → Bool
  | nan => true
  | infinity _ => false
  | finite _ _ => false

------------------------------------------------------------
-- Rounding From Exact Fractions
------------------------------------------------------------

/-
  The number nearest to `n / d` with the given sign, and the
  infinity of that sign when the fraction is too large.
-/
def ofRatio
    (negative : Bool)
    (n d : Nat) : Number :=
  match Magnitude.ofRatio? n d with
  | some size => finite negative size
  | none => infinity negative

/- The number nearest to an integer. -/
def ofInt
    (i : Int) : Number :=
  ofRatio (decide (i < 0)) i.natAbs 1

instance
    (n : Nat) :
    OfNat Number n :=
  ⟨ofInt n⟩

------------------------------------------------------------
-- Whole Numbers
------------------------------------------------------------

/- A finite number without a fractional part. -/
def isWhole : Number → Bool
  | nan => false
  | infinity _ => false
  | finite _ size => decide size.IsWhole

/-
  The integer that a whole number below `2^53` in size
  stands for. No two neighbours share such an integer, so
  nothing is lost.
-/
def exactInt? : Number → Option Int
  | nan => none
  | infinity _ => none
  | finite negative size =>
      if size.IsWhole ∧
          size.units < Nat.pow 2 53 * Magnitude.one then
        some (signed negative (size.units / Magnitude.one))
      else
        none

end Number

end Conform
