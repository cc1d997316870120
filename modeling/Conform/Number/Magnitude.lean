/-
  This file defines the size of a finite binary64 number.
  Every such number is a whole number of units of `2^-1074`
  with at most 53 significant binary digits, so a size is
  kept as that whole number.

  Key definitions include:
    * `Magnitude.one`
    * `Magnitude.lastPlace`
    * `Magnitude.Representable`
    * `Magnitude`
    * `Magnitude.divideToEven`
    * `Magnitude.roundUnits`
    * `Magnitude.ofRatio?`
-/

namespace Conform

namespace Magnitude

------------------------------------------------------------
-- Representable Sizes
------------------------------------------------------------

/- The binary logarithm of the number of units in one. -/
def onePlace : Nat :=
  1074

/- The number of units in the number one. -/
def one : Nat :=
  Nat.pow 2 onePlace

/- The binary logarithm of the first size too large. -/
def limitPlace : Nat :=
  2098

/- The first power of two that is too large. -/
def limit : Nat :=
  Nat.pow 2 limitPlace

/-
  The weight of the last of the 53 significant binary digits
  of a size, which is at least one unit.
-/
def lastPlace
    (units : Nat) : Nat :=
  Nat.pow 2 (units.log2 - 52)

/- A size below the limit with nothing below its last place. -/
def Representable
    (units : Nat) : Prop :=
  lastPlace units ∣ units ∧ units < limit

instance
    (units : Nat) :
    Decidable (Representable units) := by
  unfold Representable
  infer_instance

end Magnitude

/- The size of a finite binary64 number. -/
structure Magnitude where
  units : Nat
  representable : Magnitude.Representable units
deriving DecidableEq

namespace Magnitude

theorem limit_pos : 0 < limit := by
  unfold limit
  generalize limitPlace = place
  exact Nat.two_pow_pos place

theorem representable_zero : Representable 0 :=
  ⟨Nat.dvd_zero _, limit_pos⟩

instance : Inhabited Magnitude :=
  ⟨⟨0, representable_zero⟩⟩

------------------------------------------------------------
-- Rounding
------------------------------------------------------------

/- The nearest whole quotient; a half goes to the even one. -/
def divideToEven
    (n d : Nat) : Nat :=
  let q := n / d
  let r := n % d
  if 2 * r < d then q
  else if d < 2 * r then q + 1
  else if q % 2 = 0 then q
  else q + 1

/-
  The size nearest to `n / d` units. The quotient is rounded
  at its own last place, and a half goes to the size whose
  last digit is even.
-/
def roundUnits
    (n d : Nat) : Nat :=
  let place := lastPlace (n / d)
  divideToEven n (d * place) * place

/- The size nearest to `n / d` units, if it is not too large. -/
def ofUnits?
    (n d : Nat) : Option Magnitude :=
  if h : Representable (roundUnits n d) then
    some ⟨roundUnits n d, h⟩
  else
    none

/- The size nearest to the fraction `n / d`. -/
def ofRatio?
    (n d : Nat) : Option Magnitude :=
  ofUnits? (n * one) d

/- A size that is a whole number. -/
def IsWhole
    (m : Magnitude) : Prop :=
  one ∣ m.units

instance
    (m : Magnitude) :
    Decidable m.IsWhole := by
  unfold IsWhole
  infer_instance

end Magnitude

end Conform
