import Conform.Number
import Mathlib.Tactic.ByContra

/-
  Rounding to binary64. Every finite number is a whole
  number of units of `2^-1074`, and so is every integer, so
  that numbers can be compared with integers exactly. An
  integer is rounded to a number that no other finite number
  is nearer to, and an integer of 64 bits to a finite one.

  Main declarations:
    * `Magnitude.roundUnits_nearest`
    * `Magnitude.representable_roundUnits`
    * `Number.units?`
    * `Number.Nearest`
    * `Number.nearest_ofInt`
    * `Number.exists_units_ofInt`
-/

namespace Conform

namespace Magnitude

------------------------------------------------------------
-- Last Places
------------------------------------------------------------

theorem lastPlace_pos
    (n : Nat) :
    0 < lastPlace n :=
  Nat.two_pow_pos (n.log2 - 52)

theorem one_pos : 0 < one := by
  unfold one
  generalize onePlace = place
  exact Nat.two_pow_pos place

theorem log2_lt_of_lt_two_pow
    {n place : Nat}
    (hPlace : 0 < place)
    (h : n < Nat.pow 2 place) :
    n.log2 < place := by
  by_cases hZero : n = 0
  · rw [hZero]
    exact hPlace
  · exact (Nat.log2_lt hZero).mpr h

/- A last place divides every power of two from it on. -/
theorem lastPlace_dvd_two_pow
    {n k : Nat}
    (h : n.log2 - 52 ≤ k) :
    lastPlace n ∣ Nat.pow 2 k :=
  Nat.pow_dvd_pow 2 h

theorem lastPlace_dvd_one
    {n : Nat}
    (h : n.log2 - 52 ≤ onePlace) :
    lastPlace n ∣ one := by
  unfold one
  generalize onePlace = place at h ⊢
  exact lastPlace_dvd_two_pow h

------------------------------------------------------------
-- Division
------------------------------------------------------------

/-
  A quotient is rounded down if the remainder is at most a
  half, and up if it is at least a half.
-/
theorem divideToEven_mul
    (n d : Nat) :
    (divideToEven n d * d = n / d * d ∧ 2 * (n % d) ≤ d) ∨
      (divideToEven n d * d = n / d * d + d ∧
        d ≤ 2 * (n % d)) := by
  have hUp : (n / d + 1) * d = n / d * d + d :=
    Nat.succ_mul (n / d) d
  unfold divideToEven
  simp only
  split
  · exact Or.inl ⟨rfl, by omega⟩
  · split
    · exact Or.inr ⟨hUp, by omega⟩
    · split
      · exact Or.inl ⟨rfl, by omega⟩
      · exact Or.inr ⟨hUp, by omega⟩

/- No multiple is nearer than the one that is chosen. -/
theorem divideToEven_nearest
    {n d m : Nat}
    (hPos : 0 < d)
    (hMultiple : d ∣ m) :
    ((n : Int) - (divideToEven n d * d : Nat)).natAbs ≤
      ((n : Int) - m).natAbs := by
  rcases hMultiple with ⟨k, rfl⟩
  have hSplit : n / d * d + n % d = n := Nat.div_add_mod' n d
  have hRest : n % d < d := Nat.mod_lt n hPos
  have hSide : d * k ≤ n / d * d ∨ n / d * d + d ≤ d * k := by
    rcases Nat.lt_or_ge (n / d) k with hAbove | hBelow
    · apply Or.inr
      rw [← Nat.succ_mul, Nat.mul_comm d k]
      exact Nat.mul_le_mul_right d hAbove
    · apply Or.inl
      rw [Nat.mul_comm d k]
      exact Nat.mul_le_mul_right d hBelow
  rcases divideToEven_mul n d with
    ⟨hChosen, hHalf⟩ | ⟨hChosen, hHalf⟩ <;>
    rw [hChosen] <;> omega

------------------------------------------------------------
-- Rounding Whole Numbers of Units
------------------------------------------------------------

theorem roundUnits_one
    (n : Nat) :
    roundUnits n 1 =
      divideToEven n (lastPlace n) * lastPlace n := by
  unfold roundUnits
  simp only [Nat.div_one, Nat.one_mul]

/-
  No size is nearer to a whole number of units than the one
  that it is rounded to. A size below the leading power of
  two of the number lies further away than this power, and
  any other size is a multiple of the last place.
-/
theorem roundUnits_nearest
    {n m : Nat}
    (hSize : lastPlace m ∣ m) :
    ((n : Int) - roundUnits n 1).natAbs ≤
      ((n : Int) - m).natAbs := by
  rw [roundUnits_one]
  rcases Nat.lt_or_ge m.log2 n.log2 with hBelow | hAbove
  · have hNonzero : n ≠ 0 := by
      rintro rfl
      simp at hBelow
    have hLeading : Nat.pow 2 n.log2 ≤ n :=
      Nat.log2_self_le hNonzero
    have hSmall : m < Nat.pow 2 (m.log2 + 1) :=
      Nat.lt_log2_self
    have hStep : Nat.pow 2 (m.log2 + 1) ≤ Nat.pow 2 n.log2 :=
      Nat.pow_le_pow_right (by decide) hBelow
    -- The leading power is itself a multiple of the place,
    -- and it lies between the other size and the number.
    have hNearest := divideToEven_nearest (n := n)
      (lastPlace_pos n)
      (lastPlace_dvd_two_pow (n := n) (Nat.sub_le n.log2 52))
    omega
  · have hPlace : lastPlace n ∣ lastPlace m :=
      Nat.pow_dvd_pow 2 (Nat.sub_le_sub_right hAbove 52)
    exact divideToEven_nearest (lastPlace_pos n)
      (Nat.dvd_trans hPlace hSize)

/- Rounding does not go beyond the next power of two. -/
theorem roundUnits_le
    (n : Nat) :
    roundUnits n 1 ≤ Nat.pow 2 (n.log2 + 1) := by
  have hBelow : n < Nat.pow 2 (n.log2 + 1) := Nat.lt_log2_self
  rcases lastPlace_dvd_two_pow (n := n) (k := n.log2 + 1)
      (by omega) with ⟨k, hk⟩
  have hQuotient : n / lastPlace n < k := by
    rw [Nat.div_lt_iff_lt_mul (lastPlace_pos n), Nat.mul_comm,
      ← hk]
    exact hBelow
  have hNext : (n / lastPlace n + 1) * lastPlace n ≤
      Nat.pow 2 (n.log2 + 1) := by
    rw [hk, Nat.mul_comm (lastPlace n) k]
    exact Nat.mul_le_mul_right (lastPlace n) hQuotient
  rw [Nat.succ_mul] at hNext
  rw [roundUnits_one]
  rcases divideToEven_mul n (lastPlace n) with
    ⟨hChosen, _⟩ | ⟨hChosen, _⟩ <;>
    rw [hChosen] <;> omega

/- What rounding gives has nothing below its last place. -/
theorem lastPlace_dvd_roundUnits
    (n : Nat) :
    lastPlace (roundUnits n 1) ∣ roundUnits n 1 := by
  rcases Nat.lt_or_eq_of_le (roundUnits_le n) with
    hBelow | hPower
  · have hLog : (roundUnits n 1).log2 ≤ n.log2 :=
      Nat.le_of_lt_succ
        (log2_lt_of_lt_two_pow (Nat.succ_pos _) hBelow)
    have hPlace :
        lastPlace (roundUnits n 1) ∣ lastPlace n :=
      Nat.pow_dvd_pow 2 (Nat.sub_le_sub_right hLog 52)
    refine Nat.dvd_trans hPlace ?_
    rw [roundUnits_one]
    exact Nat.dvd_mul_left _ _
  · rw [hPower]
    apply lastPlace_dvd_two_pow
    have hLog : (Nat.pow 2 (n.log2 + 1)).log2 = n.log2 + 1 :=
      Nat.log2_two_pow
    omega

/- A size below half the limit stays below it. -/
theorem representable_roundUnits
    {n : Nat}
    (h : 2 * n < limit) :
    Representable (roundUnits n 1) := by
  refine ⟨lastPlace_dvd_roundUnits n, ?_⟩
  have hNearest :=
    roundUnits_nearest (n := n) (Nat.dvd_zero (lastPlace 0))
  omega

/- A whole number of 53 binary digits needs no rounding. -/
theorem representable_mul_one
    {n : Nat}
    (h : n < Nat.pow 2 53) :
    Representable (n * one) := by
  have hBelow : n * one < Nat.pow 2 (53 + onePlace) := by
    unfold one
    generalize onePlace = place
    apply Nat.lt_of_lt_of_eq
      (Nat.mul_lt_mul_of_pos_right h (Nat.two_pow_pos place))
    exact (Nat.pow_add 2 53 place).symm
  have hPlaces : 53 + onePlace ≤ limitPlace := by decide
  have hLimit : Nat.pow 2 (53 + onePlace) ≤ limit := by
    unfold limit
    generalize 53 + onePlace = place at hPlaces ⊢
    generalize limitPlace = last at hPlaces ⊢
    exact Nat.pow_le_pow_right (by decide) hPlaces
  have hLog : (n * one).log2 < 53 + onePlace :=
    log2_lt_of_lt_two_pow (Nat.lt_add_right _ (by decide))
      hBelow
  have hPlace : (n * one).log2 - 52 ≤ onePlace := by omega
  exact ⟨Nat.dvd_trans (lastPlace_dvd_one hPlace)
      (Nat.dvd_mul_left one n),
    Nat.lt_of_lt_of_le hBelow hLimit⟩

/- A whole number of 64 binary digits is far below the limit. -/
theorem two_mul_lt_limit
    {n : Nat}
    (h : n ≤ Nat.pow 2 64) :
    2 * (n * one) < limit := by
  have hLargest : 2 * (Nat.pow 2 64 * one) < limit := by
    decide +kernel
  have hProduct : n * one ≤ Nat.pow 2 64 * one :=
    Nat.mul_le_mul_right one h
  omega

/- A size that is found is the rounded one. -/
theorem units_of_ofRatio?
    {n d : Nat}
    {size : Magnitude}
    (h : ofRatio? n d = some size) :
    size.units = roundUnits (n * one) d := by
  unfold ofRatio? at h
  -- The units become a variable, so that nothing below has
  -- to be worked out with more than a thousand digits.
  generalize n * one = units at h ⊢
  unfold ofUnits? at h
  by_cases hSize : Representable (roundUnits units d)
  · rw [dif_pos hSize] at h
    rw [← Option.some.inj h]
  · rw [dif_neg hSize] at h
    cases h

/- A size is found for what rounds to a representable one. -/
theorem ofRatio?_of_representable
    {n d : Nat}
    (h : Representable (roundUnits (n * one) d)) :
    ∃ size, ofRatio? n d = some size := by
  unfold ofRatio?
  generalize n * one = units at h ⊢
  unfold ofUnits?
  rw [dif_pos h]
  exact ⟨_, rfl⟩

end Magnitude

namespace Number

------------------------------------------------------------
-- Units
------------------------------------------------------------

/- The exact value of a finite number, in units of `2^-1074`. -/
def units? : Number → Option Int
  | nan => none
  | infinity _ => none
  | finite negative size => some (signed negative size.units)

/-
  A finite number that no other is nearer to a given number
  of units.
-/
def Nearest
    (x : Number)
    (u : Int) : Prop :=
  ∃ w, x.units? = some w ∧
    ∀ y n, units? y = some n →
      (u - w).natAbs ≤ (u - n).natAbs

/- A number of units that a finite number has exactly. -/
def IsDouble
    (u : Int) : Prop :=
  ∃ x, units? x = some u

theorem nearest_of_units
    {x : Number}
    {u : Int}
    (h : x.units? = some u) :
    x.Nearest u := by
  refine ⟨u, h, fun _ n _ => ?_⟩
  rw [Int.sub_self]
  exact Nat.zero_le _

/- The number nearest to what is exact in binary64 is it. -/
theorem Nearest.units_of_isDouble
    {x : Number}
    {u : Int}
    (h : x.Nearest u)
    (hDouble : IsDouble u) :
    x.units? = some u := by
  rcases h with ⟨w, hUnits, hNearest⟩
  rcases hDouble with ⟨y, hy⟩
  have hDistance := hNearest y u hy
  have hSame : w = u := by omega
  rw [hUnits, hSame]

/- Numbers of the same units are nearest to the same values. -/
theorem Nearest.of_units_eq
    {x y : Number}
    {u : Int}
    (h : x.Nearest u)
    (hUnits : y.units? = x.units?) :
    y.Nearest u := by
  unfold Nearest at h ⊢
  rw [hUnits]
  exact h

/- A number that is equal to a finite one has its units. -/
theorem units_of_equal
    {x y : Number}
    {u : Int}
    (h : x.equal y = true)
    (hUnits : x.units? = some u) :
    y.units? = some u := by
  cases x with
  | nan => cases hUnits
  | infinity negative => cases hUnits
  | finite negative size =>
      have hBelow := size.representable.2
      rw [← hUnits]
      unfold equal orderKey? at h
      generalize Magnitude.limit = limit at h hBelow
      cases y with
      | nan => cases h
      | infinity other =>
          have hKey := eq_of_beq h
          unfold signed at hKey
          cases negative <;> cases other <;>
            simp only [if_true, if_false, Bool.false_eq_true]
              at hKey <;>
            omega
      | finite other place =>
          exact congrArg some (eq_of_beq h).symm

------------------------------------------------------------
-- Rounding Integers
------------------------------------------------------------

/- The exact value of an integer, in units of `2^-1074`. -/
def unitsOfInt
    (i : Int) : Int :=
  i * Magnitude.one

theorem natAbs_unitsOfInt
    (i : Int) :
    (unitsOfInt i).natAbs = i.natAbs * Magnitude.one := by
  unfold unitsOfInt
  rw [Int.natAbs_mul, Int.natAbs_natCast]

/- Units have the sign of the integer. -/
theorem unitsOfInt_neg_iff
    (i : Int) :
    unitsOfInt i < 0 ↔ i < 0 := by
  have hOne : (0 : Int) < Magnitude.one :=
    Int.natCast_pos.mpr Magnitude.one_pos
  unfold unitsOfInt
  generalize (Magnitude.one : Int) = k at hOne ⊢
  constructor
  · intro hProduct
    by_contra hNot
    have hNonneg := Int.mul_nonneg (Int.not_lt.mp hNot)
      (Int.le_of_lt hOne)
    omega
  · intro hNegative
    exact Int.mul_neg_of_neg_of_pos hNegative hOne

theorem signed_natAbs_unitsOfInt
    (i : Int) :
    signed (decide (i < 0)) (unitsOfInt i).natAbs =
      unitsOfInt i := by
  have hSign := unitsOfInt_neg_iff i
  generalize unitsOfInt i = u at hSign ⊢
  unfold signed
  by_cases hNegative : i < 0
  · have hBelow := hSign.mpr hNegative
    simp only [hNegative, decide_true, if_true]
    omega
  · have hAbove := mt hSign.mp hNegative
    simp only [hNegative, decide_false, Bool.false_eq_true,
      if_false]
    omega

/-
  The equation of rounding is proved between functions. At
  an argument, the checker would compare the two sides by
  working out the size first, digit by digit.
-/
theorem ofRatio_def :
    ofRatio = fun negative n d =>
      match Magnitude.ofRatio? n d with
      | some size => finite negative size
      | none => infinity negative :=
  (rfl)

theorem ofRatio_eq_elim
    (negative : Bool)
    (n d : Nat) :
    ofRatio negative n d =
      (Magnitude.ofRatio? n d).elim (infinity negative)
        (finite negative) := by
  rw [ofRatio_def]
  dsimp only
  generalize Magnitude.ofRatio? n d = found
  cases found with
  | none => rfl
  | some size => rfl

/- A fraction that stays finite is rounded in its units. -/
theorem eq_of_ofRatio_eq_finite
    {sign negative : Bool}
    {n d : Nat}
    {size : Magnitude}
    (h : ofRatio sign n d = finite negative size) :
    negative = sign ∧
      size.units =
        Magnitude.roundUnits (n * Magnitude.one) d := by
  rw [ofRatio_eq_elim] at h
  cases hFound : Magnitude.ofRatio? n d with
  | none =>
      rw [hFound] at h
      cases h
  | some found =>
      rw [hFound] at h
      injection h with hSign hSize
      rw [← hSize]
      exact ⟨hSign.symm, Magnitude.units_of_ofRatio? hFound⟩

/- Rounding an integer is rounding its units. -/
theorem eq_of_ofInt_eq_finite
    {i : Int}
    {negative : Bool}
    {size : Magnitude}
    (h : ofInt i = finite negative size) :
    negative = decide (i < 0) ∧
      size.units =
        Magnitude.roundUnits (unitsOfInt i).natAbs 1 := by
  unfold ofInt at h
  rw [natAbs_unitsOfInt]
  exact eq_of_ofRatio_eq_finite h

/- An integer is rounded to a nearest number. -/
theorem nearest_ofInt
    {i w : Int}
    (h : (ofInt i).units? = some w) :
    (ofInt i).Nearest (unitsOfInt i) := by
  refine ⟨w, h, fun y n hy => ?_⟩
  generalize hRounded : ofInt i = x at h
  cases x with
  | nan => cases h
  | infinity negative => cases h
  | finite negative size =>
      rcases eq_of_ofInt_eq_finite hRounded with
        ⟨hSign, hUnits⟩
      have hw : signed negative size.units = w :=
        Option.some.inj h
      cases y with
      | nan => cases hy
      | infinity other => cases hy
      | finite other place =>
          have hn : signed other place.units = n :=
            Option.some.inj hy
          have hNearest := Magnitude.roundUnits_nearest
            (n := (unitsOfInt i).natAbs)
            place.representable.1
          have hExact := signed_natAbs_unitsOfInt i
          rw [← hSign] at hExact
          rw [← hw, ← hn, hUnits]
          unfold signed at hExact ⊢
          cases negative <;> cases other <;>
            simp only [if_true, if_false, Bool.false_eq_true]
              at hExact ⊢ <;>
            omega

/- An integer whose double lies below the limit stays finite. -/
theorem exists_units_ofInt
    {i : Int}
    (h : 2 * (i.natAbs * Magnitude.one) < Magnitude.limit) :
    ∃ w, (ofInt i).units? = some w := by
  rcases Magnitude.ofRatio?_of_representable
      (Magnitude.representable_roundUnits h) with
    ⟨size, hFound⟩
  refine ⟨signed (decide (i < 0)) size.units, ?_⟩
  unfold ofInt
  rw [ofRatio_eq_elim, hFound]
  rfl

/- Integers below `2^53` in size are exact in binary64. -/
theorem isDouble_unitsOfInt
    {i : Int}
    (h : i.natAbs < Nat.pow 2 53) :
    IsDouble (unitsOfInt i) := by
  have hSize := Magnitude.representable_mul_one h
  rw [← natAbs_unitsOfInt] at hSize
  refine ⟨finite (decide (i < 0)) ⟨_, hSize⟩, ?_⟩
  exact congrArg some (signed_natAbs_unitsOfInt i)

theorem unitsOfInt_inj
    {i k : Int}
    (h : unitsOfInt i = unitsOfInt k) :
    i = k := by
  have hOne := Int.natCast_pos.mpr Magnitude.one_pos
  unfold unitsOfInt at h
  exact Int.eq_of_mul_eq_mul_right (Int.ne_of_gt hOne) h

end Number

end Conform
