import Conform.Proofs.Value.Fidelity
import Conform.Proofs.Value.Induction
import Conform.Value.Printer

/-
  Values written as JSON data and read back. A value comes
  back as one equal to it exactly if it holds nothing but
  what JSON data has: no undefined value, no instant, and no
  number that is not finite. What is read back is written in
  the same way again, whatever the value was. A number keeps
  its exact value, whether it is written as an integer or as
  a fraction.

  Main declarations:
    * `Value.Plain`
    * `Number.exactInt?_eq_some_iff`
    * `Number.units?_toJson`
    * `Value.round_trip`
-/

namespace Conform

------------------------------------------------------------
-- Exact Integers
------------------------------------------------------------

namespace Number

/- The sign can be taken out of a product. -/
theorem signed_mul
    (negative : Bool)
    (n k : Nat) :
    signed negative (n * k) = signed negative n * k := by
  unfold signed
  cases negative with
  | false =>
      simp only [Bool.false_eq_true, if_false]
      exact Int.natCast_mul n k
  | true =>
      simp only [if_true]
      rw [Int.neg_mul, Int.natCast_mul]

theorem natAbs_signed
    (negative : Bool)
    (n : Nat) :
    (signed negative n).natAbs = n := by
  unfold signed
  cases negative with
  | false => exact Int.natAbs_natCast n
  | true =>
      simp only [if_true]
      rw [Int.natAbs_neg, Int.natAbs_natCast]

/-
  The exact integer of a number is its value. The number of
  units in one becomes a variable as soon as possible, so
  that nothing is worked out digit by digit.
-/
theorem units?_of_exactInt?
    {x : Number}
    {i : Int}
    (h : x.exactInt? = some i) :
    x.units? = some (unitsOfInt i) ∧
      i.natAbs < Nat.pow 2 53 := by
  cases x with
  | nan => cases h
  | infinity negative => cases h
  | finite negative size =>
      have hOne := Magnitude.one_pos
      rw [exactInt?] at h
      by_cases hExact : size.IsWhole ∧
          size.units < Nat.pow 2 53 * Magnitude.one
      · rw [if_pos hExact] at h
        rcases hExact with ⟨⟨k, hUnits⟩, hBound⟩
        rw [hUnits] at h hBound
        rw [units?, unitsOfInt, hUnits]
        generalize Magnitude.one = one at h hOne hBound ⊢
        rw [Nat.mul_div_cancel_left k hOne] at h
        cases h
        rw [Nat.mul_comm one k] at hBound ⊢
        rw [signed_mul, natAbs_signed]
        exact ⟨rfl, Nat.lt_of_mul_lt_mul_right hBound⟩
      · rw [if_neg hExact] at h
        cases h

/- A number with the value of a small integer has it exactly. -/
theorem exactInt?_of_units?
    {x : Number}
    {i : Int}
    (hUnits : x.units? = some (unitsOfInt i))
    (hSmall : i.natAbs < Nat.pow 2 53) :
    x.exactInt? = some i := by
  cases x with
  | nan => cases hUnits
  | infinity negative => cases hUnits
  | finite negative size =>
      have hOne := Magnitude.one_pos
      have hValue : signed negative size.units = unitsOfInt i :=
        Option.some.inj hUnits
      have hSize : size.units = i.natAbs * Magnitude.one := by
        rw [← natAbs_signed negative size.units, hValue,
          natAbs_unitsOfInt]
      have hSigned : signed negative i.natAbs = i := by
        apply unitsOfInt_inj
        rw [← hValue, hSize, signed_mul]
        rfl
      have hExact : size.IsWhole ∧
          size.units < Nat.pow 2 53 * Magnitude.one := by
        unfold Magnitude.IsWhole
        rw [hSize]
        exact ⟨Nat.dvd_mul_left _ _,
          Nat.mul_lt_mul_of_pos_right hSmall hOne⟩
      rw [exactInt?, if_pos hExact, hSize, Nat.mul_div_cancel _ hOne,
        hSigned]

/-
  A number has an exact integer if its value is that of an
  integer below `2^53` in size, and only then.
-/
theorem exactInt?_eq_some_iff
    {x : Number}
    {i : Int} :
    x.exactInt? = some i ↔
      x.units? = some (unitsOfInt i) ∧
        i.natAbs < Nat.pow 2 53 :=
  ⟨units?_of_exactInt?, fun h => exactInt?_of_units? h.1 h.2⟩

/- An integer below `2^53` in size keeps its value. -/
theorem units?_ofInt_of_small
    {i : Int}
    (h : i.natAbs < Nat.pow 2 53) :
    (ofInt i).units? = some (unitsOfInt i) := by
  have hWhole : i.natAbs ≤ Nat.pow 2 64 := by
    apply Nat.le_of_lt
    exact Nat.lt_of_lt_of_le h
      (Nat.pow_le_pow_right (by decide) (by decide))
  rcases exists_units_ofInt
      (Magnitude.two_mul_lt_limit hWhole) with
    ⟨w, hUnits⟩
  exact (nearest_ofInt hUnits).units_of_isDouble
    (isDouble_unitsOfInt h)

/- Numbers of the same value are equal. -/
theorem equal_of_units
    {x y : Number}
    {u : Int}
    (hLeft : x.units? = some u)
    (hRight : y.units? = some u) :
    x.equal y = true := by
  cases x with
  | nan => cases hLeft
  | infinity negative => cases hLeft
  | finite negative size =>
      cases y with
      | nan => cases hRight
      | infinity other => cases hRight
      | finite other place =>
          have hSame : signed negative size.units =
              signed other place.units :=
            Option.some.inj (hLeft.trans hRight.symm)
          unfold equal orderKey?
          dsimp only
          rw [hSame]
          exact beq_self_eq_true _

------------------------------------------------------------
-- Numbers as Data
------------------------------------------------------------

section

variable {x : Number}

theorem toJson_of_exactInt?
    {i : Int}
    (h : x.exactInt? = some i) :
    x.toJson = .int i := by
  unfold toJson
  rw [h]

theorem toJson_of_inexact
    {u : Int}
    (hUnits : x.units? = some u)
    (hInexact : x.exactInt? = none) :
    x.toJson = .float x := by
  unfold toJson
  rw [hInexact]
  cases x with
  | nan => cases hUnits
  | infinity negative => cases hUnits
  | finite negative size => rfl

theorem toJson_of_not_finite
    (h : x.units? = none) :
    x.toJson = .null := by
  cases x with
  | nan => rfl
  | infinity negative => rfl
  | finite negative size => cases h

/-
  A number is written in one of three ways: as its exact
  integer, as itself, or as null.
-/
theorem toJson_cases
    (x : Number) :
    (∃ i, x.exactInt? = some i ∧ x.toJson = .int i) ∨
      (∃ u, x.exactInt? = none ∧ x.units? = some u ∧
        x.toJson = .float x) ∨
      (x.exactInt? = none ∧ x.units? = none ∧
        x.toJson = .null) := by
  cases hExact : x.exactInt? with
  | some i =>
      exact Or.inl ⟨i, rfl, toJson_of_exactInt? hExact⟩
  | none =>
      apply Or.inr
      cases hUnits : x.units? with
      | some u =>
          exact Or.inl
            ⟨u, rfl, rfl, toJson_of_inexact hUnits hExact⟩
      | none =>
          exact Or.inr
            ⟨rfl, rfl, toJson_of_not_finite hUnits⟩

theorem toJson_eq_int_iff
    {i : Int} :
    x.toJson = .int i ↔
      x.units? = some (unitsOfInt i) ∧
        i.natAbs < Nat.pow 2 53 := by
  rw [← exactInt?_eq_some_iff]
  rcases x.toJson_cases with
    ⟨k, hExact, hJson⟩ |
    ⟨u, hExact, _, hJson⟩ |
    ⟨hExact, _, hJson⟩ <;>
    rw [hExact, hJson] <;> simp

theorem toJson_eq_float_iff
    {y : Number} :
    x.toJson = .float y ↔
      y = x ∧ x.units?.isSome = true ∧
        x.exactInt? = none := by
  rcases x.toJson_cases with
    ⟨k, hExact, hJson⟩ |
    ⟨u, hExact, hUnits, hJson⟩ |
    ⟨hExact, hUnits, hJson⟩
  · rw [hExact, hJson]
    simp
  · rw [hExact, hJson, hUnits]
    simp [eq_comm]
  · rw [hJson, hUnits]
    simp

/- Writing a number does not change its value. -/
theorem units?_toJson
    (x : Number) :
    x.toJson.units? = x.units? := by
  rcases x.toJson_cases with
    ⟨i, hExact, hJson⟩ | ⟨_, _, _, hJson⟩ | ⟨_, hUnits, hJson⟩
  · rw [hJson, (exactInt?_eq_some_iff.mp hExact).1]
    rfl
  · rw [hJson]
    rfl
  · rw [hJson, hUnits]
    rfl

/- What is read back is written as before. -/
theorem toJson_ofJson_toJson
    (x : Number) :
    (Value.ofJson x.toJson).toJson = x.toJson := by
  rcases x.toJson_cases with
    ⟨i, hExact, hJson⟩ | ⟨_, _, _, hJson⟩ | ⟨_, _, hJson⟩
  · have hSmall := (exactInt?_eq_some_iff.mp hExact).2
    rw [hJson, Value.ofJson, Value.toJson]
    exact toJson_eq_int_iff.mpr
      ⟨units?_ofInt_of_small hSmall, hSmall⟩
  · rw [hJson, Value.ofJson, Value.toJson, hJson]
  · rw [hJson, Value.ofJson, Value.toJson]

/- A finite number is read back as one of the same value. -/
theorem equal_ofJson_toJson_iff
    (x : Number) :
    (Value.ofJson x.toJson).equal (.number x) = true ↔
      x.units?.isSome = true := by
  rcases x.toJson_cases with
    ⟨i, hExact, hJson⟩ |
    ⟨u, _, hUnits, hJson⟩ |
    ⟨_, hUnits, hJson⟩
  · rcases exactInt?_eq_some_iff.mp hExact with
      ⟨hUnits, hSmall⟩
    rw [hJson, Value.ofJson, Value.equal, hUnits,
      equal_of_units (units?_ofInt_of_small hSmall) hUnits]
    simp
  · rw [hJson, Value.ofJson, Value.equal, hUnits,
      equal_of_units hUnits hUnits]
    simp
  · rw [hJson, Value.ofJson, hUnits]
    simp [Value.equal]

end

end Number

namespace Value

------------------------------------------------------------
-- Plain Values
------------------------------------------------------------

/-
  Values that hold nothing but what JSON data has: nothing
  is undefined or an instant, and numbers are finite.
-/
inductive Plain : Value → Prop
  | null : Plain null
  | bool (b : Bool) : Plain (bool b)
  | number (negative : Bool) (size : Magnitude) :
      Plain (number (.finite negative size))
  | string (s : String) : Plain (string s)
  | array {items : List Value}
      (hItems : ∀ v ∈ items, Plain v) :
      Plain (array items)
  | object {fields : List (String × Value)}
      (hFields : ∀ f ∈ fields, Plain f.2) :
      Plain (object fields)

theorem plain_number_iff
    {x : Number} :
    (number x).Plain ↔ x.units?.isSome = true := by
  constructor
  · intro h
    cases h
    rfl
  · intro h
    cases x with
    | nan => cases h
    | infinity negative => cases h
    | finite negative size => exact .number negative size

theorem plain_array_iff
    {items : List Value} :
    (array items).Plain ↔ ∀ v ∈ items, v.Plain := by
  constructor
  · intro h
    cases h with
    | array hItems => exact hItems
  · exact .array

theorem plain_object_iff
    {fields : List (String × Value)} :
    (object fields).Plain ↔ ∀ f ∈ fields, f.2.Plain := by
  constructor
  · intro h
    cases h with
    | object hFields => exact hFields
  · exact .object

------------------------------------------------------------
-- Writing and Reading
------------------------------------------------------------

theorem toItems_eq_map
    (items : List Value) :
    toItems items = items.map toJson := by
  induction items with
  | nil => rfl
  | cons v rest ih => rw [toItems, ih, List.map_cons]

theorem toMembers_eq_map
    (fields : List (String × Value)) :
    toMembers fields =
      fields.map fun f => (f.1, toJson f.2) := by
  induction fields with
  | nil => rfl
  | cons f rest ih => rw [toMembers, ih, List.map_cons]

/- Items are compared with their images one by one. -/
theorem equalItems_map_iff
    {f : Value → Value}
    (items : List Value) :
    equalItems (items.map f) items = true ↔
      ∀ v ∈ items, (f v).equal v = true := by
  induction items with
  | nil => simp [equalItems]
  | cons v rest ih =>
      rw [List.map_cons, equalItems, Bool.and_eq_true, ih,
        List.forall_mem_cons]

theorem equalFields_map_iff
    {f : Value → Value}
    (fields : List (String × Value)) :
    equalFields (fields.map fun p => (p.1, f p.2)) fields =
        true ↔
      ∀ p ∈ fields, (f p.2).equal p.2 = true := by
  induction fields with
  | nil => simp [equalFields]
  | cons p rest ih =>
      rw [List.map_cons, equalFields, Bool.and_eq_true,
        Bool.and_eq_true, ih, List.forall_mem_cons,
        beq_self_eq_true]
      simp

/- A value is read back as an equal one if it is plain. -/
theorem equal_ofJson_toJson_iff
    (v : Value) :
    (ofJson v.toJson).equal v = true ↔ v.Plain := by
  induction v with
  | undefined =>
      simp only [toJson, ofJson, equal, Bool.false_eq_true,
        false_iff]
      intro hPlain
      cases hPlain
  | null => exact ⟨fun _ => .null, fun _ => rfl⟩
  | bool b =>
      exact ⟨fun _ => .bool b, fun _ => beq_self_eq_true b⟩
  | number x =>
      rw [toJson, Number.equal_ofJson_toJson_iff,
        plain_number_iff]
  | string s =>
      exact ⟨fun _ => .string s, fun _ => beq_self_eq_true s⟩
  | date t =>
      simp only [toJson, ofJson, equal, Bool.false_eq_true,
        false_iff]
      intro hPlain
      cases hPlain
  | array items ih =>
      rw [toJson, ofJson, equal, toItems_eq_map,
        ofItems_eq_map, List.map_map, equalItems_map_iff,
        plain_array_iff]
      exact forall₂_congr ih
  | object fields ih =>
      rw [toJson, ofJson, equal, toMembers_eq_map,
        ofMembers_eq_map, List.map_map, plain_object_iff]
      refine Iff.trans (equalFields_map_iff
        (f := fun v => ofJson v.toJson) fields) ?_
      exact forall₂_congr ih

/- What is read back is written as before. -/
theorem toJson_ofJson_toJson
    (v : Value) :
    (ofJson v.toJson).toJson = v.toJson := by
  induction v with
  | number x => exact x.toJson_ofJson_toJson
  | array items ih =>
      rw [toJson, ofJson, toJson, toItems_eq_map,
        ofItems_eq_map, toItems_eq_map, List.map_map,
        List.map_map]
      exact congrArg Json.array
        (List.map_congr_left fun v hv => ih v hv)
  | object fields ih =>
      rw [toJson, ofJson, toJson, toMembers_eq_map,
        ofMembers_eq_map, toMembers_eq_map, List.map_map,
        List.map_map]
      refine congrArg Json.object
        (List.map_congr_left fun f hf => ?_)
      exact congrArg (Prod.mk f.1) (ih f hf)
  | _ => rfl

/-
  Exactly the plain values are read back as equal ones, and
  what is read back of any value is written as before. Of
  the numbers exactly those that stand for an integer below
  `2^53` in size are written as one, namely as that integer,
  any other finite number is written as itself, and neither
  changes its value.
-/
theorem round_trip :
    (∀ v : Value,
        (ofJson v.toJson == v) = true ↔ v.Plain) ∧
      (∀ v : Value, (ofJson v.toJson).toJson = v.toJson) ∧
      (∀ (x : Number) (i : Int),
        x.toJson = .int i ↔
          x.units? = some (Number.unitsOfInt i) ∧
            i.natAbs < Nat.pow 2 53) ∧
      (∀ x y : Number,
        x.toJson = .float y ↔
          y = x ∧ x.units?.isSome = true ∧
            x.exactInt? = none) ∧
      ∀ x : Number, x.toJson.units? = x.units? := by
  refine ⟨equal_ofJson_toJson_iff, toJson_ofJson_toJson,
    ?_, ?_, Number.units?_toJson⟩
  · exact fun x i => Number.toJson_eq_int_iff
  · exact fun x y => Number.toJson_eq_float_iff

end Value

end Conform
