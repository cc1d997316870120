import Conform.Proofs.Number.Rounding
import Conform.Value
import Mathlib.Data.List.Forall2

/-
  What values keep of JSON data. Data whose values are equal
  have the same shape, truth values, texts and names. Their
  numbers can differ: an integer becomes the nearest number,
  which it may share with its neighbours. Numbers that are
  exact in binary64 are told apart.

  Main declarations:
    * `Number.Blurs`
    * `Json.units?`
    * `Json.Standard`
    * `Json.Alike`
    * `Json.alike_of_equal`
-/

namespace Conform

------------------------------------------------------------
-- Numbers
------------------------------------------------------------

namespace Number

/-
  Two exact values that one number is nearest to. If both
  are exact in binary64, then they are the same.
-/
def Blurs
    (u w : Int) : Prop :=
  (∃ x : Number, x.Nearest u ∧ x.Nearest w) ∧
    (IsDouble u → IsDouble w → u = w)

theorem blurs_of_nearest
    {x : Number}
    {u w : Int}
    (hLeft : x.Nearest u)
    (hRight : x.Nearest w) :
    Blurs u w := by
  refine ⟨⟨x, hLeft, hRight⟩, fun hDouble hOther => ?_⟩
  have hUnits := hLeft.units_of_isDouble hDouble
  have hSame := hRight.units_of_isDouble hOther
  exact Option.some.inj (hUnits.symm.trans hSame)

/- Integers below `2^53` in size are told apart. -/
theorem Blurs.eq_of_small
    {i k : Int}
    (h : Blurs (unitsOfInt i) (unitsOfInt k))
    (hLeft : i.natAbs < Nat.pow 2 53)
    (hRight : k.natAbs < Nat.pow 2 53) :
    i = k := by
  apply unitsOfInt_inj
  exact h.2 (isDouble_unitsOfInt hLeft)
    (isDouble_unitsOfInt hRight)

end Number

namespace Json

/- The exact value of a number, in units of `2^-1074`. -/
def units? : Json → Option Int
  | int i => some (Number.unitsOfInt i)
  | float x => x.units?
  | _ => none

/-
  Data as it is read: an integer has 64 bits, signed or
  unsigned, and a fraction is finite.
-/
inductive Standard : Json → Prop
  | null : Standard null
  | bool (b : Bool) : Standard (bool b)
  | int {i : Int}
      (hLeast : -(Nat.pow 2 63 : Nat) ≤ i)
      (hMost : i < (Nat.pow 2 64 : Nat)) :
      Standard (int i)
  | float (negative : Bool) (size : Magnitude) :
      Standard (float (.finite negative size))
  | string (s : String) : Standard (string s)
  | array {items : List Json}
      (hItems : ∀ j ∈ items, Standard j) :
      Standard (array items)
  | object {members : List (String × Json)}
      (hMembers : ∀ m ∈ members, Standard m.2) :
      Standard (object members)

/-
  Data of the same shape, with the same truth values, texts
  and names, and with numbers in the same places that are
  related as given.
-/
inductive Alike
    (same : Int → Int → Prop) : Json → Json → Prop
  | null : Alike same null null
  | bool (b : Bool) : Alike same (bool b) (bool b)
  | number {j k : Json} {u w : Int}
      (hLeft : j.units? = some u)
      (hRight : k.units? = some w)
      (hSame : same u w) :
      Alike same j k
  | string (s : String) : Alike same (string s) (string s)
  | array {items others : List Json}
      (hItems : List.Forall₂ (Alike same) items others) :
      Alike same (array items) (array others)
  | object {members others : List (String × Json)}
      (hNames : members.map Prod.fst = others.map Prod.fst)
      (hContents : List.Forall₂ (Alike same)
        (members.map Prod.snd) (others.map Prod.snd)) :
      Alike same (object members) (object others)

------------------------------------------------------------
-- Numbers of Data
------------------------------------------------------------

/- An integer of 64 bits becomes a finite number. -/
theorem exists_units_of_64_bits
    {i : Int}
    (hLeast : -(Nat.pow 2 63 : Nat) ≤ i)
    (hMost : i < (Nat.pow 2 64 : Nat)) :
    ∃ w, (Number.ofInt i).units? = some w := by
  have hHalf : Nat.pow 2 63 ≤ Nat.pow 2 64 :=
    Nat.pow_le_pow_right (by decide) (by decide)
  apply Number.exists_units_ofInt
  apply Magnitude.two_mul_lt_limit
  generalize Nat.pow 2 63 = half at hLeast hHalf
  generalize Nat.pow 2 64 = whole at hMost hHalf ⊢
  omega

/- Data that becomes a finite number has a value near it. -/
theorem units?_of_ofJson
    {j : Json}
    {x : Number}
    {w : Int}
    (h : Value.ofJson j = .number x)
    (hUnits : x.units? = some w) :
    ∃ u, j.units? = some u ∧ x.Nearest u := by
  cases j with
  | int i =>
      unfold Value.ofJson at h
      injection h with hNumber
      rw [← hNumber] at hUnits ⊢
      exact ⟨_, rfl, Number.nearest_ofInt hUnits⟩
  | float y =>
      unfold Value.ofJson at h
      injection h with hNumber
      rw [hNumber]
      exact ⟨w, hUnits, Number.nearest_of_units hUnits⟩
  | _ =>
      unfold Value.ofJson at h
      cases h

------------------------------------------------------------
-- Equal Values
------------------------------------------------------------

/- What equals a finite number is a number blurred with it. -/
theorem alike_of_equal_number
    {j k : Json}
    {x : Number}
    {w : Int}
    (hNumber : Value.ofJson j = .number x)
    (hUnits : x.units? = some w)
    (hEqual :
      (Value.ofJson j).equal (Value.ofJson k) = true) :
    Alike Number.Blurs j k := by
  rw [hNumber] at hEqual
  cases hOther : Value.ofJson k with
  | number y =>
      rw [hOther, Value.equal] at hEqual
      have hSame := Number.units_of_equal hEqual hUnits
      rcases units?_of_ofJson hNumber hUnits with
        ⟨u, hLeft, hNear⟩
      rcases units?_of_ofJson hOther hSame with
        ⟨n, hRight, hAlso⟩
      have hNearest :=
        hAlso.of_units_eq (hUnits.trans hSame.symm)
      exact .number hLeft hRight
        (Number.blurs_of_nearest hNear hNearest)
  | _ =>
      rw [hOther] at hEqual
      simp [Value.equal] at hEqual

/- Items are related one by one if equal items are. -/
theorem forall₂_of_equalItems
    {related : Json → Json → Prop}
    {items others : List Json}
    (hItems : ∀ j ∈ items, ∀ k,
      (Value.ofJson j).equal (Value.ofJson k) = true →
        related j k)
    (hEqual : Value.equalItems (Value.ofItems items)
      (Value.ofItems others) = true) :
    List.Forall₂ related items others := by
  induction items generalizing others with
  | nil =>
      cases others with
      | nil => exact .nil
      | cons k rest =>
          simp [Value.ofItems, Value.equalItems] at hEqual
  | cons j items ih =>
      cases others with
      | nil => simp [Value.ofItems, Value.equalItems] at hEqual
      | cons k others =>
          simp only [Value.ofItems, Value.equalItems,
            Bool.and_eq_true] at hEqual
          have hHead :=
            hItems j List.mem_cons_self k hEqual.1
          have hTail := ih
            (fun i hi => hItems i (List.mem_cons_of_mem j hi))
            hEqual.2
          exact .cons hHead hTail

/- So are members, under the same names. -/
theorem forall₂_of_equalFields
    {related : Json → Json → Prop}
    {members others : List (String × Json)}
    (hMembers : ∀ m ∈ members, ∀ k,
      (Value.ofJson m.2).equal (Value.ofJson k) = true →
        related m.2 k)
    (hEqual : Value.equalFields (Value.ofMembers members)
      (Value.ofMembers others) = true) :
    members.map Prod.fst = others.map Prod.fst ∧
      List.Forall₂ related (members.map Prod.snd)
        (others.map Prod.snd) := by
  induction members generalizing others with
  | nil =>
      cases others with
      | nil => exact ⟨rfl, .nil⟩
      | cons k rest =>
          simp [Value.ofMembers, Value.equalFields] at hEqual
  | cons m members ih =>
      rcases m with ⟨name, j⟩
      cases others with
      | nil =>
          simp [Value.ofMembers, Value.equalFields] at hEqual
      | cons n others =>
          rcases n with ⟨other, k⟩
          simp only [Value.ofMembers, Value.equalFields,
            Bool.and_eq_true, beq_iff_eq] at hEqual
          rcases hEqual with ⟨⟨hName, hContents⟩, hRest⟩
          have hHead := hMembers (name, j)
            List.mem_cons_self k hContents
          rcases ih
              (fun i hi =>
                hMembers i (List.mem_cons_of_mem (name, j) hi))
              hRest with
            ⟨hNames, hTail⟩
          refine ⟨?_, .cons hHead hTail⟩
          rw [List.map_cons, List.map_cons, hNames, hName]

/-
  Data whose values are equal are alike up to rounding. The
  induction is on the data that is known to be standard; no
  more is asked of the other data.
-/
theorem alike_of_equal
    {j : Json}
    (hStandard : j.Standard)
    (k : Json)
    (hEqual :
      (Value.ofJson j).equal (Value.ofJson k) = true) :
    Alike Number.Blurs j k := by
  induction hStandard generalizing k with
  | null =>
      cases k with
      | null => exact .null
      | _ => simp [Value.ofJson, Value.equal] at hEqual
  | bool b =>
      cases k with
      | bool c =>
          simp only [Value.ofJson, Value.equal, beq_iff_eq]
            at hEqual
          rw [hEqual]
          exact .bool c
      | _ => simp [Value.ofJson, Value.equal] at hEqual
  | int hLeast hMost =>
      rcases exists_units_of_64_bits hLeast hMost with
        ⟨w, hUnits⟩
      exact alike_of_equal_number rfl hUnits hEqual
  | float negative size =>
      exact alike_of_equal_number rfl rfl hEqual
  | string s =>
      cases k with
      | string t =>
          simp only [Value.ofJson, Value.equal, beq_iff_eq]
            at hEqual
          rw [hEqual]
          exact .string t
      | _ => simp [Value.ofJson, Value.equal] at hEqual
  | array hItems ih =>
      cases k with
      | array others =>
          simp only [Value.ofJson, Value.equal] at hEqual
          exact .array (forall₂_of_equalItems ih hEqual)
      | _ => simp [Value.ofJson, Value.equal] at hEqual
  | object hMembers ih =>
      cases k with
      | object others =>
          simp only [Value.ofJson, Value.equal] at hEqual
          rcases forall₂_of_equalFields ih hEqual with
            ⟨hNames, hContents⟩
          exact .object hNames hContents
      | _ => simp [Value.ofJson, Value.equal] at hEqual

end Json

end Conform
