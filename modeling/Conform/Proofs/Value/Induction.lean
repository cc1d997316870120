import Conform.Value

/-
  Induction over values, and what a value holds. A value is
  a tree through lists of items and of fields. Its size, by
  which the parts of a value are smaller than it, counts all
  that it is made of.

  Main declarations:
    * `Value.induct`
    * `Value.items` and `Value.fields`
    * `Value.nested`
-/

namespace Conform

namespace Value

------------------------------------------------------------
-- Induction
------------------------------------------------------------

/-
  A statement holds of every value if it holds of the simple
  ones, of an array if it holds of its items, and of an
  object if it holds of the contents of its fields.
-/
@[elab_as_elim, induction_eliminator]
theorem induct
    {motive : Value → Prop}
    (undefined : motive .undefined)
    (null : motive .null)
    (bool : ∀ b, motive (.bool b))
    (number : ∀ x, motive (.number x))
    (string : ∀ s, motive (.string s))
    (date : ∀ t, motive (.date t))
    (array : ∀ items, (∀ v ∈ items, motive v) →
      motive (.array items))
    (object : ∀ fields, (∀ f ∈ fields, motive f.2) →
      motive (.object fields))
    (v : Value) :
    motive v := by
  refine @Value.rec motive
    (fun items => ∀ v ∈ items, motive v)
    (fun fields => ∀ f ∈ fields, motive f.2)
    (fun f => motive f.2)
    undefined null bool number string date array object
    ?noItem ?item ?noField ?field ?pair v
  case noItem =>
    exact fun v hv => absurd hv List.not_mem_nil
  case item =>
    exact fun _ _ hHead hTail v hv =>
      (List.mem_cons.mp hv).elim (fun h => h ▸ hHead) (hTail v)
  case noField =>
    exact fun f hf => absurd hf List.not_mem_nil
  case field =>
    exact fun _ _ hHead hTail f hf =>
      (List.mem_cons.mp hf).elim (fun h => h ▸ hHead) (hTail f)
  case pair => exact fun _ _ h => h

------------------------------------------------------------
-- Parts
------------------------------------------------------------

/- The items of a value. Only an array has any. -/
def items
    (v : Value) : List Value :=
  v.asArray?.getD []

/- The fields of a value. Only an object has any. -/
def fields
    (v : Value) : List (String × Value) :=
  v.asObject?.getD []

theorem sizeOf_lt_of_mem_items
    {v w : Value}
    (h : w ∈ v.items) :
    sizeOf w < sizeOf v := by
  cases v with
  | array all =>
      have hItem : w ∈ all := h
      have hSize := List.sizeOf_lt_of_mem hItem
      rw [array.sizeOf_spec]
      omega
  | _ => exact absurd h List.not_mem_nil

theorem sizeOf_lt_of_mem_fields
    {v : Value}
    {f : String × Value}
    (h : f ∈ v.fields) :
    sizeOf f.2 < sizeOf v ∧
      sizeOf (string f.1) < sizeOf v := by
  rcases f with ⟨name, w⟩
  cases v with
  | object all =>
      have hField : (name, w) ∈ all := h
      have hSize := List.sizeOf_lt_of_mem hField
      rw [Prod.mk.sizeOf_spec] at hSize
      rw [object.sizeOf_spec, string.sizeOf_spec]
      dsimp only
      omega
  | _ => exact absurd h List.not_mem_nil

------------------------------------------------------------
-- Nested Values
------------------------------------------------------------

mutual

/-
  A present value, its properties, the properties of these,
  and so on, as far as they are present: all values of all
  trails.
-/
def nested : Value → List Value
  | undefined => []
  | null => []
  | object fields => object fields :: nestedFields fields
  | bool b => [bool b]
  | number x => [number x]
  | string s => [string s]
  | date t => [date t]
  | array items => [array items]

/- All values of all trails of fields. -/
def nestedFields : List (String × Value) → List Value
  | [] => []
  | (_, v) :: rest => nested v ++ nestedFields rest

end

theorem mem_nestedFields_iff
    {w : Value}
    {fields : List (String × Value)} :
    w ∈ nestedFields fields ↔
      ∃ f ∈ fields, w ∈ f.2.nested := by
  induction fields with
  | nil => simp [nestedFields]
  | cons f rest ih => simp [nestedFields, ih]

theorem mem_nested_self
    {v : Value}
    (h : v.isAbsent = false) :
    v ∈ v.nested := by
  cases v with
  | undefined => cases h
  | null => cases h
  | _ => simp [nested]

/- What is nested in a value is not larger than it. -/
theorem sizeOf_le_of_mem_nested
    {v w : Value}
    (h : w ∈ v.nested) :
    sizeOf w ≤ sizeOf v := by
  induction v with
  | undefined => simp [nested] at h
  | null => simp [nested] at h
  | object fields ih =>
      rw [nested, List.mem_cons, mem_nestedFields_iff] at h
      rcases h with rfl | ⟨f, hf, hNested⟩
      · exact Nat.le_refl _
      · have hField := sizeOf_lt_of_mem_fields
          (v := object fields) hf
        exact Nat.le_trans (ih f hf hNested)
          (Nat.le_of_lt hField.1)
  | _ =>
      simp only [nested, List.mem_singleton] at h
      exact Nat.le_of_eq (congrArg sizeOf h)

/- The values of a trail are nested. -/
theorem mem_nested_of_mem_trail
    {name : String}
    {v w : Value}
    (h : w ∈ v.trail name) :
    w ∈ v.nested := by
  induction v with
  | undefined => simp [trail] at h
  | null => simp [trail] at h
  | object fields ih =>
      rw [trail, List.mem_cons] at h
      rw [nested, List.mem_cons, mem_nestedFields_iff]
      refine h.imp_right fun hRest => ?_
      clear h
      induction fields with
      | nil => simp [trailFields] at hRest
      | cons f rest ihRest =>
          rcases f with ⟨n, v⟩
          rw [trailFields] at hRest
          by_cases hName : name = n
          · rw [if_pos hName] at hRest
            exact ⟨(n, v), List.mem_cons_self,
              ih (n, v) List.mem_cons_self hRest⟩
          · rw [if_neg hName] at hRest
            rcases ihRest
                (fun f hf => ih f (List.mem_cons_of_mem _ hf))
                hRest with
              ⟨f, hf, hNested⟩
            exact ⟨f, List.mem_cons_of_mem _ hf, hNested⟩
  | _ => simpa [trail, nested] using h

end Value

end Conform
