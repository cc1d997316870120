import Conform.Definition.Compile

/-
  How the fields of a definition are read, and induction
  over definitions. Each reader has one lemma that says when
  it succeeds and with what, and a statement about all
  definitions is proven from the same statement about the
  definitions inside a definition.

  Main declarations:
    * `Definition.Optionally`
    * `Definition.typed_eq_ok_iff`
    * `Definition.requireTag_eq_ok_iff`
    * `Definition.compile_object`
    * `Definition.Part`
    * `Definition.part_induct`
-/

namespace Conform

namespace Definition

------------------------------------------------------------
-- Success
------------------------------------------------------------

section

variable {α β : Type}

/- A chain succeeds if each of its steps does. -/
theorem bind_eq_ok_iff
    {x : Except Fault α}
    {f : α → Except Fault β}
    {b : β} :
    (x >>= f) = .ok b ↔ ∃ a, x = .ok a ∧ f a = .ok b := by
  cases x with
  | error e => simp [bind, Except.bind]
  | ok a => simp [bind, Except.bind]

theorem map_eq_ok_iff
    {x : Except Fault α}
    {f : α → β}
    {b : β} :
    x.map f = .ok b ↔ ∃ a, x = .ok a ∧ f a = b := by
  cases x with
  | error e => simp [Except.map]
  | ok a => simp [Except.map]

theorem present_eq_ok_iff
    {path name : String}
    {contents : Option α}
    {a : α} :
    present path name contents = .ok a ↔
      contents = some a := by
  cases contents with
  | none => simp [present]
  | some c => simp [present]

/- What a field holds has a property, if there is the field. -/
def Optionally
    (fields : List (String × Json))
    (name : String)
    (expected : Json → Prop) : Prop :=
  ∀ j, fields.lookup name = some j → expected j

/-
  A field is read if it is absent or holds what is expected,
  and what is read is what it holds.
-/
theorem typed_eq_ok_iff
    {expected : Expected}
    {read? : Json → Option α}
    {fields : List (String × Json)}
    {path name : String}
    {contents : Option α} :
    typed expected read? fields path name = .ok contents ↔
      Optionally fields name (fun j => ∃ a, read? j = some a) ∧
        contents = (fields.lookup name).bind read? := by
  unfold typed Optionally
  cases hLookup : fields.lookup name with
  | none => simp [eq_comm]
  | some j =>
      cases hRead : read? j with
      | none => simp [hRead]
      | some a => simp [hRead, eq_comm]

/-
  A field that must be there is read exactly if it holds
  data of the form that is expected of it.
-/
theorem require_eq_ok_iff
    {expected : Expected}
    {read? : Json → Option α}
    {form : α → Json}
    (hForm : ∀ j a, read? j = some a ↔ j = form a)
    {fields : List (String × Json)}
    {path name : String}
    {a : α} :
    (typed expected read? fields path name >>=
        present path name) = .ok a ↔
      fields.lookup name = some (form a) := by
  rw [bind_eq_ok_iff]
  constructor
  · rintro ⟨contents, hTyped, hPresent⟩
    have hRead := (typed_eq_ok_iff.mp hTyped).2
    rw [present_eq_ok_iff.mp hPresent] at hRead
    rcases Option.bind_eq_some_iff.mp hRead.symm with
      ⟨j, hLookup, hHeld⟩
    rw [hLookup, (hForm j a).mp hHeld]
  · intro hLookup
    have hHeld : read? (form a) = some a :=
      (hForm (form a) a).mpr rfl
    refine ⟨some a, typed_eq_ok_iff.mpr ⟨?_, ?_⟩, rfl⟩
    · intro j hj
      rw [hLookup] at hj
      cases hj
      exact ⟨a, hHeld⟩
    · rw [hLookup, Option.bind_some, hHeld]

end

theorem asString?_eq_some_iff
    (j : Json)
    (text : String) :
    j.asString? = some text ↔ j = .string text := by
  cases j <;> simp [Json.asString?]

theorem asArray?_eq_some_iff
    (j : Json)
    (items : List Json) :
    j.asArray? = some items ↔ j = .array items := by
  cases j <;> simp [Json.asArray?]

/- A list of strings is read as the texts of the strings. -/
theorem mapM_asString?_eq_some_iff
    {items : List Json}
    {names : List String} :
    items.mapM Json.asString? = some names ↔
      items = names.map .string := by
  induction items generalizing names with
  | nil => cases names <;> simp
  | cons j rest ih =>
      rw [List.mapM_cons, Option.bind_eq_bind,
        Option.bind_eq_some_iff]
      simp only [asString?_eq_some_iff, Option.bind_eq_bind,
        Option.bind_eq_some_iff, ih]
      cases names with
      | nil => simp
      | cons name others => simp

section

variable {fields : List (String × Json)}
variable {path name : String}

theorem requireText_eq_ok_iff
    {text : String} :
    requireText fields path name = .ok text ↔
      fields.lookup name = some (.string text) :=
  require_eq_ok_iff asString?_eq_some_iff

theorem requireList_eq_ok_iff
    {items : List Json} :
    requireList fields path name = .ok items ↔
      fields.lookup name = some (.array items) :=
  require_eq_ok_iff asArray?_eq_some_iff

theorem requireMapping_eq_ok_iff
    {registry : Registry}
    {mapping : Mapping} :
    requireMapping registry path name = .ok mapping ↔
      registry.find? name = some mapping := by
  unfold requireMapping
  cases registry.find? name with
  | none => simp
  | some found => simp

/- Every tag is found under its own name. -/
theorem ofName?_eq_some_iff
    {text : String}
    {tag : Tag} :
    Tag.ofName? text = some tag ↔ text = tag.name := by
  constructor
  · intro h
    rw [Tag.ofName?] at h
    have hName := List.find?_some h
    exact (beq_iff_eq.mp hName).symm
  · rintro rfl
    cases tag <;> decide

theorem requireTag_eq_ok_iff
    {tag : Tag} :
    requireTag fields path = .ok tag ↔
      fields.lookup "type" = some (.string tag.name) := by
  have hKnown : ∀ text,
      knownTag path text = .ok tag ↔ text = tag.name := by
    intro text
    rw [← ofName?_eq_some_iff]
    unfold knownTag
    cases Tag.ofName? text with
    | none => simp
    | some found => simp
  rw [requireTag, bind_eq_ok_iff]
  simp [hKnown, requireText_eq_ok_iff]

/- A child is what is made of the data that a field holds. -/
theorem requireChild_eq_ok_iff
    {make : Json → Compiler}
    {schema : Schema} :
    requireChild (partsOf make fields) path name =
        .ok schema ↔
      ∃ j, fields.lookup name = some j ∧
        make j (under path name) = .ok schema := by
  rw [requireChild, bind_eq_ok_iff]
  simp only [present_eq_ok_iff, partsOf]
  cases fields.lookup name with
  | none => simp
  | some j => simp

end

------------------------------------------------------------
-- Definitions Inside a Definition
------------------------------------------------------------

section

variable (registry : Registry)

/- Compiling an object is compiling it from its parts. -/
theorem compile_object
    (fields : List (String × Json)) :
    compile registry (.object fields) =
      compileParts registry
        (partsOf (compile registry) fields) :=
  fold_object _ _ fields

/- Only an object is compiled. -/
theorem object_of_compile_eq_ok
    {j : Json}
    {path : String}
    {schema : Schema}
    (h : compile registry j path = .ok schema) :
    ∃ fields, j = .object fields := by
  cases j with
  | object fields => exact ⟨fields, rfl⟩
  | _ => simp [compile, fold, refuse] at h

end

------------------------------------------------------------
-- Induction over Definitions
------------------------------------------------------------

/-
  The data in the fields of a definition that may be
  definitions in turn: what a field holds, and what is in a
  list or in a mapping that a field holds.
-/
inductive Part
    (fields : List (String × Json)) : Json → Prop
  | field {name : String} {j : Json}
      (hField : fields.lookup name = some j) : Part fields j
  | item {name : String} {items : List Json} {j : Json}
      (hField : fields.lookup name = some (.array items))
      (hItem : j ∈ items) : Part fields j
  | member {name : String} {members : List (String × Json)}
      {m : String × Json}
      (hField : fields.lookup name = some (.object members))
      (hMember : m ∈ members) : Part fields m.2

theorem sizeOf_field_lt
    {fields : List (String × Json)}
    {name : String}
    {j : Json}
    (h : fields.lookup name = some j) :
    sizeOf j < sizeOf (Json.object fields) := by
  have hMem := List.sizeOf_lt_of_mem (Fields.mem_of_lookup h)
  simp only [Prod.mk.sizeOf_spec] at hMem
  simp only [Json.object.sizeOf_spec]
  omega

/- A part of a definition is smaller than the definition. -/
theorem Part.sizeOf_lt
    {fields : List (String × Json)}
    {j : Json}
    (h : Part fields j) :
    sizeOf j < sizeOf (Json.object fields) := by
  cases h with
  | field hField => exact sizeOf_field_lt hField
  | item hField hItem =>
      have hList := sizeOf_field_lt hField
      have hSize := List.sizeOf_lt_of_mem hItem
      simp only [Json.array.sizeOf_spec] at hList
      omega
  | @member name members m hField hMember =>
      have hMapping := sizeOf_field_lt hField
      have hSize := List.sizeOf_lt_of_mem hMember
      rcases m with ⟨n, k⟩
      rw [Json.object.sizeOf_spec members] at hMapping
      rw [Prod.mk.sizeOf_spec] at hSize
      show sizeOf k < sizeOf (Json.object fields)
      omega

/-
  A statement holds of all data if it holds of data that is
  no definition, and of a definition if it holds of the
  parts of the definition.
-/
@[elab_as_elim]
theorem part_induct
    {motive : Json → Prop}
    (other : ∀ j, (∀ fields, j ≠ .object fields) → motive j)
    (object : ∀ fields,
      (∀ j, Part fields j → motive j) →
        motive (.object fields))
    (j : Json) :
    motive j := by
  cases j with
  | object fields =>
      exact object fields fun k _ =>
        part_induct other object k
  | _ => exact other _ fun _ h => nomatch h
termination_by sizeOf j
decreasing_by exact Part.sizeOf_lt ‹_›

end Definition

end Conform
