import Conform.Proofs.Schema.Totality
import Conform.Proofs.Definition.Places

/-
  The meaning of a definition that is compiled: the schema
  has the verdicts of the schema that the definition stands
  for, on every value, and the same kinds at all places.

  Main declarations:
    * `Definition.closed_assemble`
    * `Definition.compile_agrees_with_assemble`
-/

namespace Conform

namespace Definition

------------------------------------------------------------
-- Closed Schemas
------------------------------------------------------------

section

variable {registry : Registry}
variable {fields : List (String × Json)}
variable {name : String}

/- The parts of a definition stand for closed schemas. -/
def ClosedParts
    (registry : Registry)
    (fields : List (String × Json)) : Prop :=
  ∀ j, Part fields j → ∀ listed,
    (assemble registry j listed).Closed

theorem closed_innerSchema
    (h : ClosedParts registry fields) :
    (innerSchema (partsOf (assemble registry) fields)
      name).Closed := by
  cases hLookup : fields.lookup name with
  | none =>
      simp only [innerSchema, partsOf, hLookup, Option.map_none]
      exact .leaf
  | some j =>
      rw [innerSchema_of_lookup hLookup]
      exact h j (.field hLookup) none

theorem closed_listedSchemas
    (h : ClosedParts registry fields) :
    ∀ c ∈ listedSchemas (partsOf (assemble registry) fields)
      name, c.Closed := by
  intro c hc
  cases hLookup : fields.lookup name with
  | none => simp [listedSchemas, partsOf, hLookup] at hc
  | some j =>
      cases j with
      | array items =>
          rw [listedSchemas_of_lookup hLookup] at hc
          rcases List.mem_map.mp hc with ⟨k, hk, rfl⟩
          exact h k (.item hLookup hk) none
      | _ =>
          simp [listedSchemas, partsOf, hLookup,
            Json.asArray?] at hc

theorem closed_propertySchemas
    (h : ClosedParts registry fields) :
    ∀ p ∈ propertySchemas (partsOf (assemble registry) fields),
      p.2.Closed := by
  intro p hp
  cases hLookup : fields.lookup "properties" with
  | none =>
      rw [propertySchemas_of_lookup_none hLookup] at hp
      cases hp
  | some j =>
      cases j with
      | object members =>
          rw [propertySchemas_of_lookup hLookup] at hp
          rcases List.mem_map.mp hp with ⟨m, hm, rfl⟩
          exact h m.2 (.member hLookup hm) _
      | _ =>
          simp [propertySchemas, partsOf, hLookup,
            Json.asObject?] at hp

theorem closed_assembleShape
    (h : ClosedParts registry fields)
    (tag : Tag) :
    (assembleShape registry (partsOf (assemble registry) fields)
      tag).Closed := by
  cases tag with
  | string =>
      rw [assembleShape_string]
      exact .leaf
  | number =>
      rw [assembleShape_number]
      exact .leaf
  | date =>
      rw [assembleShape_date]
      exact .leaf
  | object =>
      rw [assembleShape_object]
      exact .object fun p hp => closed_propertySchemas h p
        (Schema.mem_of_mem_declareAll hp)
  | array =>
      rw [assembleShape_array]
      refine .array fun item hItem => ?_
      rcases Option.map_eq_some_iff.mp hItem with
        ⟨child, hChild, rfl⟩
      rcases Option.map_eq_some_iff.mp hChild with
        ⟨j, hLookup, rfl⟩
      exact h j (.field hLookup) none
  | tuple => exact .tuple (closed_listedSchemas h)
  | union => exact .union (closed_listedSchemas h)
  | record =>
      exact .record (closed_innerSchema h)
        (closed_innerSchema h)
  | nullable => exact .nullable (closed_innerSchema h)
  | optional => exact .optional (closed_innerSchema h)
  | mapped =>
      rw [assembleShape]
      split
      · exact .mapped (closed_innerSchema h)
      · exact .leaf
  | lazy =>
      rw [assembleShape_lazy]
      exact .lazy (closed_innerSchema h)
  | _ => exact .leaf

end

/- No definition stands for a schema with open names. -/
theorem closed_assemble
    (registry : Registry)
    (definition : Json)
    (listed : Option Bool) :
    (assemble registry definition listed).Closed := by
  induction definition using part_induct
    generalizing listed with
  | other j hOther =>
      rw [assemble, fold_other _ _ hOther]
      exact .leaf
  | object fields ih =>
      rw [assemble_object, assembleParts]
      rw [partsOf_fields]
      cases tag? fields with
      | none => exact .leaf
      | some tag =>
          exact (closed_assembleShape ih tag).of_shape_eq
            (shape_finish _ _ _)

/- Compiled schemas have no named children. -/
theorem closed_of_compile_eq_ok
    {registry : Registry}
    {definition : Json}
    {path : String}
    {schema : Schema}
    (h : compile registry definition path = .ok schema) :
    schema.Closed := by
  rw [(assembled registry definition).eq_none h]
  exact closed_assemble registry definition none

/- A compiled schema has a verdict on every value. -/
theorem verdict?_of_compile_eq_ok
    {registry : Registry}
    {definition : Json}
    {path : String}
    {schema : Schema}
    (h : compile registry definition path = .ok schema)
    (v : Value) :
    ∃ o, schema.verdict? v = some o :=
  (closed_of_compile_eq_ok h).verdict?_total v

/- A compiled schema has the kind that is declared. -/
theorem typeName?_of_compile_eq_ok
    {registry : Registry}
    {definition : Json}
    {path : String}
    {schema : Schema}
    (h : compile registry definition path = .ok schema) :
    typeName? definition = some schema.kind := by
  rw [(assembled registry definition).eq_none h]
  exact kind_assemble (succeeds_compile_iff.mp ⟨schema, h⟩) none

------------------------------------------------------------
-- Meaning
------------------------------------------------------------

/-
  A compiled schema has a verdict on every value, which is
  the one of the schema that the definition stands for, and
  what is at any chain of places in it has the kind that the
  definition at the same places declares.
-/
theorem compile_agrees_with_assemble
    (registry : Registry)
    (definition : Json)
    (path : String)
    (schema : Schema)
    (hCompile : compile registry definition path = .ok schema) :
    (∀ v, ∃ o, schema.verdict? v = some o ∧
        (assemble registry definition none).verdict? v =
          some o) ∧
      ∀ places,
        (schema.parts? places).map Schema.kind =
          (parts? places definition).bind typeName? := by
  have hSchema : schema = assemble registry definition none :=
    (assembled registry definition).eq_none hCompile
  have hWellFormed : WellFormed registry definition :=
    succeeds_compile_iff.mp ⟨schema, hCompile⟩
  constructor
  · intro v
    rcases verdict?_of_compile_eq_ok hCompile v with
      ⟨o, hVerdict⟩
    exact ⟨o, hVerdict, by rw [← hSchema, hVerdict]⟩
  · rw [hSchema]
    exact kind_parts?_assemble hWellFormed none

/-
  An order has an identifier and may have a note, which is
  looked up, trimmed and checked, a price and a state.
-/
def orderDefinition : Json :=
  .object
    [ ("properties", .object
        [ ("id", .object
            [ ("message", .string "An order has an identifier."),
              ("minLength", .int 1),
              ("type", .string "string") ]),
          ("note", .object
            [ ("required", .bool true),
              ("schema", .object
                [ ("schema", .object
                    [("type", .string "string")]),
                  ("transformFn", .string "trim"),
                  ("type", .string "transform") ]),
              ("type", .string "lazy") ]),
          ("price", .object
            [ ("nullable", .bool true),
              ("type", .string "number") ]),
          ("state", .object
            [ ("allowedValues",
                .array [.string "open", .null]),
              ("type", .string "enum") ]) ]),
      ("required", .array [.string "id"]),
      ("type", .string "object") ]

/- A registry that can trim text. -/
def trimming : Registry :=
  ⟨[("trim", Mapping.trim)]⟩

/-
  An order without an identifier is refused with the words
  for missing properties, and one whose identifier is null
  with the message of the definition. A note is not missing,
  since the list of required names leaves it out. The price
  and the state may be null, and the note may not.
-/
theorem compile_order_agrees_with_assemble :
    ∃ schema,
      compile trimming orderDefinition "order" = .ok schema ∧
      (∀ v, ∃ o, schema.verdict? v = some o ∧
        (assemble trimming orderDefinition none).verdict? v =
          some o) ∧
      (schema.parts?
          [.property "note", .inner, .inner]).map Schema.kind =
        some "string" ∧
      schema.verdict? (.object []) =
        some (Outcome.ofErrors
          [ "Validation failed for property 'id': " ++
              "Property is missing." ]) ∧
      schema.verdict? (.object
          [("id", .null), ("price", .null), ("state", .null)]) =
        some (Outcome.ofErrors
          [ "Validation failed for property 'id': " ++
              "An order has an identifier." ]) ∧
      schema.verdict? (.object
          [("id", .string ""), ("note", .null)]) =
        some (Outcome.ofErrors
          [ "Validation failed for property 'id': " ++
              "String is too short. Minimum length is 1.",
            "Validation failed for property 'note': " ++
              "Value cannot be null or undefined." ]) ∧
      schema.verdict? (.object
          [("id", .string "a1"), ("price", .null)]) =
        some Outcome.valid := by
  rcases compile_agrees_with_assemble trimming orderDefinition
    "order" _ rfl with ⟨hVerdicts, hKinds⟩
  exact ⟨_, rfl, hVerdicts, hKinds _, rfl, rfl, rfl, rfl⟩

end Definition

end Conform
