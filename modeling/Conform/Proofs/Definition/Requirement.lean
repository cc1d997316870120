import Conform.Proofs.Definition.Meaning
import Conform.Proofs.Schema.Missing
import Mathlib.Data.List.Forall2

/-
  Who decides whether a property is required. The list of
  required names of an object decides for each property of
  the object, whatever the definition of the property says
  about itself. Without such a list the definition of the
  property decides, and a list of names in it is about the
  properties below, not about the property.

  Main declarations:
    * `Definition.required_of_compile_eq_ok`
    * `Definition.part?_property_of_compile_eq_ok`
    * `Definition.SameRequirements`
    * `Definition.compile_of_sameRequirements`
    * `Definition.RequirementLaws`
    * `Definition.requirementLaws`
-/

namespace Conform

namespace Definition

------------------------------------------------------------
-- The Flag of a Node
------------------------------------------------------------

/- A list around a definition outweighs what it says itself. -/
theorem required_finish
    (fields : List (String × Json))
    (listed : Option Bool)
    (s : Schema) :
    (finish fields listed s).settings.required =
      listed.getD
        ((given Json.asBool? fields "required").getD false) := by
  rcases s with ⟨settings, shape⟩
  rw [finish_eq]
  rfl

/- A definition itself says that it is required by a flag. -/
theorem asBool?_getD_eq_true_iff
    (field : Option Json) :
    (field.bind Json.asBool?).getD false = true ↔
      field = some (.bool true) := by
  cases field with
  | none => simp
  | some j => cases j <;> simp [Json.asBool?]

section

variable {registry : Registry}
variable {definition : Json}
variable {fields : List (String × Json)}
variable {path : String}
variable {schema : Schema}

/- A compiled node is required if its definition says so. -/
theorem required_of_compile_eq_ok
    (h : compile registry definition path = .ok schema) :
    schema.settings.required = true ↔
      definition.field? "required" = some (.bool true) := by
  have hWellFormed : WellFormed registry definition :=
    succeeds_compile_iff.mp ⟨schema, h⟩
  rw [(assembled registry definition).eq_none h,
    ← asBool?_getD_eq_true_iff]
  cases hWellFormed with
  | definition hHeader hBody =>
      rw [assemble_object, assembleParts]
      simp only [partsOf_fields,
        tag?_eq_some_iff.mpr hHeader.type, required_finish]
      rfl

------------------------------------------------------------
-- The Flags of Properties
------------------------------------------------------------

theorem givenNames_of_lookup
    {names : List String}
    (h : fields.lookup "required" =
      some (.array (names.map .string))) :
    givenNames fields = some names := by
  rw [givenNames, given_of_lookup h]
  exact mapM_asString?_eq_some_iff.mpr rfl

theorem givenNames_of_no_list
    (h : ∀ items,
      fields.lookup "required" ≠ some (.array items)) :
    givenNames fields = none := by
  unfold givenNames given
  cases hLookup : fields.lookup "required" with
  | none => rfl
  | some j =>
      cases j with
      | array items => exact absurd hLookup (h items)
      | _ => rfl

/-
  A property is compiled on its own, and then the list of
  required names, if there is one, sets its flag.
-/
theorem part?_property_of_compile_eq_ok
    (hCompile : compile registry (.object fields) path =
      .ok schema)
    {name : String}
    {inner : Json}
    (hPart : part? (.property name) (.object fields) =
      some inner)
    (innerPath : String) :
    ∃ own, compile registry inner innerPath = .ok own ∧
      schema.part? (.property name) =
        some (own.setGiven Schema.setRequired
          ((givenNames fields).map
            fun names => names.contains name)) := by
  have hWellFormed : WellFormed registry (.object fields) :=
    succeeds_compile_iff.mp ⟨schema, hCompile⟩
  have hInner : Succeeds (compile registry inner innerPath) :=
    succeeds_compile_iff.mpr (hWellFormed.part hPart)
  rcases hInner with ⟨own, hOwn⟩
  refine ⟨own, hOwn, ?_⟩
  rw [(assembled registry _).eq_none hCompile,
    part?_assemble_object hWellFormed, hPart, Option.map_some,
    ← assembled registry inner innerPath own hOwn]
  rfl

/- A definition with properties is compiled to an object. -/
theorem object_of_part?_property
    (hCompile : compile registry (.object fields) path =
      .ok schema)
    {name : String}
    {inner : Json}
    (hPart : part? (.property name) (.object fields) =
      some inner) :
    ∃ s properties,
      schema = .node s (.object properties) ∧
        (properties.map Prod.fst).Nodup := by
  rcases Option.bind_eq_some_iff.mp hPart with
    ⟨tag, hTag, hField⟩
  have hObject : tag = .object := by
    cases tag with
    | object => rfl
    | _ => cases hField
  have hType := tag?_eq_some_iff.mp hTag
  rw [hObject] at hType
  have hShape := @shape_assemble registry _ _ hType none
  rw [← (assembled registry _).eq_none hCompile,
    assembleShape_object] at hShape
  rcases schema with ⟨s, shape⟩
  exact ⟨s, _, congrArg (Schema.node s) hShape,
    Schema.nodup_declareAll _⟩

end

------------------------------------------------------------
-- Definitions that Differ in Flags
------------------------------------------------------------

/-
  Two definitions that differ at most in whether they say of
  themselves that they are required.
-/
inductive SameButFlag : Json → Json → Prop
  | same (j : Json) : SameButFlag j j
  | flag {fields fields' : List (String × Json)}
      (hOthers : ∀ name, name ≠ "required" →
        fields'.lookup name = fields.lookup name)
      (hFlag : Optionally fields "required" IsFlag)
      (hFlag' : Optionally fields' "required" IsFlag) :
      SameButFlag (.object fields) (.object fields')

/-
  Two mappings of the same names to definitions that differ
  at most in such flags.
-/
inductive SameProperties : Json → Json → Prop
  | members {members members' : List (String × Json)}
      (hMembers : List.Forall₂
        (fun m m' => m.1 = m'.1 ∧ SameButFlag m.2 m'.2)
        members members') :
      SameProperties (.object members) (.object members')

/-
  Two definitions of objects with lists of required names
  that have the same properties, up to their flags, and list
  the same names among those of the properties.
-/
structure SameRequirements
    (fields fields' : List (String × Json)) : Prop where
  others :
    ∀ name, name ≠ "required" → name ≠ "properties" →
      fields'.lookup name = fields.lookup name
  properties :
    Option.Rel SameProperties (fields.lookup "properties")
      (fields'.lookup "properties")
  lists :
    ∃ names names' : List String,
      fields.lookup "required" =
          some (.array (names.map .string)) ∧
        fields'.lookup "required" =
          some (.array (names'.map .string)) ∧
        ∀ name inner,
          part? (.property name) (.object fields) =
              some inner →
            (name ∈ names ↔ name ∈ names')

section

variable {fields fields' : List (String × Json)}
variable {path : String}

/- What is read of a field depends on the field alone. -/
theorem typed_congr
    {α : Type}
    {expected : Expected}
    {read? : Json → Option α}
    {name : String}
    (h : fields'.lookup name = fields.lookup name) :
    typed expected read? fields' path name =
      typed expected read? fields path name := by
  rw [typed, typed, h]

theorem requireTag_congr
    (h : fields'.lookup "type" = fields.lookup "type") :
    requireTag fields' path = requireTag fields path := by
  rw [requireTag, requireTag, requireText, requireText,
    textField, typed_congr h]

/- Without a list it does not matter what the flag says. -/
theorem requiredNames_of_flag
    (h : Optionally fields "required" IsFlag) :
    requiredNames fields path = .ok none := by
  unfold requiredNames
  cases hLookup : fields.lookup "required" with
  | none => rfl
  | some j =>
      rcases h j hLookup with ⟨flag, rfl⟩
      rfl

/-
  What a tag stands for depends on the field `required` only
  by the list of names in it.
-/
theorem compileShape_congr
    {registry : Registry}
    {make : Json → Compiler}
    (hOthers : ∀ name, name ≠ "required" →
      fields'.lookup name = fields.lookup name)
    (hNames : requiredNames fields' path =
      requiredNames fields path)
    (tag : Tag) :
    compileShape registry (partsOf make fields') path tag =
      compileShape registry (partsOf make fields) path tag := by
  cases tag <;>
    simp (disch := decide) only [compileShape, lengthField,
      numberField, flagField, dateField, textField, listField,
      requireList, requireText, requireChild, requireChildren,
      optionalChild, compileProperties, typed, partsOf, hOthers,
      hNames]

theorem ok_bind
    {α β : Type}
    (a : α)
    (f : α → Except Fault β) :
    (.ok a >>= f) = f a := rfl

/- Two chains agree up to a function if their ends do. -/
theorem map_bind_congr
    {α β γ : Type}
    {x : Except Fault α}
    {f f' : α → Except Fault β}
    {g : β → γ}
    (h : ∀ a, (f' a).map g = (f a).map g) :
    (x >>= f').map g = (x >>= f).map g := by
  cases x with
  | error e => rfl
  | ok a => exact h a

/- A truth value can be the flag of every node. -/
theorem exists_requiredFlag_of_flag
    (h : Optionally fields "required" IsFlag)
    (path : String)
    (tag : Tag) :
    ∃ flag, requiredFlag fields path tag = .ok flag :=
  succeeds_requiredFlag_iff.mpr fun j hj => Or.inl (h j hj)

end

section

variable (registry : Registry)

/-
  What two definitions that differ in their flags are
  compiled to is the same once the flag is set.
-/
theorem compile_setRequired_of_sameButFlag
    {j j' : Json}
    (h : SameButFlag j j')
    (path : String)
    (flag : Bool) :
    (compile registry j' path).map (Schema.setRequired flag) =
      (compile registry j path).map
        (Schema.setRequired flag) := by
  cases h with
  | same => rfl
  | @flag fields fields' hOthers hFlag hFlag' =>
      have hNames :
          requiredNames fields' path =
            requiredNames fields path := by
        rw [requiredNames_of_flag hFlag,
          requiredNames_of_flag hFlag']
      rw [compile_object, compile_object, compileParts,
        compileParts, partsOf_fields, partsOf_fields,
        requireTag_congr (hOthers "type" (by decide)),
        flagField, textField,
        typed_congr (hOthers "nullable" (by decide)),
        typed_congr (hOthers "message" (by decide))]
      refine map_bind_congr fun tag => ?_
      rw [compileShape_congr hOthers hNames]
      refine map_bind_congr fun node => ?_
      refine map_bind_congr fun nullable => ?_
      rcases exists_requiredFlag_of_flag hFlag path tag with
        ⟨own, hOwn⟩
      rcases exists_requiredFlag_of_flag hFlag' path tag with
        ⟨own', hOwn'⟩
      rw [hOwn, hOwn', ok_bind, ok_bind]
      refine map_bind_congr fun message => ?_
      rcases node with ⟨settings, shape⟩
      rfl

/- A list of names sets the flag of each compiled property. -/
theorem compileMembers_listed
    (path : String)
    (names : List String)
    (name : String)
    (child : Compiler)
    (rest : List (String × Compiler)) :
    compileMembers path (some names) ((name, child) :: rest) =
      ((child (under path ("properties." ++ name))).map
          (Schema.setRequired (names.contains name)) >>=
        fun schema => do
          let others ← compileMembers path (some names) rest
          .ok ((name, schema) :: others)) := by
  rw [compileMembers]
  cases child (under path ("properties." ++ name)) <;> rfl

/- Of the definitions of properties no flag matters then. -/
theorem compileMembers_of_sameButFlag
    (path : String)
    {names names' : List String}
    {members members' : List (String × Json)}
    (hMembers : List.Forall₂
      (fun m m' => m.1 = m'.1 ∧ SameButFlag m.2 m'.2)
      members members')
    (hNames : ∀ m ∈ members, m.1 ∈ names ↔ m.1 ∈ names') :
    compileMembers path (some names')
        (members'.map fun m => (m.1, compile registry m.2)) =
      compileMembers path (some names)
        (members.map fun m => (m.1, compile registry m.2)) := by
  induction hMembers with
  | nil => rfl
  | @cons m m' rest rest' hHead _ ih =>
      rcases m with ⟨name, j⟩
      rcases m' with ⟨name', j'⟩
      rcases hHead with ⟨rfl, hSame⟩
      have hListed : names'.contains name =
          names.contains name := by
        rw [Bool.eq_iff_iff, List.contains_iff_mem,
          List.contains_iff_mem]
        exact (hNames (name, j) List.mem_cons_self).symm
      have hRest := ih fun m hm =>
        hNames m (List.mem_cons_of_mem (name, j) hm)
      rw [List.map_cons, List.map_cons, compileMembers_listed,
        compileMembers_listed, hRest, hListed,
        compile_setRequired_of_sameButFlag registry hSame]

variable {registry}
variable {fields fields' : List (String × Json)}
variable {path : String}

theorem requiredNames_of_lookup
    {names : List String}
    (h : fields.lookup "required" =
      some (.array (names.map .string))) :
    requiredNames fields path = .ok (some names) := by
  rw [requiredNames, h]
  dsimp only
  rw [mapM_asString?_eq_some_iff.mpr rfl]

/- Only an object has a list of names in the field. -/
theorem type_of_list
    {schema : Schema}
    (hCompile : compile registry (.object fields) path =
      .ok schema)
    {items : List Json}
    (hList : fields.lookup "required" =
      some (.array items)) :
    fields.lookup "type" = some (.string Tag.object.name) := by
  have hWellFormed : WellFormed registry (.object fields) :=
    succeeds_compile_iff.mp ⟨schema, hCompile⟩
  cases hWellFormed with
  | definition hHeader hBody =>
      rcases hHeader.required _ hList with
        ⟨flag, hFlag⟩ | ⟨rfl, _⟩
      · cases hFlag
      · exact hHeader.type

/- Every name of the properties has a part of its own. -/
theorem exists_part?_of_mem
    {members : List (String × Json)}
    (hType : fields.lookup "type" =
      some (.string Tag.object.name))
    (hProperties : fields.lookup "properties" =
      some (.object members))
    {m : String × Json}
    (hm : m ∈ members) :
    ∃ inner,
      part? (.property m.1) (.object fields) = some inner := by
  rw [part?, tag?_eq_some_iff.mpr hType, Option.bind_some,
    fieldPart?, given_of_lookup hProperties, Json.asObject?,
    Option.bind_some]
  cases hLookup : members.reverse.lookup m.1 with
  | some inner => exact ⟨inner, rfl⟩
  | none =>
      have hNone := List.lookup_eq_none_iff.mp hLookup m
        (List.mem_reverse.mpr hm)
      simp at hNone

theorem compileProperties_of_sameRequirements
    (hType : fields.lookup "type" =
      some (.string Tag.object.name))
    (h : SameRequirements fields fields') :
    compileProperties (partsOf (compile registry) fields')
        path =
      compileProperties (partsOf (compile registry) fields)
        path := by
  rcases h.lists with ⟨names, names', hList, hList', hNames⟩
  have hProperties := h.properties
  rw [compileProperties, compileProperties, partsOf_fields,
    partsOf_fields, requiredNames_of_lookup hList,
    requiredNames_of_lookup hList']
  dsimp only [bind, Except.bind, partsOf]
  generalize hLookup' : fields'.lookup "properties" = held' at *
  cases hLookup : fields.lookup "properties" with
  | none =>
      rw [hLookup] at hProperties
      cases hProperties
      rfl
  | some j =>
      rw [hLookup] at hProperties
      cases hProperties with
      | some hSame =>
          cases hSame with
          | members hMembers =>
              refine compileMembers_of_sameButFlag registry path
                hMembers fun m hm => ?_
              rcases exists_part?_of_mem hType hLookup hm with
                ⟨inner, hPart⟩
              exact hNames m.1 inner hPart

/-
  Definitions of objects with the same requirements are
  compiled to the same node.
-/
theorem compile_of_sameRequirements
    {schema : Schema}
    (hCompile : compile registry (.object fields) path =
      .ok schema)
    (h : SameRequirements fields fields') :
    compile registry (.object fields') path = .ok schema := by
  rcases h.lists with ⟨names, names', hList, hList', _⟩
  have hType := type_of_list hCompile hList
  have hFlag : ∀ tag,
      requiredFlag fields' path tag =
        requiredFlag fields path tag := by
    intro tag
    rw [requiredFlag, requiredFlag, hList, hList']
  rw [compile_object, compileParts, partsOf_fields] at hCompile
  rw [compile_object, compileParts, partsOf_fields,
    requireTag_congr
      (h.others "type" (by decide) (by decide)),
    flagField, textField,
    typed_congr (h.others "nullable" (by decide) (by decide)),
    typed_congr (h.others "message" (by decide) (by decide)),
    ← hCompile, requireTag_eq_ok_iff.mpr hType]
  dsimp only [bind, Except.bind, compileShape]
  rw [compileProperties_of_sameRequirements hType h]
  simp only [hFlag]
  rfl

end

------------------------------------------------------------
-- Lists of Required Names
------------------------------------------------------------

theorem required_setRequired_contains
    {name : String}
    {names : List String}
    (s : Schema) :
    (s.setRequired (names.contains name)).settings.required =
        true ↔
      name ∈ names := by
  rcases s with ⟨settings, shape⟩
  exact List.contains_iff_mem

/-
  Who decides, in a definition of an object, whether its
  properties are required:
    * a list of names sets the flag of each property to
      whether its name is in the list;
    * an object value that lacks a property has one error
      more than without its declaration if the name is in
      the list, and the same errors if it is not (the text
      does not tell, since a message in the definition of
      another property may read the same);
    * the order of the list, repeated names, names that are
      not declared and the flags in the definitions of the
      properties make no difference to the compiled node;
    * without a list, a property is required if its own
      definition says so;
    * a list of names in a definition does not make the node
      of this definition required.
-/
structure RequirementLaws
    (registry : Registry)
    (path : String)
    (fields : List (String × Json))
    (schema : Schema) : Prop where
  listed :
    ∀ names : List String,
      fields.lookup "required" =
          some (.array (names.map .string)) →
      ∀ name inner,
        part? (.property name) (.object fields) =
            some inner →
        ∃ own child,
          compile registry inner
              (under path ("properties." ++ name)) =
            .ok own ∧
          schema.part? (.property name) = some child ∧
          child = own.setRequired (names.contains name) ∧
          (child.settings.required = true ↔ name ∈ names)
  missing :
    ∀ names : List String,
      fields.lookup "required" =
          some (.array (names.map .string)) →
      ∀ name inner,
        part? (.property name) (.object fields) =
            some inner →
        ∀ values : List (String × Value),
          (Value.object values).get name = .undefined →
          ∃ before after,
            schema.verdict? (.object values) =
              some (.ofErrors
                (before ++
                  (if name ∈ names then
                    ["Validation failed for property '" ++
                      name ++ "': " ++ "Property is missing."]
                  else []) ++ after)) ∧
            (schema.undeclare name).verdict?
                (.object values) =
              some (.ofErrors (before ++ after))
  alike :
    ∀ fields', SameRequirements fields fields' →
      compile registry (.object fields') path = .ok schema
  unlisted :
    (∀ items,
      fields.lookup "required" ≠ some (.array items)) →
    ∀ name inner,
      part? (.property name) (.object fields) = some inner →
      ∃ child, schema.part? (.property name) = some child ∧
        (child.settings.required = true ↔
          inner.field? "required" = some (.bool true))
  nested :
    ∀ inner items,
      inner.field? "required" = some (.array items) →
      ∀ innerPath own,
        compile registry inner innerPath = .ok own →
        own.settings.required = false

/- Every definition that is compiled obeys the laws. -/
theorem requirementLaws
    (registry : Registry)
    (path : String)
    (fields : List (String × Json))
    (schema : Schema)
    (hCompile : compile registry (.object fields) path =
      .ok schema) :
    RequirementLaws registry path fields schema where
  listed names hList name inner hPart := by
    rcases part?_property_of_compile_eq_ok hCompile hPart
        (under path ("properties." ++ name)) with
      ⟨own, hOwn, hChild⟩
    rw [givenNames_of_lookup hList] at hChild
    exact ⟨own, _, hOwn, hChild, rfl,
      required_setRequired_contains own⟩
  missing names hList name inner hPart values hMissing := by
    rcases part?_property_of_compile_eq_ok hCompile hPart ""
      with ⟨own, _, hChild⟩
    rcases object_of_part?_property hCompile hPart with
      ⟨s, properties, rfl, hNodup⟩
    rcases verdict?_of_compile_eq_ok hCompile (.object values)
      with ⟨o, hOutcome⟩
    rw [givenNames_of_lookup hList] at hChild
    have hJudged :
        (Schema.node s (.object properties)).judgeWithin
            (fun _ => none) 0 (.object values) = some o :=
      hOutcome
    rcases Schema.judgeWithin_undeclare hNodup hChild hMissing
        hJudged with
      ⟨before, after, rfl, hUndeclared⟩
    refine ⟨before, after, hOutcome.trans ?_, hUndeclared⟩
    simp only [Option.map_some, Schema.setGiven,
      required_setRequired_contains]
    rfl
  alike _ h := compile_of_sameRequirements hCompile h
  unlisted hNoList name inner hPart := by
    rcases part?_property_of_compile_eq_ok hCompile hPart ""
      with ⟨own, hOwn, hChild⟩
    rw [givenNames_of_no_list hNoList] at hChild
    exact ⟨own, hChild, required_of_compile_eq_ok hOwn⟩
  nested inner items hList innerPath own hOwn := by
    rw [Bool.eq_false_iff, Ne, required_of_compile_eq_ok hOwn,
      hList]
    exact nofun

/-
  A parcel may have a label, which may be null, and an order,
  which has a list of its own. The names that are required
  are given, and the fields with which the definition of the
  label begins.
-/
def parcelFields
    (names : List String)
    (flag : List (String × Json)) : List (String × Json) :=
  [ ("properties", .object
      [ ("label", .object
          (flag ++
            [ ("schema", .object [("type", .string "string")]),
              ("type", .string "nullable") ])),
        ("order", orderDefinition) ]),
    ("required", .array (names.map .string)),
    ("type", .string "object") ]

theorem sameRequirements_parcel :
    SameRequirements
      (parcelFields ["order"] [("required", .bool true)])
      (parcelFields ["seal", "order", "order"] []) where
  others name hRequired hProperties := by
    simp [parcelFields, Fields.lookup_cons_of_ne hProperties,
      Fields.lookup_cons_of_ne hRequired]
  properties := by
    refine .some (.members (.cons ⟨rfl, .flag ?_ ?_ ?_⟩
      (.cons ⟨rfl, .same _⟩ .nil)))
    · intro name hName
      simp [Fields.lookup_cons_of_ne hName]
    · rintro j ⟨⟩
      exact ⟨true, rfl⟩
    · rintro j ⟨⟩
  lists := by
    refine ⟨_, _, rfl, rfl, fun name inner hPart => ?_⟩
    have hSeal : name ≠ "seal" := by
      rintro rfl
      cases hPart
    simp [hSeal]

/-
  The label is not required, although its definition says
  so, and the order is, although its definition does not. It
  does not matter what the label says, nor that a seal is
  asked for that no parcel has.
-/
theorem requirementLaws_parcel :
    ∃ schema,
      compile trimming
          (.object (parcelFields ["order"]
            [("required", .bool true)])) "parcel" =
        .ok schema ∧
      (∃ child, schema.part? (.property "label") = some child ∧
        child.settings.required = false) ∧
      (∃ before after,
        schema.verdict? (.object []) =
            some (.ofErrors (before ++
              ["Validation failed for property 'order': " ++
                "Property is missing."] ++ after)) ∧
          (schema.undeclare "order").verdict? (.object []) =
            some (.ofErrors (before ++ after))) ∧
      compile trimming
          (.object (parcelFields ["seal", "order", "order"]
            [])) "parcel" =
        .ok schema ∧
      ∀ own, compile trimming orderDefinition "order" =
          .ok own →
        own.settings.required = false := by
  refine ⟨_, rfl, ?_⟩
  have hLaws := requirementLaws trimming "parcel" _ _
    (rfl : compile trimming
      (.object (parcelFields ["order"]
        [("required", .bool true)])) "parcel" = .ok _)
  refine ⟨?_, ?_, ?_, ?_⟩
  · rcases hLaws.listed ["order"] rfl "label" _ rfl with
      ⟨_, child, _, hChild, _, hFlag⟩
    refine ⟨child, hChild, ?_⟩
    rw [Bool.eq_false_iff, Ne, hFlag]
    decide
  · exact hLaws.missing ["order"] rfl "order" _ rfl [] rfl
  · exact hLaws.alike _ sameRequirements_parcel
  · exact hLaws.nested orderDefinition _ rfl "order"

end Definition

end Conform
