import Conform.Proofs.Definition.Reading
import Conform.Proofs.Schema.Declaration

/-
  The schema that a definition stands for, put together with
  the functions that build schemas by hand: the tag says
  which function, the fields of the tag say which setters,
  and the definitions inside are put together in turn. No
  fault is looked for. What is compiled is this schema.

  Main declarations:
    * `Definition.assembleShape`
    * `Definition.assemble`
    * `Definition.assembled`
-/

namespace Conform

/- Uses a setter if there is something to set. -/
def Schema.setGiven
    {α : Type}
    (s : Schema)
    (set : α → Schema → Schema) : Option α → Schema
  | none => s
  | some a => set a s

namespace Definition

------------------------------------------------------------
-- Assembly
------------------------------------------------------------

/-
  Puts a schema together, given what the list of required
  names around the definition says, if there is one.
-/
abbrev Assembler :=
  Option Bool → Schema

/- What a field holds, if it holds what is expected. -/
def given
    {α : Type}
    (read? : Json → Option α)
    (fields : List (String × Json))
    (name : String) : Option α :=
  (fields.lookup name).bind read?

theorem given_of_lookup
    {α : Type}
    {read? : Json → Option α}
    {fields : List (String × Json)}
    {name : String}
    {j : Json}
    (h : fields.lookup name = some j) :
    given read? fields name = read? j := by
  rw [given, h, Option.bind_some]

/- The names that a list of names holds. -/
def givenNames
    (fields : List (String × Json)) : Option (List String) :=
  given (fun j => j.asArray?.bind (List.mapM Json.asString?))
    fields "required"

/- The mapping whose name is given. -/
def givenMapping
    (registry : Registry)
    (fields : List (String × Json)) : Option Mapping :=
  (given Json.asString? fields "transformFn").bind
    fun name => registry.find? name

/- The schema of the definition in a field. -/
def innerSchema
    (parts : Parts Assembler)
    (name : String) : Schema :=
  match parts.child? name with
  | some child => child none
  | none => Schema.any

/- The schemas of the definitions in a list. -/
def listedSchemas
    (parts : Parts Assembler)
    (name : String) : List Schema :=
  match parts.children? name with
  | some (some children) => children.map fun child => child none
  | _ => []

/-
  The schemas of the properties. If there is a list of
  required names, it tells each of them whether it is in it.
-/
def propertySchemas
    (parts : Parts Assembler) : List (String × Schema) :=
  match parts.members? "properties" with
  | some (some members) =>
      members.map fun m =>
        (m.1, m.2 ((givenNames parts.fields).map
          fun names => names.contains m.1))
  | _ => []

/- What a tag stands for. -/
def assembleShape
    (registry : Registry)
    (parts : Parts Assembler) : Tag → Schema
  | .string =>
      Schema.string
        |>.setGiven Schema.setMinLength
          (given Json.asLength? parts.fields "minLength")
        |>.setGiven Schema.setMaxLength
          (given Json.asLength? parts.fields "maxLength")
  | .number =>
      Schema.number
        |>.setGiven Schema.setLeast
          (given Json.asNumber? parts.fields "min")
        |>.setGiven Schema.setMost
          (given Json.asNumber? parts.fields "max")
        |>.setGiven
          (fun integer s => if integer then s.setInteger else s)
          (given Json.asBool? parts.fields "integer")
  | .boolean => Schema.boolean
  | .date =>
      Schema.date.setAcceptsText
        |>.setGiven Schema.setEarliest
          (given (fun j => j.asString?.bind Instant.ofText?)
            parts.fields "min")
        |>.setGiven Schema.setLatest
          (given (fun j => j.asString?.bind Instant.ofText?)
            parts.fields "max")
  | .any => Schema.any
  | .enumeration =>
      Schema.oneOf
        (((given Json.asArray? parts.fields
          "allowedValues").getD []).map Value.ofJson)
  | .literal =>
      Schema.literal
        (Value.ofJson
          ((parts.fields.lookup "value").getD .null))
  | .object =>
      (propertySchemas parts).foldl
        (fun s p => s.property p.1 p.2) Schema.object
  | .array =>
      Schema.array
        |>.setGiven (fun item s => s.setItems item)
          ((parts.child? "items").map fun child => child none)
        |>.setGiven Schema.setMinLength
          (given Json.asLength? parts.fields "minLength")
        |>.setGiven Schema.setMaxLength
          (given Json.asLength? parts.fields "maxLength")
  | .tuple => Schema.tuple (listedSchemas parts "schemas")
  | .union => Schema.union (listedSchemas parts "schemas")
  | .record =>
      Schema.record (innerSchema parts "keySchema")
        (innerSchema parts "valueSchema")
  | .nullable => Schema.nullable (innerSchema parts "schema")
  | .optional => Schema.optional (innerSchema parts "schema")
  | .mapped =>
      match givenMapping registry parts.fields with
      | some mapping =>
          Schema.mapped (innerSchema parts "schema") mapping
      | none => Schema.any
  | .lazy =>
      Schema.lazy (.known (innerSchema parts "schema"))
        |>.setGiven Schema.setPropertyName
          (given Json.asString? parts.fields "propertyName")

section

variable (registry : Registry)
variable (parts : Parts Assembler)

theorem assembleShape_string :
    assembleShape registry parts .string =
      .node {} (.leaf (.string
        (given Json.asLength? parts.fields "minLength")
        (given Json.asLength? parts.fields "maxLength"))) := by
  rw [assembleShape]
  cases given Json.asLength? parts.fields "minLength" <;>
    cases given Json.asLength? parts.fields "maxLength" <;> rfl

theorem assembleShape_number :
    assembleShape registry parts .number =
      .node {} (.leaf (.number
        (given Json.asNumber? parts.fields "min")
        (given Json.asNumber? parts.fields "max")
        ((given Json.asBool? parts.fields "integer").getD
          false))) := by
  rw [assembleShape]
  cases given Json.asNumber? parts.fields "min" <;>
    cases given Json.asNumber? parts.fields "max" <;>
    rcases given Json.asBool? parts.fields "integer" with
      _ | (_ | _) <;> rfl

theorem assembleShape_date :
    assembleShape registry parts .date =
      .node {} (.leaf (.date
        (given (fun j => j.asString?.bind Instant.ofText?)
          parts.fields "min")
        (given (fun j => j.asString?.bind Instant.ofText?)
          parts.fields "max")
        true)) := by
  rw [assembleShape]
  generalize given _ parts.fields "min" = earliest
  generalize given _ parts.fields "max" = latest
  cases earliest <;> cases latest <;> rfl

theorem assembleShape_object :
    assembleShape registry parts .object =
      .node {} (.object
        (Schema.declareAll (propertySchemas parts))) :=
  Schema.foldl_property_object (propertySchemas parts)

theorem assembleShape_array :
    assembleShape registry parts .array =
      .node {} (.array
        ((parts.child? "items").map fun child => child none)
        (given Json.asLength? parts.fields "minLength")
        (given Json.asLength? parts.fields "maxLength")) := by
  rw [assembleShape]
  cases parts.child? "items" <;>
    cases given Json.asLength? parts.fields "minLength" <;>
    cases given Json.asLength? parts.fields "maxLength" <;> rfl

theorem assembleShape_mapped
    {name : String}
    {mapping : Mapping}
    (hName : parts.fields.lookup "transformFn" =
      some (.string name))
    (hFind : registry.find? name = some mapping) :
    assembleShape registry parts .mapped =
      Schema.mapped (innerSchema parts "schema") mapping := by
  have hMapping :
      givenMapping registry parts.fields = some mapping := by
    rw [givenMapping, given_of_lookup hName]
    exact hFind
  rw [assembleShape, hMapping]

theorem assembleShape_lazy :
    assembleShape registry parts .lazy =
      .node {} (.lazy (.known (innerSchema parts "schema"))
        (given Json.asString? parts.fields
          "propertyName")) := by
  rw [assembleShape]
  cases given Json.asString? parts.fields "propertyName" <;>
    rfl

end

/- The tag that a definition has. -/
def tag?
    (fields : List (String × Json)) : Option Tag :=
  (given Json.asString? fields "type").bind Tag.ofName?

/-
  Sets what every definition may set: whether null is
  accepted, whether a value is required, unless the list of
  required names around the definition says so already, and
  a message.
-/
def finish
    (fields : List (String × Json))
    (listed : Option Bool)
    (s : Schema) : Schema :=
  s
    |>.setGiven Schema.setNullable
      (given Json.asBool? fields "nullable")
    |>.setRequired (listed.getD
      ((given Json.asBool? fields "required").getD false))
    |>.setGiven Schema.setMessage
      (given Json.asString? fields "message")

/- What is set where a definition is finished. -/
theorem finish_eq
    (fields : List (String × Json))
    (listed : Option Bool)
    (s : Schema) :
    finish fields listed s =
      s.mapSettings fun t =>
        { t with
          nullable :=
            (given Json.asBool? fields "nullable").getD
              t.nullable
          required := listed.getD
            ((given Json.asBool? fields "required").getD false)
          message :=
            (given Json.asString? fields "message").or
              t.message } := by
  rcases s with ⟨settings, shape⟩
  rw [finish]
  cases given Json.asBool? fields "nullable" <;>
    cases given Json.asString? fields "message" <;> rfl

/- Puts the schema of a definition together. -/
def assembleParts
    (registry : Registry)
    (parts : Parts Assembler) : Assembler :=
  fun listed =>
    match tag? parts.fields with
    | none => Schema.any
    | some tag =>
        finish parts.fields listed
          (assembleShape registry parts tag)

/- The schema that a definition stands for. -/
def assemble
    (registry : Registry) : Json → Assembler :=
  fold (assembleParts registry) fun _ => Schema.any

theorem assemble_object
    (registry : Registry)
    (fields : List (String × Json)) :
    assemble registry (.object fields) =
      assembleParts registry
        (partsOf (assemble registry) fields) :=
  fold_object _ _ fields

------------------------------------------------------------
-- Fields
------------------------------------------------------------

section

variable {fields : List (String × Json)}
variable {path name : String}

/- What is read of a field is what is given in it. -/
theorem eq_given_of_typed_eq_ok
    {α : Type}
    {expected : Expected}
    {read? : Json → Option α}
    {contents : Option α}
    (h : typed expected read? fields path name =
      .ok contents) :
    contents = given read? fields name :=
  (typed_eq_ok_iff.mp h).2

theorem tag?_eq_some_iff
    {tag : Tag} :
    tag? fields = some tag ↔
      fields.lookup "type" = some (.string tag.name) := by
  unfold tag? given
  cases fields.lookup "type" with
  | none => simp
  | some j =>
      cases j <;> simp [Json.asString?, ofName?_eq_some_iff]

theorem eq_givenNames_of_requiredNames_eq_ok
    {names : Option (List String)}
    (h : requiredNames fields path = .ok names) :
    names = givenNames fields := by
  unfold requiredNames at h
  unfold givenNames given
  cases hLookup : fields.lookup "required" with
  | none => simpa [hLookup, eq_comm] using h
  | some j =>
      cases j with
      | array items =>
          cases hRead : items.mapM Json.asString? with
          | none => simp [hLookup, hRead] at h
          | some found =>
              simpa [hLookup, hRead, Json.asArray?, eq_comm]
                using h
      | _ => simpa [hLookup, Json.asArray?, eq_comm] using h

theorem eq_given_of_requiredFlag_eq_ok
    {tag : Tag}
    {flag : Bool}
    (h : requiredFlag fields path tag = .ok flag) :
    flag =
      (given Json.asBool? fields "required").getD false := by
  unfold requiredFlag at h
  unfold given
  cases hLookup : fields.lookup "required" with
  | none => simpa [hLookup, eq_comm] using h
  | some j =>
      cases j with
      | bool b => simpa [hLookup, Json.asBool?, eq_comm] using h
      | array items =>
          by_cases hTag : tag = .object
          · simpa [hLookup, hTag, Json.asBool?, eq_comm] using h
          · simp [hLookup, hTag] at h
      | _ => simp [hLookup] at h

end

------------------------------------------------------------
-- Definitions Inside a Definition
------------------------------------------------------------

/-
  What is compiled of data is what it stands for. A list of
  required names, which the compiled schema does not see,
  decides afterwards.
-/
def Assembled
    (registry : Registry)
    (j : Json) : Prop :=
  ∀ path schema, compile registry j path = .ok schema →
    ∀ listed, schema.setGiven Schema.setRequired listed =
      assemble registry j listed

section

variable {registry : Registry}
variable {fields : List (String × Json)}
variable {path name : String}

theorem Assembled.eq_none
    {j : Json}
    {schema : Schema}
    (h : Assembled registry j)
    (hCompile : compile registry j path = .ok schema) :
    schema = assemble registry j none :=
  h path schema hCompile none

theorem eq_innerSchema_of_requireChild_eq_ok
    (hParts : ∀ j, Part fields j → Assembled registry j)
    {schema : Schema}
    (h : requireChild (partsOf (compile registry) fields) path
      name = .ok schema) :
    schema = innerSchema (partsOf (assemble registry) fields)
      name := by
  rcases requireChild_eq_ok_iff.mp h with
    ⟨j, hLookup, hCompile⟩
  rw [(hParts j (.field hLookup)).eq_none hCompile]
  simp [innerSchema, partsOf, hLookup]

theorem eq_child_of_optionalChild_eq_ok
    (hParts : ∀ j, Part fields j → Assembled registry j)
    {schema : Option Schema}
    (h : optionalChild (partsOf (compile registry) fields) path
      name = .ok schema) :
    schema =
      ((partsOf (assemble registry) fields).child? name).map
        fun child => child none := by
  unfold optionalChild at h
  cases hLookup : fields.lookup name with
  | none => simpa [partsOf, hLookup, eq_comm] using h
  | some j =>
      simp only [partsOf, hLookup, Option.map_some] at h
      rcases map_eq_ok_iff.mp h with ⟨c, hCompile, rfl⟩
      rw [(hParts j (.field hLookup)).eq_none hCompile]
      simp [partsOf, hLookup]

theorem eq_map_of_compileEach_eq_ok
    {items : List Json}
    (hItems : ∀ j ∈ items, Assembled registry j)
    {i : Nat}
    {schemas : List Schema}
    (h : compileEach path name i
      (items.map (compile registry)) = .ok schemas) :
    schemas = items.map fun j => assemble registry j none := by
  induction items generalizing i schemas with
  | nil => simpa [compileEach, eq_comm] using h
  | cons j rest ih =>
      rw [List.map_cons, compileEach] at h
      rcases bind_eq_ok_iff.mp h with ⟨first, hFirst, hRest⟩
      rcases bind_eq_ok_iff.mp hRest with
        ⟨others, hOthers, hAll⟩
      have hHead :=
        (hItems j List.mem_cons_self).eq_none hFirst
      have hTail := ih
        (fun k hk => hItems k (List.mem_cons_of_mem j hk))
        hOthers
      cases hAll
      rw [List.map_cons, hHead, hTail]

theorem eq_listedSchemas_of_requireChildren_eq_ok
    (hParts : ∀ j, Part fields j → Assembled registry j)
    {schemas : List Schema}
    (h : requireChildren (partsOf (compile registry) fields)
      path name = .ok schemas) :
    schemas =
      listedSchemas (partsOf (assemble registry) fields)
        name := by
  rcases bind_eq_ok_iff.mp h with ⟨list, hList, hCompile⟩
  rcases Option.map_eq_some_iff.mp
    (present_eq_ok_iff.mp hList) with ⟨j, hLookup, rfl⟩
  cases j with
  | array items =>
      rw [eq_map_of_compileEach_eq_ok
        (fun k hk => hParts k (.item hLookup hk)) hCompile]
      simp [listedSchemas, partsOf, hLookup, Json.asArray?]
  | _ => cases hCompile

theorem eq_map_of_compileMembers_eq_ok
    {members : List (String × Json)}
    (hMembers : ∀ m ∈ members, Assembled registry m.2)
    {required : Option (List String)}
    {properties : List (String × Schema)}
    (h : compileMembers path required
      (members.map fun m => (m.1, compile registry m.2)) =
        .ok properties) :
    properties = members.map fun m =>
      (m.1, assemble registry m.2
        (required.map fun names => names.contains m.1)) := by
  induction members generalizing properties with
  | nil => simpa [compileMembers, eq_comm] using h
  | cons m rest ih =>
      rw [List.map_cons, compileMembers] at h
      rcases bind_eq_ok_iff.mp h with ⟨first, hFirst, hRest⟩
      rcases bind_eq_ok_iff.mp hRest with
        ⟨others, hOthers, hAll⟩
      have hHead := hMembers m List.mem_cons_self _ first hFirst
        (required.map fun names => names.contains m.1)
      have hTail := ih
        (fun k hk => hMembers k (List.mem_cons_of_mem m hk))
        hOthers
      cases hAll
      rw [List.map_cons, ← hHead, hTail]
      cases required <;> rfl

theorem eq_propertySchemas_of_compileProperties_eq_ok
    (hParts : ∀ j, Part fields j → Assembled registry j)
    {properties : List (String × Schema)}
    (h : compileProperties (partsOf (compile registry) fields)
      path = .ok properties) :
    properties =
      propertySchemas (partsOf (assemble registry) fields) := by
  rcases bind_eq_ok_iff.mp h with ⟨names, hNames, hCompile⟩
  have hGiven := eq_givenNames_of_requiredNames_eq_ok hNames
  cases hLookup : fields.lookup "properties" with
  | none =>
      simp only [partsOf, hLookup, Option.map_none,
        Except.ok.injEq] at hCompile
      simp [propertySchemas, partsOf, hLookup, ← hCompile]
  | some j =>
      cases j with
      | object members =>
          simp only [partsOf, hLookup, Option.map_some,
            Json.asObject?] at hCompile
          rw [eq_map_of_compileMembers_eq_ok
            (fun m hm => hParts m.2 (.member hLookup hm))
            hCompile, hGiven]
          simp [propertySchemas, partsOf, hLookup,
            Json.asObject?]
      | _ => simp [partsOf, hLookup, Json.asObject?] at hCompile

------------------------------------------------------------
-- Nodes
------------------------------------------------------------

/- What is compiled for a tag is what the tag stands for. -/
theorem eq_assembleShape_of_compileShape_eq_ok
    (hParts : ∀ j, Part fields j → Assembled registry j)
    {tag : Tag}
    {schema : Schema}
    (h : compileShape registry
      (partsOf (compile registry) fields) path tag =
        .ok schema) :
    schema = assembleShape registry
      (partsOf (assemble registry) fields) tag := by
  cases tag with
  | string =>
      rcases bind_eq_ok_iff.mp h with ⟨least, hLeast, hRest⟩
      rcases bind_eq_ok_iff.mp hRest with ⟨most, hMost, hAll⟩
      cases hAll
      rw [eq_given_of_typed_eq_ok hLeast,
        eq_given_of_typed_eq_ok hMost, assembleShape_string]
      rfl
  | number =>
      rcases bind_eq_ok_iff.mp h with ⟨least, hLeast, hRest⟩
      rcases bind_eq_ok_iff.mp hRest with ⟨most, hMost, hRest⟩
      rcases bind_eq_ok_iff.mp hRest with
        ⟨integer, hInteger, hAll⟩
      cases hAll
      rw [eq_given_of_typed_eq_ok hLeast,
        eq_given_of_typed_eq_ok hMost,
        eq_given_of_typed_eq_ok hInteger, assembleShape_number]
      rfl
  | boolean =>
      cases h
      rfl
  | date =>
      rcases bind_eq_ok_iff.mp h with
        ⟨earliest, hEarliest, hRest⟩
      rcases bind_eq_ok_iff.mp hRest with
        ⟨latest, hLatest, hAll⟩
      cases hAll
      rw [eq_given_of_typed_eq_ok hEarliest,
        eq_given_of_typed_eq_ok hLatest, assembleShape_date]
      rfl
  | any =>
      cases h
      rfl
  | enumeration =>
      rcases bind_eq_ok_iff.mp h with ⟨allowed, hAllowed, hAll⟩
      cases hAll
      have hLookup := requireList_eq_ok_iff.mp hAllowed
      simp only [partsOf] at hLookup
      simp [assembleShape, partsOf, given_of_lookup hLookup,
        Json.asArray?]
  | literal =>
      rcases bind_eq_ok_iff.mp h with
        ⟨expected, hExpected, hAll⟩
      cases hAll
      have hLookup := present_eq_ok_iff.mp hExpected
      simp only [partsOf] at hLookup
      simp [assembleShape, partsOf, hLookup]
  | object =>
      rcases bind_eq_ok_iff.mp h with
        ⟨properties, hProperties, hAll⟩
      cases hAll
      rw [eq_propertySchemas_of_compileProperties_eq_ok hParts
        hProperties, assembleShape]
  | array =>
      rcases bind_eq_ok_iff.mp h with ⟨items, hItems, hRest⟩
      rcases bind_eq_ok_iff.mp hRest with ⟨least, hLeast, hRest⟩
      rcases bind_eq_ok_iff.mp hRest with ⟨most, hMost, hAll⟩
      cases hAll
      rw [eq_child_of_optionalChild_eq_ok hParts hItems,
        eq_given_of_typed_eq_ok hLeast,
        eq_given_of_typed_eq_ok hMost, assembleShape_array]
      rfl
  | tuple =>
      rcases bind_eq_ok_iff.mp h with
        ⟨elements, hElements, hAll⟩
      cases hAll
      rw [eq_listedSchemas_of_requireChildren_eq_ok hParts
        hElements, assembleShape]
  | union =>
      rcases bind_eq_ok_iff.mp h with ⟨options, hOptions, hAll⟩
      cases hAll
      rw [eq_listedSchemas_of_requireChildren_eq_ok hParts
        hOptions, assembleShape]
  | record =>
      rcases bind_eq_ok_iff.mp h with ⟨keys, hKeys, hRest⟩
      rcases bind_eq_ok_iff.mp hRest with
        ⟨contents, hContents, hAll⟩
      cases hAll
      rw [eq_innerSchema_of_requireChild_eq_ok hParts hKeys,
        eq_innerSchema_of_requireChild_eq_ok hParts hContents,
        assembleShape]
  | nullable =>
      rcases bind_eq_ok_iff.mp h with ⟨inner, hInner, hAll⟩
      cases hAll
      rw [eq_innerSchema_of_requireChild_eq_ok hParts hInner,
        assembleShape]
  | optional =>
      rcases bind_eq_ok_iff.mp h with ⟨inner, hInner, hAll⟩
      cases hAll
      rw [eq_innerSchema_of_requireChild_eq_ok hParts hInner,
        assembleShape]
  | mapped =>
      rcases bind_eq_ok_iff.mp h with ⟨inner, hInner, hRest⟩
      rcases bind_eq_ok_iff.mp hRest with ⟨text, hText, hRest⟩
      rcases bind_eq_ok_iff.mp hRest with
        ⟨mapping, hMapping, hAll⟩
      cases hAll
      rw [eq_innerSchema_of_requireChild_eq_ok hParts hInner,
        assembleShape_mapped _ _
          (requireText_eq_ok_iff.mp hText)
          (requireMapping_eq_ok_iff.mp hMapping)]
  | lazy =>
      rcases bind_eq_ok_iff.mp h with ⟨inner, hInner, hRest⟩
      rcases bind_eq_ok_iff.mp hRest with
        ⟨property, hProperty, hAll⟩
      cases hAll
      rw [eq_innerSchema_of_requireChild_eq_ok hParts hInner,
        eq_given_of_typed_eq_ok hProperty, assembleShape_lazy]
      rfl

end

/- A node has no message before one is set. -/
theorem message_assembleShape
    (registry : Registry)
    (parts : Parts Assembler)
    (tag : Tag) :
    (assembleShape registry parts tag).settings.message =
      none := by
  cases tag with
  | string =>
      rw [assembleShape_string]
      rfl
  | number =>
      rw [assembleShape_number]
      rfl
  | date =>
      rw [assembleShape_date]
      rfl
  | object =>
      rw [assembleShape_object]
      rfl
  | array =>
      rw [assembleShape_array]
      rfl
  | mapped =>
      rw [assembleShape]
      split <;> rfl
  | lazy =>
      rw [assembleShape_lazy]
      rfl
  | _ => rfl

/-
  A definition is compiled to the schema that it stands for.
  The induction is on the definition. The flag of a property
  is set twice, by its own definition and by the list around
  it, and the statement covers both at once.
-/
theorem assembled
    (registry : Registry)
    (definition : Json) :
    Assembled registry definition := by
  induction definition using part_induct with
  | other j hOther =>
      intro path schema h
      rcases object_of_compile_eq_ok registry h with
        ⟨fields, hObject⟩
      exact absurd hObject (hOther fields)
  | object fields ih =>
      intro path schema h listed
      rw [compile_object] at h
      rcases bind_eq_ok_iff.mp h with ⟨tag, hTag, hRest⟩
      rcases bind_eq_ok_iff.mp hRest with ⟨node, hNode, hRest⟩
      rcases bind_eq_ok_iff.mp hRest with
        ⟨nullable, hNullable, hRest⟩
      rcases bind_eq_ok_iff.mp hRest with
        ⟨required, hRequired, hRest⟩
      rcases bind_eq_ok_iff.mp hRest with
        ⟨message, hMessage, hAll⟩
      rw [partsOf_fields] at hTag hNullable hRequired hMessage
      have hFound : tag? fields = some tag :=
        tag?_eq_some_iff.mpr (requireTag_eq_ok_iff.mp hTag)
      have hShape :=
        eq_assembleShape_of_compileShape_eq_ok ih hNode
      have hNone : node.settings.message = none := by
        rw [hShape]
        exact message_assembleShape registry _ tag
      rw [assemble_object, assembleParts]
      simp only [partsOf_fields, hFound]
      rw [← hShape, finish, ← eq_given_of_typed_eq_ok hNullable,
        ← eq_given_of_requiredFlag_eq_ok hRequired,
        ← eq_given_of_typed_eq_ok hMessage]
      rcases node with ⟨⟨n, r, m, rules⟩, shape⟩
      cases hNone
      cases hAll
      cases nullable <;> cases listed <;> cases message <;> rfl

end Definition

end Conform
