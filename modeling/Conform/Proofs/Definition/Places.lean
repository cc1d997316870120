import Conform.Proofs.Definition.Assembly
import Conform.Proofs.Definition.Grammar

/-
  Places inside a definition and inside a schema. The part
  of a schema at a place is what the part of the definition
  at the same place stands for, so both have the same places
  and what is at a place has the same kind in both.

  Main declarations:
    * `Place`
    * `Definition.part?` and `Schema.part?`
    * `Definition.parts?` and `Schema.parts?`
    * `Definition.part?_assemble`
    * `Definition.kind_parts?_assemble`
-/

namespace Conform

------------------------------------------------------------
-- Places
------------------------------------------------------------

/-
  A place directly below a node: a property of an object, the
  items of an array, an element of a tuple or an option of a
  union, the names or the contents of a record, and the node
  inside a wrapper.
-/
inductive Place
  | property (name : String)
  | items
  | element (i : Nat)
  | keys
  | contents
  | inner

/- The schema at a place of a schema. -/
def Shape.part? : Place → Shape → Option Schema
  | .property name, .object properties =>
      properties.lookup name
  | .items, .array items _ _ => items
  | .element i, .tuple elements => elements[i]?
  | .element i, .union options => options[i]?
  | .keys, .record keys _ => some keys
  | .contents, .record _ contents => some contents
  | .inner, .nullable inner => some inner
  | .inner, .optional inner => some inner
  | .inner, .mapped _ inner => some inner
  | .inner, .lazy (.known inner) _ => some inner
  | _, _ => none

def Schema.part?
    (place : Place)
    (s : Schema) : Option Schema :=
  s.shape.part? place

/- The schema at a place of a place, and so on. -/
def Schema.parts?
    (places : List Place)
    (s : Schema) : Option Schema :=
  places.foldlM (fun s place => s.part? place) s

namespace Definition

/-
  The definition at a place of a definition with a given
  tag. Of several properties of one name the last counts.
-/
def fieldPart?
    (fields : List (String × Json)) :
    Place → Tag → Option Json
  | .property name, .object =>
      (given Json.asObject? fields "properties").bind
        fun members => members.reverse.lookup name
  | .items, .array => fields.lookup "items"
  | .element i, .tuple =>
      (given Json.asArray? fields "schemas").bind
        fun items => items[i]?
  | .element i, .union =>
      (given Json.asArray? fields "schemas").bind
        fun items => items[i]?
  | .keys, .record => fields.lookup "keySchema"
  | .contents, .record => fields.lookup "valueSchema"
  | .inner, .nullable => fields.lookup "schema"
  | .inner, .optional => fields.lookup "schema"
  | .inner, .mapped => fields.lookup "schema"
  | .inner, .lazy => fields.lookup "schema"
  | _, _ => none

/- The definition at a place of a definition. -/
def part?
    (place : Place) : Json → Option Json
  | .object fields =>
      (tag? fields).bind (fieldPart? fields place)
  | _ => none

/- The definition at a place of a place, and so on. -/
def parts?
    (places : List Place)
    (definition : Json) : Option Json :=
  places.foldlM (fun j place => part? place j) definition

/-
  What the list of required names around the definition at a
  place says about it.
-/
def listedAt
    (fields : List (String × Json)) : Place → Option Bool
  | .property name =>
      (givenNames fields).map fun names => names.contains name
  | _ => none

/- The text by which a definition says what it declares. -/
def typeName?
    (definition : Json) : Option String :=
  (definition.field? "type").bind Json.asString?

------------------------------------------------------------
-- Shapes of Nodes
------------------------------------------------------------

/- What every definition may set does not change the shape. -/
theorem shape_finish
    (fields : List (String × Json))
    (listed : Option Bool)
    (s : Schema) :
    (finish fields listed s).shape = s.shape := by
  rcases s with ⟨settings, shape⟩
  rw [finish_eq]
  rfl

/- A definition has the shape that its tag stands for. -/
theorem shape_assemble
    {registry : Registry}
    {tag : Tag}
    {fields : List (String × Json)}
    (hType : fields.lookup "type" = some (.string tag.name))
    (listed : Option Bool) :
    (assemble registry (.object fields) listed).shape =
      (assembleShape registry
        (partsOf (assemble registry) fields) tag).shape := by
  rw [assemble_object, assembleParts]
  simp only [partsOf_fields, tag?_eq_some_iff.mpr hType]
  exact shape_finish _ _ _

section

variable {registry : Registry}
variable {fields : List (String × Json)}

theorem innerSchema_of_lookup
    {name : String}
    {j : Json}
    (h : fields.lookup name = some j) :
    innerSchema (partsOf (assemble registry) fields) name =
      assemble registry j none := by
  simp [innerSchema, partsOf, h]

theorem listedSchemas_of_lookup
    {name : String}
    {items : List Json}
    (h : fields.lookup name = some (.array items)) :
    listedSchemas (partsOf (assemble registry) fields) name =
      items.map fun j => assemble registry j none := by
  simp [listedSchemas, partsOf, h, Json.asArray?]

theorem propertySchemas_of_lookup
    {members : List (String × Json)}
    (h : fields.lookup "properties" =
      some (.object members)) :
    propertySchemas (partsOf (assemble registry) fields) =
      members.map fun m => (m.1, assemble registry m.2
        (listedAt fields (.property m.1))) := by
  simp [propertySchemas, partsOf, h, Json.asObject?, listedAt]

theorem propertySchemas_of_lookup_none
    (h : fields.lookup "properties" = none) :
    propertySchemas (partsOf (assemble registry) fields) =
      [] := by
  simp [propertySchemas, partsOf, h]

end

------------------------------------------------------------
-- Parts
------------------------------------------------------------

/- What is found under a name does not depend on the others. -/
theorem lookup_map_members
    {α β : Type}
    (f : String → α → β)
    (members : List (String × α))
    (name : String) :
    (members.map fun m => (m.1, f m.1 m.2)).lookup name =
      (members.lookup name).map (f name) := by
  induction members with
  | nil => rfl
  | cons m rest ih =>
      rcases m with ⟨n, a⟩
      by_cases hName : name = n
      · simp [hName]
      · simpa [Fields.lookup_cons_of_ne hName] using ih

/-
  The part of a node at a place is what the part of its
  definition at the same place stands for.
-/
theorem part?_assembleShape
    {registry : Registry}
    {good : Json → Prop}
    {tag : Tag}
    {fields : List (String × Json)}
    (hBody : Body registry good tag fields)
    (place : Place) :
    (assembleShape registry (partsOf (assemble registry) fields)
        tag).part? place =
      (fieldPart? fields place tag).map fun j =>
        assemble registry j (listedAt fields place) := by
  cases hBody with
  | string =>
      rw [assembleShape_string]
      cases place <;> rfl
  | number =>
      rw [assembleShape_number]
      cases place <;> rfl
  | date =>
      rw [assembleShape_date]
      cases place <;> rfl
  | boolean => cases place <;> rfl
  | any => cases place <;> rfl
  | enumeration => cases place <;> rfl
  | literal => cases place <;> rfl
  | bareObject hProperties =>
      rw [assembleShape_object, propertySchemas_of_lookup_none
        hProperties]
      cases place with
      | property name =>
          simp [fieldPart?, given, hProperties, Schema.part?,
            Schema.shape, Schema.declareAll, Shape.part?]
      | _ => rfl
  | object hProperties =>
      rw [assembleShape_object,
        propertySchemas_of_lookup hProperties]
      cases place with
      | property name =>
          show (Schema.declareAll _).lookup name = _
          rw [Schema.lookup_declareAll, ← List.map_reverse,
            lookup_map_members fun n j => assemble registry j
              (listedAt fields (.property n))]
          simp [fieldPart?, given_of_lookup hProperties,
            Json.asObject?]
      | _ => rfl
  | array =>
      rw [assembleShape_array]
      cases place with
      | items =>
          show Option.map _ (Option.map _ _) = _
          rw [Option.map_map]
          rfl
      | _ => rfl
  | tuple hSchemas =>
      rw [assembleShape, listedSchemas_of_lookup hSchemas]
      cases place with
      | element i =>
          show (List.map _ _)[i]? = _
          simp [fieldPart?, given_of_lookup hSchemas,
            Json.asArray?, listedAt]
      | _ => rfl
  | union hSchemas =>
      rw [assembleShape, listedSchemas_of_lookup hSchemas]
      cases place with
      | element i =>
          show (List.map _ _)[i]? = _
          simp [fieldPart?, given_of_lookup hSchemas,
            Json.asArray?, listedAt]
      | _ => rfl
  | record hKeys hContents =>
      rw [assembleShape, innerSchema_of_lookup hKeys,
        innerSchema_of_lookup hContents]
      cases place with
      | keys =>
          rw [fieldPart?, hKeys]
          rfl
      | contents =>
          rw [fieldPart?, hContents]
          rfl
      | _ => rfl
  | nullable hInner =>
      rw [assembleShape, innerSchema_of_lookup hInner]
      cases place with
      | inner =>
          rw [fieldPart?, hInner]
          rfl
      | _ => rfl
  | optional hInner =>
      rw [assembleShape, innerSchema_of_lookup hInner]
      cases place with
      | inner =>
          rw [fieldPart?, hInner]
          rfl
      | _ => rfl
  | mapped hInner _ hName hMapping =>
      rcases Option.isSome_iff_exists.mp hMapping with
        ⟨mapping, hFind⟩
      rw [assembleShape_mapped _ _ hName hFind,
        innerSchema_of_lookup hInner]
      cases place with
      | inner =>
          rw [fieldPart?, hInner]
          rfl
      | _ => rfl
  | lazy hInner =>
      rw [assembleShape_lazy, innerSchema_of_lookup hInner]
      cases place with
      | inner =>
          rw [fieldPart?, hInner]
          rfl
      | _ => rfl

/- The kind of a node is the one that its tag names. -/
theorem kind_assembleShape
    {registry : Registry}
    {good : Json → Prop}
    {tag : Tag}
    {fields : List (String × Json)}
    (hBody : Body registry good tag fields) :
    (assembleShape registry (partsOf (assemble registry) fields)
        tag).kind = tag.name := by
  cases hBody with
  | string =>
      rw [assembleShape_string]
      rfl
  | number =>
      rw [assembleShape_number]
      rfl
  | date =>
      rw [assembleShape_date]
      rfl
  | bareObject =>
      rw [assembleShape_object]
      rfl
  | object =>
      rw [assembleShape_object]
      rfl
  | array =>
      rw [assembleShape_array]
      rfl
  | mapped _ _ hName hMapping =>
      rcases Option.isSome_iff_exists.mp hMapping with
        ⟨mapping, hFind⟩
      rw [assembleShape_mapped _ _ hName hFind]
      rfl
  | lazy =>
      rw [assembleShape_lazy]
      rfl
  | _ => rfl

------------------------------------------------------------
-- Well-Formed Definitions
------------------------------------------------------------

/- The parts that a tag asks for are as it asks. -/
theorem good_of_fieldPart?_eq_some
    {registry : Registry}
    {good : Json → Prop}
    {tag : Tag}
    {fields : List (String × Json)}
    (hBody : Body registry good tag fields)
    {place : Place}
    {j : Json}
    (h : fieldPart? fields place tag = some j) :
    good j := by
  cases hBody with
  | bareObject hProperties =>
      cases place with
      | property name =>
          simp [fieldPart?, given, hProperties] at h
      | _ => cases h
  | object hProperties hMembers =>
      cases place with
      | property name =>
          rw [fieldPart?, given_of_lookup hProperties,
            Json.asObject?, Option.bind_some] at h
          have hMember := Fields.mem_of_lookup h
          exact hMembers _ (List.mem_reverse.mp hMember)
      | _ => cases h
  | array hItems =>
      cases place with
      | items => exact hItems j h
      | _ => cases h
  | tuple hSchemas hGood =>
      cases place with
      | element i =>
          rw [fieldPart?, given_of_lookup hSchemas,
            Json.asArray?, Option.bind_some] at h
          exact hGood j (List.mem_of_getElem? h)
      | _ => cases h
  | union hSchemas hGood =>
      cases place with
      | element i =>
          rw [fieldPart?, given_of_lookup hSchemas,
            Json.asArray?, Option.bind_some] at h
          exact hGood j (List.mem_of_getElem? h)
      | _ => cases h
  | record hKeys hContents hGoodKeys hGoodContents =>
      cases place with
      | keys =>
          rw [fieldPart?, hKeys] at h
          exact Option.some.inj h ▸ hGoodKeys
      | contents =>
          rw [fieldPart?, hContents] at h
          exact Option.some.inj h ▸ hGoodContents
      | _ => cases h
  | nullable hInner hGood =>
      cases place with
      | inner =>
          rw [fieldPart?, hInner] at h
          exact Option.some.inj h ▸ hGood
      | _ => cases h
  | optional hInner hGood =>
      cases place with
      | inner =>
          rw [fieldPart?, hInner] at h
          exact Option.some.inj h ▸ hGood
      | _ => cases h
  | mapped hInner hGood =>
      cases place with
      | inner =>
          rw [fieldPart?, hInner] at h
          exact Option.some.inj h ▸ hGood
      | _ => cases h
  | lazy hInner hGood =>
      cases place with
      | inner =>
          rw [fieldPart?, hInner] at h
          exact Option.some.inj h ▸ hGood
      | _ => cases h
  | _ => cases place <;> cases h

/- The parts of well-formed definitions are well formed. -/
theorem WellFormed.part
    {registry : Registry}
    {definition j : Json}
    (h : WellFormed registry definition)
    {place : Place}
    (hPart : part? place definition = some j) :
    WellFormed registry j := by
  cases h with
  | definition hHeader hBody =>
      rw [part?, tag?_eq_some_iff.mpr hHeader.type,
        Option.bind_some] at hPart
      exact good_of_fieldPart?_eq_some hBody hPart

/-
  The parts of the schema of a well-formed definition are
  what the parts of the definition stand for, where the list
  of required names says what it says about them.
-/
theorem part?_assemble_object
    {registry : Registry}
    {fields : List (String × Json)}
    (h : WellFormed registry (.object fields))
    (listed : Option Bool)
    (place : Place) :
    (assemble registry (.object fields) listed).part? place =
      (part? place (.object fields)).map fun j =>
        assemble registry j (listedAt fields place) := by
  cases h with
  | definition hHeader hBody =>
      rw [Schema.part?, shape_assemble hHeader.type, part?,
        tag?_eq_some_iff.mpr hHeader.type, Option.bind_some]
      exact part?_assembleShape hBody place

/-
  A well-formed definition and its schema have the same
  parts, up to what the parts of the definition stand for.
-/
theorem part?_assemble
    {registry : Registry}
    {definition : Json}
    (h : WellFormed registry definition)
    (listed : Option Bool)
    (place : Place) :
    ∃ listedThere,
      (assemble registry definition listed).part? place =
        (part? place definition).map fun j =>
          assemble registry j listedThere := by
  cases h with
  | @definition tag fields hHeader hBody =>
      exact ⟨listedAt fields place, part?_assemble_object
        (.definition hHeader hBody) listed place⟩

theorem kind_assemble
    {registry : Registry}
    {definition : Json}
    (h : WellFormed registry definition)
    (listed : Option Bool) :
    typeName? definition =
      some (assemble registry definition listed).kind := by
  cases h with
  | @definition tag fields hHeader hBody =>
      rw [Schema.kind, shape_assemble hHeader.type]
      show (fields.lookup "type").bind _ = some _
      rw [hHeader.type]
      exact congrArg some (kind_assembleShape hBody).symm

/-
  What is at a chain of places has the same kind in a
  definition and in its schema, and nothing is there in the
  one if nothing is there in the other. The induction is on
  the chain.
-/
theorem kind_parts?_assemble
    {registry : Registry}
    {definition : Json}
    (h : WellFormed registry definition)
    (listed : Option Bool)
    (places : List Place) :
    ((assemble registry definition listed).parts? places).map
        Schema.kind =
      (parts? places definition).bind typeName? := by
  induction places generalizing definition listed with
  | nil => exact (kind_assemble h listed).symm
  | cons place rest ih =>
      rcases part?_assemble h listed place with
        ⟨listedThere, hPart⟩
      rw [Schema.parts?, parts?, List.foldlM_cons,
        List.foldlM_cons, hPart]
      cases hFound : part? place definition with
      | none => rfl
      | some j => exact ih (h.part hFound) listedThere

end Definition

end Conform
