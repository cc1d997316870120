import Conform.Proofs.Definition.Localisation
import Conform.Proofs.Definition.Meaning

/-
  What a definition takes from the registry. The compiler
  looks up the names of mappings as it comes to them: the
  definitions inside a definition come first, one after the
  other, and after a fault nothing else is looked at. Two
  registries that agree on the names that are looked up give
  the same schema or the same fault. A registry may grow: a
  definition that is compiled finds all its names, and goes
  on finding them.

  Main declarations:
    * `Definition.LooksUp`
    * `Definition.AlikeInOrder`
    * `Definition.compileShape_alike`
    * `Definition.compile_eq_of_looksUp`
    * `Definition.mappingLaws`
-/

namespace Conform

namespace Definition

------------------------------------------------------------
-- Lookups
------------------------------------------------------------

/-
  A definition whose own fields lead on to the definitions
  inside: the list of required names of an object is read
  before its properties, and the names of a record must be
  declared before its contents are looked at.
-/
structure Opens
    (fields : List (String × Json)) : Prop where
  names :
    tag? fields = some .object →
      Optionally fields "required" fun j =>
        ∀ items, j = .array items → IsNames j
  keys :
    tag? fields = some .record →
      ∃ j, fields.lookup "keySchema" = some j

/-
  The names that are looked up while a definition is being
  compiled. A mapped definition looks its name up after the
  definition inside it is compiled, and a definition inside
  is looked at after those before it are compiled.
-/
inductive LooksUp
    (registry : Registry) : Json → String → Prop
  | here {fields : List (String × Json)} {inner : Json}
      {name : String}
      (hTag : tag? fields = some .mapped)
      (hInner : fields.lookup "schema" = some inner)
      (hCompiles : Compiles registry inner)
      (hName : fields.lookup "transformFn" =
        some (.string name)) :
      LooksUp registry (.object fields) name
  | within {fields : List (String × Json)} {place : Place}
      {child : Json} {before after : List (Place × Json)}
      {name : String}
      (hOpens : Opens fields)
      (hInside : inside (.object fields) =
        before ++ (place, child) :: after)
      (hBefore : ∀ d ∈ before, Compiles registry d.2)
      (hChild : LooksUp registry child name) :
      LooksUp registry (.object fields) name

------------------------------------------------------------
-- Two Compilers
------------------------------------------------------------

/-
  Two compilers do the same with definitions that are looked
  at in this order. After one that is refused there is no
  next one.
-/
def AlikeInOrder
    (make make' : Json → Compiler) :
    List (Place × Json) → Prop
  | [] => True
  | d :: rest =>
      make' d.2 = make d.2 ∧
        ∀ path schema, make d.2 path = .ok schema →
          AlikeInOrder make make' rest

section

variable {α β : Type}
variable {make make' : Json → Compiler}
variable {fields : List (String × Json)}
variable {path name : String}

/- A chain is the same if it goes on in the same way. -/
theorem bind_alike
    {x x' : Except Fault α}
    {f f' : α → Except Fault β}
    (hFirst : x' = x)
    (hNext : ∀ a, x = .ok a → f' a = f a) :
    (x' >>= f') = (x >>= f) := by
  subst hFirst
  cases hResult : x' with
  | error e => rfl
  | ok a => exact hNext a hResult

theorem AlikeInOrder.first
    {first later : List (Place × Json)}
    (h : AlikeInOrder make make' (first ++ later)) :
    AlikeInOrder make make' first := by
  induction first with
  | nil => trivial
  | cons d rest ih =>
      refine ⟨h.1, fun path schema hMake => ?_⟩
      exact ih (h.2 path schema hMake)

/- Both compilers find the same child in a field. -/
theorem child?_alike
    {place : Place}
    (h : AlikeInOrder make make' (fieldInside fields place)) :
    (partsOf make' fields).child? place.segment =
      (partsOf make fields).child? place.segment := by
  unfold fieldInside at h
  dsimp only [partsOf]
  cases hLookup : fields.lookup place.segment with
  | none => rfl
  | some j =>
      rw [hLookup] at h
      exact congrArg some h.1

theorem requireChild_alike
    (place : Place)
    (h : AlikeInOrder make make' (fieldInside fields place)) :
    requireChild (partsOf make' fields) path place.segment =
      requireChild (partsOf make fields) path
        place.segment := by
  rw [requireChild, requireChild, child?_alike h]

theorem optionalChild_alike
    (place : Place)
    (h : AlikeInOrder make make' (fieldInside fields place)) :
    optionalChild (partsOf make' fields) path place.segment =
      optionalChild (partsOf make fields) path
        place.segment := by
  rw [optionalChild, optionalChild, child?_alike h]

theorem compileEach_alike
    {items : List Json}
    (i : Nat)
    (h : AlikeInOrder make make'
      ((items.zipIdx i).map fun p => (.element p.2, p.1))) :
    compileEach path name i (items.map make') =
      compileEach path name i (items.map make) := by
  induction items generalizing i with
  | nil => rfl
  | cons j rest ih =>
      rcases h with ⟨hHead, hRest⟩
      rw [List.map_cons, List.map_cons, compileEach,
        compileEach]
      apply bind_alike (congrFun hHead _)
      intro first hFirst
      rw [ih (i + 1) (hRest _ first hFirst)]

theorem requireChildren_alike
    (h : AlikeInOrder make make' (itemsInside fields)) :
    requireChildren (partsOf make' fields) path "schemas" =
      requireChildren (partsOf make fields) path
        "schemas" := by
  unfold itemsInside at h
  cases hLookup : fields.lookup "schemas" with
  | none =>
      simp only [requireChildren, partsOf, hLookup,
        Option.map_none]
  | some j =>
      rw [hLookup] at h
      cases j with
      | array items =>
          simp only [requireChildren, partsOf, hLookup,
            Option.map_some, Json.asArray?]
          exact compileEach_alike 0 h
      | _ =>
          simp only [requireChildren, partsOf, hLookup,
            Option.map_some, Json.asArray?, Option.map_none]

theorem compileMembers_alike
    {members : List (String × Json)}
    {required : Option (List String)}
    (h : AlikeInOrder make make'
      (members.map fun m => (.property m.1, m.2))) :
    compileMembers path required
        (members.map fun m => (m.1, make' m.2)) =
      compileMembers path required
        (members.map fun m => (m.1, make m.2)) := by
  induction members with
  | nil => rfl
  | cons m rest ih =>
      rcases h with ⟨hHead, hRest⟩
      rw [List.map_cons, List.map_cons, compileMembers,
        compileMembers]
      apply bind_alike (congrFun hHead _)
      intro first hFirst
      rw [ih (hRest _ first hFirst)]

/- The properties are looked at after the list of names. -/
theorem compileProperties_alike
    (h : ∀ names, requiredNames fields path = .ok names →
      AlikeInOrder make make' (membersInside fields)) :
    compileProperties (partsOf make' fields) path =
      compileProperties (partsOf make fields) path := by
  apply bind_alike rfl
  intro names hNames
  have hMembers := h names hNames
  unfold membersInside at hMembers
  cases hLookup : fields.lookup "properties" with
  | none => simp only [partsOf, hLookup, Option.map_none]
  | some j =>
      rw [hLookup] at hMembers
      cases j with
      | object members =>
          simp only [partsOf, hLookup, Option.map_some,
            Json.asObject?]
          exact compileMembers_alike hMembers
      | _ =>
          simp only [partsOf, hLookup, Option.map_some,
            Json.asObject?, Option.map_none]

/- What comes after a definition that is compiled. -/
theorem AlikeInOrder.after_child
    {place : Place}
    {later : List (Place × Json)}
    {schema : Schema}
    (h : AlikeInOrder make make'
      (fieldInside fields place ++ later))
    (hChild : requireChild (partsOf make fields) path
      place.segment = .ok schema) :
    AlikeInOrder make make' later := by
  rcases requireChild_eq_ok_iff.mp hChild with
    ⟨j, hLookup, hMake⟩
  rw [fieldInside, hLookup] at h
  exact h.2 _ schema hMake

theorem opens_of_tag
    {tag : Tag}
    (hTag : tag? fields = some tag)
    (hObject : tag ≠ .object)
    (hRecord : tag ≠ .record) :
    Opens fields where
  names h := absurd (Option.some.inj (hTag.symm.trans h)) hObject
  keys h := absurd (Option.some.inj (hTag.symm.trans h)) hRecord

variable {registry other : Registry}

/-
  What a tag stands for is the same if the definitions inside
  are, and the mapping that is looked up after them.
-/
theorem compileShape_alike
    {tag : Tag}
    (hTag : tag? fields = some tag)
    (hInside : Opens fields →
      AlikeInOrder make make' (shapeInside fields tag))
    (hMapping : tag = .mapped →
      ∀ inner,
        requireChild (partsOf make fields) path "schema" =
            .ok inner →
          ∀ name,
            fields.lookup "transformFn" =
                some (.string name) →
              other.find? name = registry.find? name) :
    compileShape other (partsOf make' fields) path tag =
      compileShape registry (partsOf make fields) path tag := by
  have hChildren : tag ≠ .object → tag ≠ .record →
      AlikeInOrder make make' (shapeInside fields tag) :=
    fun hObject hRecord =>
      hInside (opens_of_tag hTag hObject hRecord)
  cases tag with
  | object =>
      refine bind_alike (compileProperties_alike ?_)
        fun _ _ => rfl
      intro names hNames
      apply hInside
      refine ⟨fun _ => ?_, ?_⟩
      · exact succeeds_requiredNames_iff.mp ⟨names, hNames⟩
      · intro hRecord
        cases hTag.symm.trans hRecord
  | array =>
      exact bind_alike (optionalChild_alike .items
        (hChildren nofun nofun)) fun _ _ => rfl
  | tuple =>
      exact bind_alike (requireChildren_alike
        (hChildren nofun nofun)) fun _ _ => rfl
  | union =>
      exact bind_alike (requireChildren_alike
        (hChildren nofun nofun)) fun _ _ => rfl
  | record =>
      have hBoth :
          (∃ j, fields.lookup "keySchema" = some j) →
            AlikeInOrder make make'
              (fieldInside fields .keys ++
                fieldInside fields .contents) := by
        intro hKeys
        apply hInside
        refine ⟨?_, fun _ => hKeys⟩
        intro hObject
        cases hTag.symm.trans hObject
      have hKeys :
          AlikeInOrder make make' (fieldInside fields .keys) := by
        cases hLookup : fields.lookup "keySchema" with
        | none =>
            simp only [fieldInside, Place.segment, hLookup]
            trivial
        | some j => exact (hBoth ⟨j, hLookup⟩).first
      refine bind_alike (requireChild_alike .keys hKeys)
        fun keys hMade => ?_
      rcases requireChild_eq_ok_iff.mp hMade with
        ⟨j, hLookup, _⟩
      exact bind_alike (requireChild_alike .contents
        ((hBoth ⟨j, hLookup⟩).after_child hMade))
        fun _ _ => rfl
  | nullable =>
      exact bind_alike (requireChild_alike .inner
        (hChildren nofun nofun)) fun _ _ => rfl
  | optional =>
      exact bind_alike (requireChild_alike .inner
        (hChildren nofun nofun)) fun _ _ => rfl
  | mapped =>
      refine bind_alike (requireChild_alike .inner
        (hChildren nofun nofun)) fun inner hInner => ?_
      refine bind_alike rfl fun name hName => ?_
      have hFind := hMapping rfl inner hInner name
        (requireText_eq_ok_iff.mp hName)
      simp only [requireMapping, hFind]
  | lazy =>
      exact bind_alike (requireChild_alike .inner
        (hChildren nofun nofun)) fun _ _ => rfl
  | _ => rfl

end

------------------------------------------------------------
-- Two Registries
------------------------------------------------------------

section

variable {registry other : Registry}

/- What is compiled under one path is under every path. -/
theorem compiles_of_compile_eq_ok
    {j : Json}
    {path : String}
    {schema : Schema}
    (h : compile registry j path = .ok schema) :
    Compiles registry j := by
  rcases localised registry j with hCompiles | hBlamed
  · exact hCompiles
  · rcases hBlamed with ⟨_, _, _, hBlames⟩
    rw [hBlames.fault path] at h
    cases h

theorem alikeInOrder_of_split
    {visited : List (Place × Json)}
    (h : ∀ before place child after,
      visited = before ++ (place, child) :: after →
      (∀ d ∈ before, Compiles registry d.2) →
      compile other child = compile registry child) :
    AlikeInOrder (compile registry) (compile other)
      visited := by
  induction visited with
  | nil => trivial
  | cons d rest ih =>
      constructor
      · exact h [] d.1 d.2 rest rfl nofun
      · intro path schema hCompile
        apply ih
        intro before place child after hSplit hBefore
        apply h (d :: before) place child after
        · rw [hSplit, List.cons_append]
        · exact List.forall_mem_cons.mpr
            ⟨compiles_of_compile_eq_ok hCompile, hBefore⟩

theorem part_of_fieldInside
    {fields : List (String × Json)}
    {place : Place}
    {d : Place × Json}
    (h : d ∈ fieldInside fields place) :
    Part fields d.2 := by
  unfold fieldInside at h
  cases hLookup : fields.lookup place.segment with
  | none =>
      rw [hLookup] at h
      cases h
  | some j =>
      rw [hLookup, List.mem_singleton] at h
      subst h
      exact .field hLookup

theorem part_of_itemsInside
    {fields : List (String × Json)}
    {d : Place × Json}
    (h : d ∈ itemsInside fields) :
    Part fields d.2 := by
  unfold itemsInside at h
  split at h
  · next items hLookup =>
      rcases List.mem_map.mp h with ⟨p, hp, rfl⟩
      have hItem : p.1 ∈ items := List.fst_mem_of_mem_zipIdx hp
      exact .item hLookup hItem
  · cases h

theorem part_of_membersInside
    {fields : List (String × Json)}
    {d : Place × Json}
    (h : d ∈ membersInside fields) :
    Part fields d.2 := by
  unfold membersInside at h
  split at h
  · next members hLookup =>
      rcases List.mem_map.mp h with ⟨m, hm, rfl⟩
      exact .member hLookup hm
  · cases h

/- The definitions inside a definition are parts of it. -/
theorem part_of_mem_inside
    {fields : List (String × Json)}
    {d : Place × Json}
    (h : d ∈ inside (.object fields)) :
    Part fields d.2 := by
  unfold inside at h
  dsimp only at h
  cases hTag : tag? fields with
  | none =>
      rw [hTag] at h
      cases h
  | some tag =>
      rw [hTag] at h
      cases tag with
      | object => exact part_of_membersInside h
      | tuple => exact part_of_itemsInside h
      | union => exact part_of_itemsInside h
      | record =>
          rcases List.mem_append.mp h with hKeys | hContents
          · exact part_of_fieldInside hKeys
          · exact part_of_fieldInside hContents
      | array => exact part_of_fieldInside h
      | nullable => exact part_of_fieldInside h
      | optional => exact part_of_fieldInside h
      | mapped => exact part_of_fieldInside h
      | lazy => exact part_of_fieldInside h
      | _ => cases h

/-
  Registries that agree on the names that are looked up give
  the same schema or the same fault. The induction is on the
  definition.
-/
theorem compile_eq_of_looksUp
    (definition : Json)
    (h : ∀ name, LooksUp registry definition name →
      other.find? name = registry.find? name) :
    compile other definition =
      compile registry definition := by
  induction definition using part_induct with
  | other j hOther =>
      rw [compile, compile, fold_other _ _ hOther,
        fold_other _ _ hOther]
  | object fields ih =>
      funext path
      rw [compile_object, compile_object]
      refine bind_alike rfl fun tag hTag => ?_
      have hFound : tag? fields = some tag :=
        tag?_eq_some_iff.mpr (requireTag_eq_ok_iff.mp hTag)
      refine bind_alike (compileShape_alike hFound ?_ ?_)
        fun _ _ => rfl
      · intro hOpens
        apply alikeInOrder_of_split
        intro before place child after hSplit hBefore
        have hInside : inside (.object fields) =
            before ++ (place, child) :: after := by
          simp only [inside, hFound, hSplit]
        have hMem :
            (place, child) ∈ inside (.object fields) := by
          rw [hInside]
          exact List.mem_append_cons_self
        apply ih child (part_of_mem_inside hMem)
        intro name hName
        exact h name (.within hOpens hInside hBefore hName)
      · rintro rfl inner hInner name hName
        rcases requireChild_eq_ok_iff.mp hInner with
          ⟨j, hLookup, hCompile⟩
        exact h name (.here hFound hLookup
          (compiles_of_compile_eq_ok hCompile) hName)

/- The definitions inside a compiled definition are too. -/
theorem compiles_of_mem_inside
    {fields : List (String × Json)}
    (h : Compiles registry (.object fields))
    {d : Place × Json}
    (hInside : d ∈ inside (.object fields)) :
    Compiles registry d.2 := by
  rcases h with ⟨schema, hCompile⟩
  have hSettles := @settles_compile_object registry fields
    fun j _ => localised registry j
  cases hSettles with
  | passes _ _ hVisited => exact hVisited d hInside
  | fails cause hRun =>
      cases (hCompile "").symm.trans (hRun "")
  | failsInside _ _ _ hRun =>
      cases (hCompile "").symm.trans (hRun "")

/- A definition that is compiled finds all its names. -/
theorem LooksUp.contains
    {definition : Json}
    {name : String}
    (h : LooksUp registry definition name)
    (hCompiles : Compiles registry definition) :
    registry.contains name = true := by
  induction h with
  | @here fields inner name hTag _ _ hName =>
      rcases hCompiles with ⟨schema, hCompile⟩
      have hWellFormed : WellFormed registry (.object fields) :=
        succeeds_compile_iff.mp ⟨schema, hCompile ""⟩
      cases hWellFormed with
      | definition hHeader hBody =>
          cases hTag.symm.trans
            (tag?_eq_some_iff.mpr hHeader.type)
          cases hBody with
          | mapped _ _ hField hMapping =>
              cases hField.symm.trans hName
              exact hMapping
  | @within fields place child before after name _ hInside _
      _ ih =>
      have hMem :
          (place, child) ∈ inside (.object fields) := by
        rw [hInside]
        exact List.mem_append_cons_self
      exact ih (compiles_of_mem_inside hCompiles hMem)

end

------------------------------------------------------------
-- Laws
------------------------------------------------------------

/- A registry with all that another has, and maybe more. -/
def Extends
    (other registry : Registry) : Prop :=
  ∀ name mapping,
    registry.find? name = some mapping →
      other.find? name = some mapping

/- A registry is extended by a mapping with a new name. -/
theorem extends_register
    {registry : Registry}
    {name : String}
    (hNew : registry.find? name = none)
    (mapping : Mapping) :
    Extends (registry.register name mapping) registry := by
  intro other found hFound
  have hOther : other ≠ name := by
    rintro rfl
    rw [hNew] at hFound
    cases hFound
  rw [Registry.find?, Registry.register,
    Fields.lookup_insert_of_ne hOther]
  exact hFound

/-
  What a definition is compiled to depends on the mappings
  that are looked up and on nothing else of the registry. A
  definition that is compiled finds them all, so that it is
  compiled to the same schema when the registry grows.
-/
structure MappingLaws
    (registry : Registry)
    (definition : Json)
    (path : String) : Prop where
  agreeing :
    ∀ other : Registry,
      (∀ name, LooksUp registry definition name →
        other.find? name = registry.find? name) →
      compile other definition path =
        compile registry definition path
  found :
    ∀ schema,
      compile registry definition path = .ok schema →
        ∀ name, LooksUp registry definition name →
          registry.contains name = true
  growing :
    ∀ other, Extends other registry →
      ∀ schema,
        compile registry definition path = .ok schema →
          compile other definition path = .ok schema
  registering :
    ∀ name mapping,
      registry.find? name = none →
        ∀ schema,
          compile registry definition path = .ok schema →
            compile (registry.register name mapping) definition
              path = .ok schema

/- A registry that has grown agrees on what is looked up. -/
theorem compile_extends
    {registry other : Registry}
    {definition : Json}
    {path : String}
    {schema : Schema}
    (hExtends : Extends other registry)
    (hCompile :
      compile registry definition path = .ok schema) :
    compile other definition path = .ok schema := by
  have hSame :
      compile other definition =
        compile registry definition := by
    apply compile_eq_of_looksUp
    intro name hName
    have hContains :=
      hName.contains (compiles_of_compile_eq_ok hCompile)
    rcases Option.isSome_iff_exists.mp hContains with
      ⟨mapping, hFound⟩
    rw [hFound]
    exact hExtends name mapping hFound
  rw [hSame, hCompile]

/- Every definition obeys the laws, under every registry. -/
theorem mappingLaws
    (registry : Registry)
    (definition : Json)
    (path : String) :
    MappingLaws registry definition path where
  agreeing other h := by
    rw [compile_eq_of_looksUp definition h]
  found schema hCompile name hName :=
    hName.contains (compiles_of_compile_eq_ok hCompile)
  growing other hExtends schema hCompile :=
    compile_extends hExtends hCompile
  registering name mapping hNew schema hCompile :=
    compile_extends (extends_register hNew mapping) hCompile

/- A definition without definitions inside looks nothing up. -/
theorem not_looksUp_of_inside_eq_nil
    {registry : Registry}
    {fields : List (String × Json)}
    {name : String}
    (hInside : inside (.object fields) = [])
    (hTag : tag? fields ≠ some .mapped) :
    ¬ LooksUp registry (.object fields) name := by
  intro h
  cases h with
  | here hMapped => exact hTag hMapped
  | within _ hSplit =>
      rw [hInside] at hSplit
      simp at hSplit

/- Text that is changed by a mapping of a given name. -/
def mappedText
    (name : String) : Json :=
  .object
    [ ("schema", .object [("type", .string "string")]),
      ("transformFn", .string name),
      ("type", .string "transform") ]

/- Nothing but the given name is looked up for it. -/
theorem eq_of_looksUp_mappedText
    {registry : Registry}
    {name other : String}
    (h : LooksUp registry (mappedText name) other) :
    other = name := by
  cases h with
  | here _ _ _ hName =>
      have hSame : Json.string name = .string other :=
        Option.some.inj hName
      exact (Json.string.inj hSame).symm
  | @within _ place child before after _ _ hInside _ hChild =>
      have hAll : [(Place.inner,
            Json.object [("type", .string "string")])] =
          before ++ (place, child) :: after := hInside
      rcases List.append_eq_singleton_iff.mp hAll.symm with
        ⟨_, hOnly⟩ | ⟨_, hNone⟩
      · cases hOnly
        exact absurd hChild
          (not_looksUp_of_inside_eq_nil rfl nofun)
      · cases hNone

/- Text to trim, an unknown type, and text to shout. -/
def shouted : Json :=
  .object
    [ ("schemas", .array
        [ mappedText "trim",
          .object [("type", .string "uuid")],
          mappedText "shout" ]),
      ("type", .string "tuple") ]

/- After the unknown type no name is looked up. -/
theorem eq_of_looksUp_shouted
    {name : String}
    (h : LooksUp trimming shouted name) :
    name = "trim" := by
  cases h with
  | here hTag => cases hTag
  | @within _ place child before after _ _ hInside hBefore
      hChild =>
      have hAll :
          [ (Place.element 0, mappedText "trim"),
            (Place.element 1,
              Json.object [("type", .string "uuid")]),
            (Place.element 2, mappedText "shout") ] =
          before ++ (place, child) :: after := hInside
      rcases before with _ | ⟨first, _ | ⟨second, rest⟩⟩
      · cases hAll
        exact eq_of_looksUp_mappedText hChild
      · cases hAll
        exact absurd hChild
          (not_looksUp_of_inside_eq_nil rfl nofun)
      · have hSecond : second = (Place.element 1,
            Json.object [("type", .string "uuid")]) := by
          simp only [List.cons_append, List.cons.injEq] at hAll
          exact hAll.2.1.symm
        have hMem : second ∈ first :: second :: rest := by simp
        rcases hBefore second hMem with ⟨schema, hCompile⟩
        rw [hSecond] at hCompile
        cases hCompile ""

/-
  Shouting makes no difference to what is refused before it
  is looked up, nor to an order, which only trims.
-/
theorem mappingLaws_shouting :
    trimming.find? "shout" = none ∧
      compile (trimming.register "shout" .uppercase) shouted
          "pair" =
        .error (.unsupportedType "uuid" "pair.schemas[1]") ∧
      ∃ schema,
        compile trimming orderDefinition "order" =
            .ok schema ∧
          compile (trimming.register "shout" .uppercase)
              orderDefinition "order" =
            .ok schema := by
  have hNew : trimming.find? "shout" = none := rfl
  refine ⟨hNew, ?_, ?_⟩
  · rw [(mappingLaws trimming shouted "pair").agreeing]
    · rfl
    · intro name hName
      rw [eq_of_looksUp_shouted hName]
      rfl
  · refine ⟨_, rfl, ?_⟩
    exact (mappingLaws trimming orderDefinition
      "order").registering "shout" .uppercase hNew _ rfl

end Definition

end Conform
