import Conform.Proofs.Definition.Places

/-
  Where a fault in a definition comes from. A definition is
  compiled under every path or under none. If it is not, the
  fault is that of one definition inside it, which is
  refused for the same cause when it is compiled by itself,
  and all definitions that are looked at before are
  compiled. The path of the fault spells the places that
  lead to this definition.

  Main declarations:
    * `Place.segment` and `Place.spell`
    * `Cause` and `Cause.at`
    * `Definition.inside` and `Definition.Reaches`
    * `Definition.Blames` and `Definition.Localised`
    * `Definition.Settles` and `Definition.Settles.bind`
    * `Definition.localised`
    * `Definition.compile_localised`
-/

namespace Conform

------------------------------------------------------------
-- Paths and Causes
------------------------------------------------------------

namespace Place

/- The text for a place in the paths of faults. -/
def segment : Place → String
  | property name => "properties." ++ name
  | items => "items"
  | element i => "schemas" ++ "[" ++ toString i ++ "]"
  | keys => "keySchema"
  | contents => "valueSchema"
  | inner => "schema"

/- The end of the path that leads through the places. -/
def spell : List Place → String
  | [] => ""
  | place :: rest => "." ++ place.segment ++ spell rest

end Place

/- Why a definition is refused, wherever it is. -/
inductive Cause
  | invalid (flaw : Flaw)
  | unsupportedType (tag : String)
  | unknownMapping (name : String)

/- The fault of a definition at a given path. -/
def Cause.at
    (path : String) : Cause → Fault
  | invalid flaw => .invalid path flaw
  | unsupportedType tag => .unsupportedType tag path
  | unknownMapping name => .unknownMapping name path

namespace Definition

/- A definition that is compiled under every path. -/
def Compiles
    (registry : Registry)
    (j : Json) : Prop :=
  ∃ schema, ∀ path, compile registry j path = .ok schema

/- The definition at a place that is named like its field. -/
def fieldInside
    (fields : List (String × Json))
    (place : Place) : List (Place × Json) :=
  match fields.lookup place.segment with
  | none => []
  | some j => [(place, j)]

/- The definitions in the list that a field holds. -/
def itemsInside
    (fields : List (String × Json)) : List (Place × Json) :=
  match fields.lookup "schemas" with
  | some (.array items) =>
      items.zipIdx.map fun p => (.element p.2, p.1)
  | _ => []

/- The definitions of the properties in order. -/
def membersInside
    (fields : List (String × Json)) : List (Place × Json) :=
  match fields.lookup "properties" with
  | some (.object members) =>
      members.map fun m => (.property m.1, m.2)
  | _ => []

/- The definitions inside one with a tag, in order. -/
def shapeInside
    (fields : List (String × Json)) :
    Tag → List (Place × Json)
  | .object => membersInside fields
  | .array => fieldInside fields .items
  | .tuple => itemsInside fields
  | .union => itemsInside fields
  | .record =>
      fieldInside fields .keys ++ fieldInside fields .contents
  | .nullable => fieldInside fields .inner
  | .optional => fieldInside fields .inner
  | .mapped => fieldInside fields .inner
  | .lazy => fieldInside fields .inner
  | _ => []

/-
  The definitions directly inside a definition, in the order
  in which they are compiled: properties in the order of
  their names, elements and options in that of the list, and
  names of a record before its contents.
-/
def inside : Json → List (Place × Json)
  | .object fields =>
      match tag? fields with
      | none => []
      | some tag => shapeInside fields tag
  | _ => []

/-
  A definition that is found inside another by following
  places, where whatever is compiled earlier at any of the
  levels is compiled without a fault.
-/
inductive Reaches
    (registry : Registry) :
    Json → List Place → Json → Prop
  | here {j : Json} : Reaches registry j [] j
  | step {j child target : Json} {place : Place}
      {before after : List (Place × Json)}
      {places : List Place}
      (hInside : inside j = before ++ (place, child) :: after)
      (hBefore : ∀ d ∈ before, Compiles registry d.2)
      (hRest : Reaches registry child places target) :
      Reaches registry j (place :: places) target

/-
  The fault of a definition under any path is that of the
  target, which is found at the given places.
-/
structure Blames
    (registry : Registry)
    (j : Json)
    (places : List Place)
    (cause : Cause)
    (target : Json) : Prop where
  reaches : Reaches registry j places target
  fault : ∀ path, compile registry j path =
    .error (cause.at (path ++ Place.spell places))
  target : ∀ path, compile registry target path =
    .error (cause.at path)

/- A definition that is compiled, or whose fault is blamed. -/
def Localised
    (registry : Registry)
    (j : Json) : Prop :=
  Compiles registry j ∨
    ∃ places cause target,
      Blames registry j places cause target

------------------------------------------------------------
-- Steps of a Compilation
------------------------------------------------------------

section

variable {α β : Type}

/-
  A step that looks at no other definition: it has the same
  result or the same cause of a fault under every path.
-/
inductive Own
    (run : String → Except Fault α) : Prop
  | passes (a : α) (hRun : ∀ path, run path = .ok a)
  | fails (cause : Cause)
      (hRun : ∀ path, run path = .error (cause.at path))

theorem Own.ok
    (a : α) :
    Own fun _ => .ok a :=
  .passes a fun _ => rfl

theorem Own.bind
    {run : String → Except Fault α}
    {next : α → String → Except Fault β}
    (h : Own run)
    (hNext : ∀ a, Own (next a)) :
    Own fun path => run path >>= fun a => next a path := by
  cases h with
  | passes a hRun =>
      cases hNext a with
      | passes b hLater =>
          refine .passes b fun path => ?_
          rw [hRun path]
          exact hLater path
      | fails cause hLater =>
          refine .fails cause fun path => ?_
          rw [hRun path]
          exact hLater path
  | fails cause hRun =>
      refine .fails cause fun path => ?_
      rw [hRun path]
      rfl

/-
  A step that compiles the given definitions, in this order,
  as far as it gets:
    * it passes if all of them are compiled;
    * it may fail for a cause of its own;
    * it fails if one of them does, and those before this
      one are compiled.
-/
inductive Settles
    (registry : Registry)
    (run : String → Except Fault α)
    (visited : List (Place × Json)) : Prop
  | passes (a : α)
      (hRun : ∀ path, run path = .ok a)
      (hVisited : ∀ d ∈ visited, Compiles registry d.2)
  | fails (cause : Cause)
      (hRun : ∀ path, run path = .error (cause.at path))
  | failsInside {before after : List (Place × Json)}
      {place : Place} {child target : Json}
      {places : List Place} {cause : Cause}
      (hVisited : visited = before ++ (place, child) :: after)
      (hBefore : ∀ d ∈ before, Compiles registry d.2)
      (hChild : Blames registry child places cause target)
      (hRun : ∀ path, run path = .error
        (cause.at (under path place.segment ++
          Place.spell places)))

namespace Settles

variable {registry : Registry}
variable {run : String → Except Fault α}
variable {next : α → String → Except Fault β}
variable {visited later : List (Place × Json)}

theorem of_own
    (h : Own run) :
    Settles registry run [] := by
  cases h with
  | passes a hRun => exact .passes a hRun nofun
  | fails cause hRun => exact .fails cause hRun

/- Steps after one another look at all their definitions. -/
theorem bind
    (h : Settles registry run visited)
    (hNext : ∀ a, (∀ path, run path = .ok a) →
      Settles registry (next a) later) :
    Settles registry
      (fun path => run path >>= fun a => next a path)
      (visited ++ later) := by
  cases h with
  | passes a hRun hVisited =>
      have hBind : ∀ path,
          (run path >>= fun a => next a path) = next a path := by
        intro path
        rw [hRun path]
        rfl
      cases hNext a hRun with
      | passes b hLater hRest =>
          refine .passes b (fun path => ?_)
            (List.forall_mem_append.mpr ⟨hVisited, hRest⟩)
          rw [hBind, hLater]
      | fails cause hLater =>
          refine .fails cause fun path => ?_
          rw [hBind, hLater]
      | @failsInside before after place child _ _ _ hSplit
          hBefore hChild hLater =>
          have hAll : visited ++ later =
              (visited ++ before) ++ (place, child) :: after := by
            rw [hSplit, List.append_assoc]
          refine .failsInside hAll
            (List.forall_mem_append.mpr ⟨hVisited, hBefore⟩)
            hChild fun path => ?_
          rw [hBind, hLater]
  | fails cause hRun =>
      refine .fails cause fun path => ?_
      rw [hRun path]
      rfl
  | @failsInside before after place child _ _ _ hSplit hBefore
      hChild hRun =>
      have hAll : visited ++ later =
          before ++ (place, child) :: (after ++ later) := by
        rw [hSplit, List.append_assoc, List.cons_append]
      refine .failsInside hAll hBefore hChild fun path => ?_
      rw [hRun path]
      rfl

theorem own_bind
    (h : Own run)
    (hNext : ∀ a, (∀ path, run path = .ok a) →
      Settles registry (next a) later) :
    Settles registry
      (fun path => run path >>= fun a => next a path) later :=
  (of_own h).bind hNext

theorem bind_own
    (h : Settles registry run visited)
    (hNext : ∀ a, Own (next a)) :
    Settles registry
      (fun path => run path >>= fun a => next a path)
      visited := by
  rw [← List.append_nil visited]
  exact h.bind fun a _ => of_own (hNext a)

end Settles

end

------------------------------------------------------------
-- Fields
------------------------------------------------------------

section

variable {α : Type}
variable (fields : List (String × Json))
variable (name : String)

theorem own_typed
    (expected : Expected)
    (read? : Json → Option α) :
    Own fun path => typed expected read? fields path name := by
  unfold typed
  cases fields.lookup name with
  | none => exact .ok none
  | some j =>
      cases hRead : read? j with
      | none =>
          refine .fails (.invalid (.mistyped name expected))
            fun path => ?_
          simp [hRead, Cause.at]
      | some a =>
          refine .passes (some a) fun path => ?_
          simp [hRead]

theorem own_present
    (contents : Option α) :
    Own fun path => present path name contents := by
  cases contents with
  | none => exact .fails (.invalid (.missing name)) fun _ => rfl
  | some a => exact .ok a

theorem own_requireText :
    Own fun path => requireText fields path name :=
  (own_typed fields name .text Json.asString?).bind
    (own_present name)

theorem own_requireList :
    Own fun path => requireList fields path name :=
  (own_typed fields name .list Json.asArray?).bind
    (own_present name)

theorem own_requiredNames :
    Own fun path => requiredNames fields path := by
  unfold requiredNames
  cases fields.lookup "required" with
  | none => exact .ok none
  | some j =>
      cases j with
      | array items =>
          cases hNames : items.mapM Json.asString? with
          | none =>
              refine .fails (.invalid .unnamedRequirement)
                fun path => ?_
              simp [hNames, Cause.at]
          | some names =>
              refine .passes (some names) fun path => ?_
              simp [hNames]
      | _ => exact .ok none

theorem own_requiredFlag
    (tag : Tag) :
    Own fun path => requiredFlag fields path tag := by
  unfold requiredFlag
  cases fields.lookup "required" with
  | none => exact .ok false
  | some j =>
      cases j with
      | bool flag => exact .ok flag
      | array items =>
          by_cases hTag : tag = .object
          · refine .passes false fun path => ?_
            simp [hTag]
          · refine .fails (.invalid (.mistyped "required" .flag))
              fun path => ?_
            simp [hTag, Cause.at]
      | _ =>
          exact .fails (.invalid (.mistyped "required" .flag))
            fun _ => rfl

theorem own_requireMapping
    (registry : Registry) :
    Own fun path => requireMapping registry path name := by
  unfold requireMapping
  cases registry.find? name with
  | none => exact .fails (.unknownMapping name) fun _ => rfl
  | some mapping => exact .ok mapping

theorem own_requireTag :
    Own fun path => requireTag fields path := by
  refine (own_requireText fields "type").bind fun text => ?_
  unfold knownTag
  cases Tag.ofName? text with
  | none => exact .fails (.unsupportedType text) fun _ => rfl
  | some tag => exact .ok tag

end

------------------------------------------------------------
-- Definitions Inside a Definition
------------------------------------------------------------

section

variable {registry : Registry}
variable {fields : List (String × Json)}

/- Compiling one definition inside another. -/
theorem settles_compile
    {j : Json}
    (h : Localised registry j)
    (place : Place) :
    Settles registry
      (fun path => compile registry j (under path place.segment))
      [(place, j)] := by
  rcases h with ⟨schema, hCompile⟩ | ⟨_, _, _, hBlames⟩
  · exact .passes schema (fun path => hCompile _)
      (List.forall_mem_singleton.mpr ⟨schema, hCompile⟩)
  · exact .failsInside (List.nil_append [(place, j)]).symm nofun
      hBlames fun path => hBlames.fault _

variable (hParts : ∀ j, Part fields j → Localised registry j)

include hParts

theorem settles_requireChild
    (place : Place) :
    Settles registry
      (fun path => requireChild
        (partsOf (compile registry) fields) path place.segment)
      (fieldInside fields place) := by
  unfold requireChild fieldInside
  cases hLookup : fields.lookup place.segment with
  | none =>
      refine .fails (.invalid (.missing place.segment))
        fun path => ?_
      simp only [partsOf, hLookup]
      rfl
  | some j =>
      simp only [partsOf, hLookup]
      exact settles_compile (hParts j (.field hLookup)) place

theorem settles_optionalChild
    (place : Place) :
    Settles registry
      (fun path => optionalChild
        (partsOf (compile registry) fields) path place.segment)
      (fieldInside fields place) := by
  unfold optionalChild fieldInside
  cases hLookup : fields.lookup place.segment with
  | none =>
      simp only [partsOf, hLookup]
      exact .of_own (.ok none)
  | some j =>
      simp only [partsOf, hLookup]
      exact (settles_compile (hParts j (.field hLookup))
        place).bind_own fun s => .ok (some s)

/- Compiling a list from an index on. -/
omit hParts in
theorem settles_compileEach
    {items : List Json}
    (h : ∀ j ∈ items, Localised registry j)
    (i : Nat) :
    Settles registry
      (fun path => compileEach path "schemas" i
        (items.map (compile registry)))
      ((items.zipIdx i).map fun p => (.element p.2, p.1)) := by
  induction items generalizing i with
  | nil => exact .of_own (.ok [])
  | cons j rest ih =>
      have hHead := settles_compile (h j List.mem_cons_self)
        (.element i)
      have hRest := ih
        (fun k hk => h k (List.mem_cons_of_mem j hk)) (i + 1)
      exact hHead.bind fun first _ =>
        hRest.bind_own fun others => .ok (first :: others)

theorem settles_requireChildren :
    Settles registry
      (fun path => requireChildren
        (partsOf (compile registry) fields) path "schemas")
      (itemsInside fields) := by
  unfold requireChildren itemsInside
  cases hLookup : fields.lookup "schemas" with
  | none =>
      refine .fails (.invalid (.missing "schemas"))
        fun path => ?_
      simp only [partsOf, hLookup]
      rfl
  | some j =>
      cases j with
      | array items =>
          simp only [partsOf, hLookup]
          exact settles_compileEach
            (fun k hk => hParts k (.item hLookup hk)) 0
      | _ =>
          refine .fails (.invalid (.mistyped "schemas" .list))
            fun path => ?_
          simp only [partsOf, hLookup]
          rfl

/- Compiling the properties of an object. -/
omit hParts in
theorem settles_compileMembers
    {members : List (String × Json)}
    (h : ∀ m ∈ members, Localised registry m.2)
    (required : Option (List String)) :
    Settles registry
      (fun path => compileMembers path required
        (members.map fun m => (m.1, compile registry m.2)))
      (members.map fun m => (.property m.1, m.2)) := by
  induction members with
  | nil => exact .of_own (.ok [])
  | cons m rest ih =>
      have hHead := settles_compile (h m List.mem_cons_self)
        (.property m.1)
      have hRest := ih fun k hk =>
        h k (List.mem_cons_of_mem m hk)
      exact hHead.bind fun schema _ =>
        hRest.bind_own fun others => .ok _

theorem settles_compileProperties :
    Settles registry
      (fun path => compileProperties
        (partsOf (compile registry) fields) path)
      (membersInside fields) := by
  refine .own_bind (own_requiredNames fields)
    fun required _ => ?_
  unfold membersInside
  cases hLookup : fields.lookup "properties" with
  | none =>
      simp only [partsOf, hLookup]
      exact .of_own (.ok [])
  | some j =>
      cases j with
      | object members =>
          simp only [partsOf, hLookup]
          exact settles_compileMembers
            (fun m hm => hParts m.2 (.member hLookup hm))
            required
      | _ =>
          refine .fails
            (.invalid (.mistyped "properties" .mapping))
            fun path => ?_
          simp only [partsOf, hLookup]
          rfl

/-
  What a tag stands for: its own fields are read after the
  definitions inside it, or there are none.
-/
theorem settles_compileShape
    (tag : Tag) :
    Settles registry
      (fun path => compileShape registry
        (partsOf (compile registry) fields) path tag)
      (shapeInside fields tag) := by
  cases tag with
  | string =>
      exact .of_own ((own_typed _ _ _ _).bind fun _ =>
        (own_typed _ _ _ _).bind fun _ => .ok _)
  | number =>
      exact .of_own ((own_typed _ _ _ _).bind fun _ =>
        (own_typed _ _ _ _).bind fun _ =>
        (own_typed _ _ _ _).bind fun _ => .ok _)
  | boolean => exact .of_own (.ok _)
  | date =>
      exact .of_own ((own_typed _ _ _ _).bind fun _ =>
        (own_typed _ _ _ _).bind fun _ => .ok _)
  | any => exact .of_own (.ok _)
  | enumeration =>
      exact .of_own ((own_requireList _ _).bind fun _ => .ok _)
  | literal =>
      exact .of_own ((own_present _ _).bind fun _ => .ok _)
  | object =>
      exact (settles_compileProperties hParts).bind_own
        fun _ => .ok _
  | array =>
      exact (settles_optionalChild hParts .items).bind_own
        fun _ => (own_typed _ _ _ _).bind fun _ =>
        (own_typed _ _ _ _).bind fun _ => .ok _
  | tuple =>
      exact (settles_requireChildren hParts).bind_own
        fun _ => .ok _
  | union =>
      exact (settles_requireChildren hParts).bind_own
        fun _ => .ok _
  | record =>
      exact (settles_requireChild hParts .keys).bind fun _ _ =>
        (settles_requireChild hParts .contents).bind_own
          fun _ => .ok _
  | nullable =>
      exact (settles_requireChild hParts .inner).bind_own
        fun _ => .ok _
  | optional =>
      exact (settles_requireChild hParts .inner).bind_own
        fun _ => .ok _
  | mapped =>
      exact (settles_requireChild hParts .inner).bind_own
        fun _ => (own_requireText _ _).bind fun name =>
        (own_requireMapping name registry).bind fun _ => .ok _
  | lazy =>
      exact (settles_requireChild hParts .inner).bind_own
        fun _ => (own_typed _ _ _ _).bind fun _ => .ok _

/- After the tag, the fields of every definition come last. -/
theorem settles_compile_object :
    Settles registry (compile registry (.object fields))
      (inside (.object fields)) := by
  rw [compile_object]
  refine .own_bind (own_requireTag fields) fun tag hTag => ?_
  have hFound : tag? fields = some tag :=
    tag?_eq_some_iff.mpr (requireTag_eq_ok_iff.mp (hTag ""))
  simp only [inside, hFound]
  exact (settles_compileShape hParts tag).bind_own fun _ =>
    (own_typed _ _ _ _).bind fun _ =>
    (own_requiredFlag _ tag).bind fun _ =>
    (own_typed _ _ _ _).bind fun _ => .ok _

end

------------------------------------------------------------
-- Localisation
------------------------------------------------------------

/-
  A definition is localised if its steps settle: a fault
  inside is one place further away from the root.
-/
theorem Settles.localised
    {registry : Registry}
    {j : Json}
    (h : Settles registry (compile registry j) (inside j)) :
    Localised registry j := by
  cases h with
  | passes schema hRun _ => exact Or.inl ⟨schema, hRun⟩
  | fails cause hRun =>
      refine Or.inr ⟨[], cause, j, .here, fun path => ?_, hRun⟩
      rw [hRun, Place.spell, String.append_empty]
  | @failsInside before after place child target places cause
      hInside hBefore hChild hRun =>
      refine Or.inr ⟨place :: places, cause, target,
        .step hInside hBefore hChild.reaches, fun path => ?_,
        hChild.target⟩
      rw [hRun, Place.spell, under]
      simp only [String.append_assoc]

/- Every definition is localised, by induction on it. -/
theorem localised
    (registry : Registry)
    (definition : Json) :
    Localised registry definition := by
  induction definition using part_induct with
  | other j hOther =>
      refine Settles.localised
        (.fails (.invalid .notMapping) fun path => ?_)
      rw [compile, fold_other _ _ hOther]
      rfl
  | object fields ih =>
      exact (settles_compile_object ih).localised

/-
  Under any two paths a definition is compiled to the same
  schema, or it is refused for the same cause with paths
  that end in the same way. The end of the path leads to a
  definition that is refused in the same way by itself, past
  definitions that are all compiled.
-/
theorem compile_localised
    (registry : Registry)
    (definition : Json)
    (p q : String) :
    (∃ schema, compile registry definition p = .ok schema ∧
        compile registry definition q = .ok schema) ∨
      ∃ places target, ∃ cause : Cause,
        Reaches registry definition places target ∧
          compile registry definition p =
            .error (cause.at (p ++ Place.spell places)) ∧
          compile registry definition q =
            .error (cause.at (q ++ Place.spell places)) ∧
          compile registry target (p ++ Place.spell places) =
            .error (cause.at (p ++ Place.spell places)) := by
  rcases localised registry definition with
    ⟨schema, hCompile⟩ |
    ⟨places, cause, target, hReaches, hFault, hTarget⟩
  · exact Or.inl ⟨schema, hCompile p, hCompile q⟩
  · exact Or.inr ⟨places, target, cause, hReaches,
      hFault p, hFault q, hTarget _⟩

/-
  The second option of the second property is at fault, and
  the list of required names, which is read before, is not.
-/
example :
    compile .empty
        (.object
          [ ("properties", .object
              [ ("a", .object [("type", .string "any")]),
                ("b", .object
                  [ ("schemas", .array
                      [ .object [("type", .string "date")],
                        .object [("type", .string "uuid")] ]),
                    ("type", .string "union") ]) ]),
            ("type", .string "object") ]) "order" =
      .error (.unsupportedType "uuid"
        "order.properties.b.schemas[1]") := by
  rfl

end Definition

end Conform
