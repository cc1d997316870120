import Conform.Proofs.Definition.Reading

/-
  The grammar of definitions, as the least set of data that
  obeys its rules, and the proof that exactly the data in it
  are compiled. Whether a definition is compiled does not
  depend on the path that names it.

  Main declarations:
    * `Definition.Header`
    * `Definition.Body`
    * `Definition.WellFormed`
    * `Definition.compile_isOk_iff`
-/

namespace Conform

namespace Definition

------------------------------------------------------------
-- Contents of Fields
------------------------------------------------------------

/- A truth value. -/
def IsFlag
    (j : Json) : Prop :=
  ∃ b, j = .bool b

/- A string. -/
def IsText
    (j : Json) : Prop :=
  ∃ text, j = .string text

/- An integer or a fraction. -/
def IsNumber
    (j : Json) : Prop :=
  (∃ i, j = .int i) ∨ (∃ x, j = .float x)

/- An integer from zero on and below `2^64`. -/
def IsLength
    (j : Json) : Prop :=
  ∃ n : Nat, n < Json.lengthLimit ∧ j = .int n

/- A string that denotes an instant. -/
def IsDate
    (j : Json) : Prop :=
  ∃ text t, j = .string text ∧ Instant.ofText? text = some t

/- A list of strings. -/
def IsNames
    (j : Json) : Prop :=
  ∃ names : List String, j = .array (names.map .string)

------------------------------------------------------------
-- Grammar
------------------------------------------------------------

/-
  The fields that every definition has or may have. Only an
  object may have a list of names as `required`.
-/
structure Header
    (tag : Tag)
    (fields : List (String × Json)) : Prop where
  type : fields.lookup "type" = some (.string tag.name)
  nullable : Optionally fields "nullable" IsFlag
  required : Optionally fields "required" fun j =>
    IsFlag j ∨ (tag = .object ∧ IsNames j)
  message : Optionally fields "message" IsText

/-
  The fields that a tag asks for, where the definitions that
  they hold have a given property.
-/
inductive Body
    (registry : Registry)
    (good : Json → Prop) :
    Tag → List (String × Json) → Prop
  | string {fields : List (String × Json)}
      (hLeast : Optionally fields "minLength" IsLength)
      (hMost : Optionally fields "maxLength" IsLength) :
      Body registry good .string fields
  | number {fields : List (String × Json)}
      (hLeast : Optionally fields "min" IsNumber)
      (hMost : Optionally fields "max" IsNumber)
      (hInteger : Optionally fields "integer" IsFlag) :
      Body registry good .number fields
  | boolean {fields : List (String × Json)} :
      Body registry good .boolean fields
  | date {fields : List (String × Json)}
      (hEarliest : Optionally fields "min" IsDate)
      (hLatest : Optionally fields "max" IsDate) :
      Body registry good .date fields
  | any {fields : List (String × Json)} :
      Body registry good .any fields
  | enumeration {fields : List (String × Json)}
      {allowed : List Json}
      (hAllowed : fields.lookup "allowedValues" =
        some (.array allowed)) :
      Body registry good .enumeration fields
  | literal {fields : List (String × Json)} {expected : Json}
      (hExpected : fields.lookup "value" = some expected) :
      Body registry good .literal fields
  | bareObject {fields : List (String × Json)}
      (hProperties : fields.lookup "properties" = none) :
      Body registry good .object fields
  | object {fields members : List (String × Json)}
      (hProperties : fields.lookup "properties" =
        some (.object members))
      (hMembers : ∀ m ∈ members, good m.2) :
      Body registry good .object fields
  | array {fields : List (String × Json)}
      (hItems : Optionally fields "items" good)
      (hLeast : Optionally fields "minLength" IsLength)
      (hMost : Optionally fields "maxLength" IsLength) :
      Body registry good .array fields
  | tuple {fields : List (String × Json)} {items : List Json}
      (hSchemas : fields.lookup "schemas" =
        some (.array items))
      (hItems : ∀ j ∈ items, good j) :
      Body registry good .tuple fields
  | union {fields : List (String × Json)} {items : List Json}
      (hSchemas : fields.lookup "schemas" =
        some (.array items))
      (hItems : ∀ j ∈ items, good j) :
      Body registry good .union fields
  | record {fields : List (String × Json)}
      {keys contents : Json}
      (hKeys : fields.lookup "keySchema" = some keys)
      (hContents : fields.lookup "valueSchema" =
        some contents)
      (hGoodKeys : good keys)
      (hGoodContents : good contents) :
      Body registry good .record fields
  | nullable {fields : List (String × Json)} {inner : Json}
      (hInner : fields.lookup "schema" = some inner)
      (hGood : good inner) :
      Body registry good .nullable fields
  | optional {fields : List (String × Json)} {inner : Json}
      (hInner : fields.lookup "schema" = some inner)
      (hGood : good inner) :
      Body registry good .optional fields
  | mapped {fields : List (String × Json)} {inner : Json}
      {name : String}
      (hInner : fields.lookup "schema" = some inner)
      (hGood : good inner)
      (hName : fields.lookup "transformFn" =
        some (.string name))
      (hMapping : registry.contains name = true) :
      Body registry good .mapped fields
  | lazy {fields : List (String × Json)} {inner : Json}
      (hInner : fields.lookup "schema" = some inner)
      (hGood : good inner)
      (hProperty : Optionally fields "propertyName" IsText) :
      Body registry good .lazy fields

/- The definitions that are well formed for a registry. -/
inductive WellFormed
    (registry : Registry) : Json → Prop
  | definition {tag : Tag} {fields : List (String × Json)}
      (hHeader : Header tag fields)
      (hBody : Body registry (WellFormed registry) tag fields) :
      WellFormed registry (.object fields)

------------------------------------------------------------
-- Success of the Readers
------------------------------------------------------------

/- A computation that has a result. -/
def Succeeds
    {α : Type}
    (x : Except Fault α) : Prop :=
  ∃ a, x = .ok a

section

variable {α β : Type}

theorem succeeds_ok
    (a : α) :
    Succeeds (.ok a) :=
  ⟨a, rfl⟩

theorem not_succeeds_error
    (e : Fault) :
    ¬ Succeeds (.error e : Except Fault α) := by
  rintro ⟨a, h⟩
  cases h

theorem succeeds_bind_iff
    {x : Except Fault α}
    {f : α → Except Fault β} :
    Succeeds (x >>= f) ↔ ∃ a, x = .ok a ∧ Succeeds (f a) := by
  constructor
  · rintro ⟨b, h⟩
    rcases bind_eq_ok_iff.mp h with ⟨a, hFirst, hRest⟩
    exact ⟨a, hFirst, b, hRest⟩
  · rintro ⟨a, hFirst, b, hRest⟩
    exact ⟨b, bind_eq_ok_iff.mpr ⟨a, hFirst, hRest⟩⟩

/- A step whose result does not matter for what follows. -/
theorem succeeds_bind_and_iff
    {x : Except Fault α}
    {f : α → Except Fault β}
    {p : Prop}
    (h : ∀ a, x = .ok a → (Succeeds (f a) ↔ p)) :
    Succeeds (x >>= f) ↔ Succeeds x ∧ p := by
  rw [succeeds_bind_iff]
  constructor
  · rintro ⟨a, hFirst, hRest⟩
    exact ⟨⟨a, hFirst⟩, (h a hFirst).mp hRest⟩
  · rintro ⟨⟨a, hFirst⟩, hRest⟩
    exact ⟨a, hFirst, (h a hFirst).mpr hRest⟩

/- A last step that always has a result. -/
theorem succeeds_bind_ok_iff
    {x : Except Fault α}
    {f : α → β} :
    Succeeds (x >>= fun a => .ok (f a)) ↔ Succeeds x := by
  rw [succeeds_bind_and_iff (p := True)
    fun a _ => iff_true_intro (succeeds_ok (f a)), and_true]

theorem succeeds_map_iff
    {x : Except Fault α}
    {f : α → β} :
    Succeeds (x.map f) ↔ Succeeds x := by
  cases x <;> simp [Succeeds, Except.map]

theorem succeeds_typed_iff
    {expected : Expected}
    {read? : Json → Option α}
    {fields : List (String × Json)}
    {path name : String} :
    Succeeds (typed expected read? fields path name) ↔
      Optionally fields name fun j =>
        ∃ a, read? j = some a := by
  constructor
  · rintro ⟨contents, h⟩
    exact (typed_eq_ok_iff.mp h).1
  · intro h
    exact ⟨_, typed_eq_ok_iff.mpr ⟨h, rfl⟩⟩

end

/- The condition on a field may be put in other words. -/
theorem optionally_congr
    {fields : List (String × Json)}
    {name : String}
    {p q : Json → Prop}
    (h : ∀ j, p j ↔ q j) :
    Optionally fields name p ↔ Optionally fields name q := by
  simp only [Optionally, h]

section

variable {fields : List (String × Json)}
variable {path name : String}

theorem succeeds_textField_iff :
    Succeeds (textField fields path name) ↔
      Optionally fields name IsText := by
  rw [textField, succeeds_typed_iff]
  refine optionally_congr fun j => ?_
  cases j <;> simp [Json.asString?, IsText]

theorem succeeds_flagField_iff :
    Succeeds (flagField fields path name) ↔
      Optionally fields name IsFlag := by
  rw [flagField, succeeds_typed_iff]
  refine optionally_congr fun j => ?_
  cases j <;> simp [Json.asBool?, IsFlag]

theorem succeeds_numberField_iff :
    Succeeds (numberField fields path name) ↔
      Optionally fields name IsNumber := by
  rw [numberField, succeeds_typed_iff]
  refine optionally_congr fun j => ?_
  cases j <;> simp [Json.asNumber?, IsNumber]

theorem asLength?_isSome_iff
    (j : Json) :
    (∃ n, j.asLength? = some n) ↔ IsLength j := by
  cases j with
  | int i =>
      constructor
      · rintro ⟨n, h⟩
        rw [Json.asLength?] at h
        split at h
        · next hBounds =>
            refine ⟨i.toNat, hBounds.2, ?_⟩
            rw [Int.toNat_of_nonneg hBounds.1]
        · cases h
      · rintro ⟨n, hLimit, hInt⟩
        cases hInt
        refine ⟨n, ?_⟩
        rw [Json.asLength?,
          if_pos ⟨Int.natCast_nonneg n, hLimit⟩]
        rfl
  | _ => simp [Json.asLength?, IsLength]

theorem succeeds_lengthField_iff :
    Succeeds (lengthField fields path name) ↔
      Optionally fields name IsLength := by
  rw [lengthField, succeeds_typed_iff]
  exact optionally_congr asLength?_isSome_iff

theorem succeeds_dateField_iff :
    Succeeds (dateField fields path name) ↔
      Optionally fields name IsDate := by
  rw [dateField, succeeds_typed_iff]
  refine optionally_congr fun j => ?_
  cases j <;> simp [Json.asString?, IsDate]

theorem succeeds_requireList_iff :
    Succeeds (requireList fields path name) ↔
      ∃ items, fields.lookup name = some (.array items) := by
  simp only [Succeeds, requireList_eq_ok_iff]

theorem succeeds_requireMapping_iff
    {registry : Registry} :
    Succeeds (requireMapping registry path name) ↔
      registry.contains name = true := by
  simp only [Succeeds, requireMapping_eq_ok_iff,
    Registry.contains, Option.isSome_iff_exists]

/- A mapping is named by a field and found under its name. -/
theorem succeeds_namedMapping_iff
    {registry : Registry}
    (inner : Schema) :
    Succeeds (do
      let text ← requireText fields path name
      let mapping ← requireMapping registry path text
      .ok (Schema.mapped inner mapping)) ↔
      ∃ text, fields.lookup name = some (.string text) ∧
        registry.contains text = true := by
  rw [succeeds_bind_iff]
  simp only [requireText_eq_ok_iff, succeeds_bind_ok_iff,
    succeeds_requireMapping_iff]

end

------------------------------------------------------------
-- Success of the Definitions Inside
------------------------------------------------------------

/- The names of a list are read exactly if all are strings. -/
theorem asNames_isSome_iff
    (items : List Json) :
    (∃ names, items.mapM Json.asString? = some names) ↔
      IsNames (.array items) := by
  simp only [mapM_asString?_eq_some_iff, IsNames,
    Json.array.injEq]

theorem succeeds_requiredNames_iff
    {fields : List (String × Json)}
    {path : String} :
    Succeeds (requiredNames fields path) ↔
      Optionally fields "required" fun j =>
        ∀ items, j = .array items → IsNames j := by
  unfold requiredNames Optionally
  cases hLookup : fields.lookup "required" with
  | none => simp [succeeds_ok]
  | some j =>
      cases j with
      | array items =>
          have hNames := asNames_isSome_iff items
          cases hRead : items.mapM Json.asString? with
          | none =>
              simp only [hRead, reduceCtorEq, exists_false,
                false_iff] at hNames
              simp [hRead, hNames, not_succeeds_error]
          | some names =>
              simp only [hRead, Option.some.injEq, exists_eq',
                true_iff] at hNames
              simp [hRead, hNames, succeeds_ok]
      | _ => simp [succeeds_ok]

section

variable {registry : Registry}
variable {good : Json → Prop}
variable {fields : List (String × Json)}
variable {path name : String}

/-
  Whether parts of a definition are compiled is a property
  of each of them and does not depend on their paths.
-/
def PartsSucceed
    (registry : Registry)
    (good : Json → Prop)
    (fields : List (String × Json)) : Prop :=
  ∀ j, Part fields j → ∀ path,
    Succeeds (compile registry j path) ↔ good j

theorem succeeds_requireChild_iff
    (h : PartsSucceed registry good fields) :
    Succeeds (requireChild
        (partsOf (compile registry) fields) path name) ↔
      ∃ j, fields.lookup name = some j ∧ good j := by
  constructor
  · rintro ⟨schema, hMade⟩
    rcases requireChild_eq_ok_iff.mp hMade with
      ⟨j, hLookup, hCompile⟩
    exact ⟨j, hLookup,
      (h j (.field hLookup) _).mp ⟨schema, hCompile⟩⟩
  · rintro ⟨j, hLookup, hGood⟩
    rcases (h j (.field hLookup) (under path name)).mpr
      hGood with ⟨schema, hCompile⟩
    exact ⟨schema,
      requireChild_eq_ok_iff.mpr ⟨j, hLookup, hCompile⟩⟩

theorem succeeds_optionalChild_iff
    (h : PartsSucceed registry good fields) :
    Succeeds (optionalChild
        (partsOf (compile registry) fields) path name) ↔
      Optionally fields name good := by
  unfold optionalChild Optionally
  cases hLookup : fields.lookup name with
  | none => simp [partsOf, hLookup, succeeds_ok]
  | some j =>
      simp only [partsOf, hLookup, Option.map_some,
        succeeds_map_iff, h j (.field hLookup)]
      simp

theorem succeeds_compileEach_iff
    {items : List Json}
    (h : ∀ j ∈ items, ∀ path,
      Succeeds (compile registry j path) ↔ good j)
    (i : Nat) :
    Succeeds (compileEach path name i
        (items.map (compile registry))) ↔
      ∀ j ∈ items, good j := by
  induction items generalizing i with
  | nil => simp [compileEach, succeeds_ok]
  | cons j rest ih =>
      have hRest := ih
        (fun k hk => h k (List.mem_cons_of_mem j hk)) (i + 1)
      rw [List.map_cons, compileEach, List.forall_mem_cons,
        ← h j List.mem_cons_self]
      refine succeeds_bind_and_iff fun _ _ => ?_
      rw [succeeds_bind_ok_iff]
      exact hRest

theorem succeeds_requireChildren_iff
    (h : PartsSucceed registry good fields) :
    Succeeds (requireChildren
        (partsOf (compile registry) fields) path name) ↔
      ∃ items, fields.lookup name = some (.array items) ∧
        ∀ j ∈ items, good j := by
  rw [requireChildren, succeeds_bind_iff]
  simp only [present_eq_ok_iff, partsOf]
  constructor
  · rintro ⟨list, hList, hCompile⟩
    rcases Option.map_eq_some_iff.mp hList with
      ⟨j, hLookup, hEq⟩
    cases j with
    | array items =>
        subst hEq
        refine ⟨items, hLookup, ?_⟩
        exact (succeeds_compileEach_iff
          (fun k hk => h k (.item hLookup hk)) 0).mp hCompile
    | _ =>
        subst hEq
        exact absurd hCompile (not_succeeds_error _)
  · rintro ⟨items, hLookup, hGood⟩
    refine ⟨some (items.map (compile registry)), ?_, ?_⟩
    · rw [hLookup]
      rfl
    · exact (succeeds_compileEach_iff
        (fun k hk => h k (.item hLookup hk)) 0).mpr hGood

theorem succeeds_compileMembers_iff
    {members : List (String × Json)}
    {required : Option (List String)}
    (h : ∀ m ∈ members, ∀ path,
      Succeeds (compile registry m.2 path) ↔ good m.2) :
    Succeeds (compileMembers path required
        (members.map fun m => (m.1, compile registry m.2))) ↔
      ∀ m ∈ members, good m.2 := by
  induction members with
  | nil => simp [compileMembers, succeeds_ok]
  | cons m rest ih =>
      have hRest := ih fun k hk =>
        h k (List.mem_cons_of_mem m hk)
      rw [List.map_cons, compileMembers, List.forall_mem_cons,
        ← h m List.mem_cons_self]
      refine succeeds_bind_and_iff fun _ _ => ?_
      rw [succeeds_bind_ok_iff]
      exact hRest

theorem succeeds_compileProperties_iff
    (h : PartsSucceed registry good fields) :
    Succeeds (compileProperties
        (partsOf (compile registry) fields) path) ↔
      Succeeds (requiredNames fields path) ∧
        Body registry good .object fields := by
  rw [compileProperties]
  refine succeeds_bind_and_iff fun required _ => ?_
  cases hLookup : fields.lookup "properties" with
  | none =>
      simp only [partsOf, hLookup, Option.map_none]
      exact iff_of_true (succeeds_ok _) (.bareObject hLookup)
  | some j =>
      cases j with
      | object members =>
          simp only [partsOf, hLookup, Option.map_some,
            Json.asObject?]
          rw [succeeds_compileMembers_iff
            fun m hm => h m.2 (.member hLookup hm)]
          constructor
          · exact Body.object hLookup
          · intro hBody
            cases hBody with
            | bareObject hNone =>
                rw [hLookup] at hNone
                cases hNone
            | object hSome hMembers =>
                rw [hLookup] at hSome
                cases hSome
                exact hMembers
      | _ =>
          simp only [partsOf, hLookup, Option.map_some,
            Json.asObject?, Option.map_none]
          refine iff_of_false (not_succeeds_error _) ?_
          intro hBody
          cases hBody with
          | bareObject hNone =>
              rw [hLookup] at hNone
              cases hNone
          | object hSome _ =>
              rw [hLookup] at hSome
              cases hSome

/-
  What a tag other than that of an object stands for is
  compiled exactly if the fields are those that it asks for.
-/
theorem succeeds_compileShape_iff_body
    (h : PartsSucceed registry good fields)
    {tag : Tag}
    (hTag : tag ≠ .object) :
    Succeeds (compileShape registry
        (partsOf (compile registry) fields) path tag) ↔
      Body registry good tag fields := by
  cases tag with
  | string =>
      rw [compileShape, succeeds_bind_and_iff
        fun _ _ => succeeds_bind_ok_iff]
      simp only [partsOf, succeeds_lengthField_iff]
      constructor
      · intro hSuccess
        rcases hSuccess with ⟨hLeast, hMost⟩
        exact .string hLeast hMost
      · intro hBody
        cases hBody with
        | string hLeast hMost => exact ⟨hLeast, hMost⟩
  | number =>
      rw [compileShape, succeeds_bind_and_iff fun _ _ =>
        succeeds_bind_and_iff fun _ _ => succeeds_bind_ok_iff]
      simp only [partsOf, succeeds_numberField_iff,
        succeeds_flagField_iff]
      constructor
      · intro hSuccess
        rcases hSuccess with ⟨hLeast, hMost, hInteger⟩
        exact .number hLeast hMost hInteger
      · intro hBody
        cases hBody with
        | number hLeast hMost hInteger =>
            exact ⟨hLeast, hMost, hInteger⟩
  | boolean =>
      exact iff_of_true (succeeds_ok _) .boolean
  | date =>
      rw [compileShape, succeeds_bind_and_iff
        fun _ _ => succeeds_bind_ok_iff]
      simp only [partsOf, succeeds_dateField_iff]
      constructor
      · intro hSuccess
        rcases hSuccess with ⟨hEarliest, hLatest⟩
        exact .date hEarliest hLatest
      · intro hBody
        cases hBody with
        | date hEarliest hLatest => exact ⟨hEarliest, hLatest⟩
  | any =>
      exact iff_of_true (succeeds_ok _) .any
  | enumeration =>
      rw [compileShape, succeeds_bind_ok_iff,
        succeeds_requireList_iff]
      constructor
      · intro hSuccess
        rcases hSuccess with ⟨allowed, hAllowed⟩
        exact .enumeration hAllowed
      · intro hBody
        cases hBody with
        | enumeration hAllowed => exact ⟨_, hAllowed⟩
  | literal =>
      rw [compileShape, succeeds_bind_ok_iff]
      constructor
      · intro hSuccess
        rcases hSuccess with ⟨expected, hExpected⟩
        exact .literal (present_eq_ok_iff.mp hExpected)
      · intro hBody
        cases hBody with
        | literal hExpected =>
            exact ⟨_, present_eq_ok_iff.mpr hExpected⟩
  | object => exact absurd rfl hTag
  | array =>
      rw [compileShape, succeeds_bind_and_iff fun _ _ =>
        succeeds_bind_and_iff fun _ _ => succeeds_bind_ok_iff,
        succeeds_optionalChild_iff h]
      simp only [partsOf, succeeds_lengthField_iff]
      constructor
      · intro hSuccess
        rcases hSuccess with ⟨hItems, hLeast, hMost⟩
        exact .array hItems hLeast hMost
      · intro hBody
        cases hBody with
        | array hItems hLeast hMost =>
            exact ⟨hItems, hLeast, hMost⟩
  | tuple =>
      rw [compileShape, succeeds_bind_ok_iff,
        succeeds_requireChildren_iff h]
      constructor
      · intro hSuccess
        rcases hSuccess with ⟨items, hSchemas, hItems⟩
        exact .tuple hSchemas hItems
      · intro hBody
        cases hBody with
        | tuple hSchemas hItems => exact ⟨_, hSchemas, hItems⟩
  | union =>
      rw [compileShape, succeeds_bind_ok_iff,
        succeeds_requireChildren_iff h]
      constructor
      · intro hSuccess
        rcases hSuccess with ⟨items, hSchemas, hItems⟩
        exact .union hSchemas hItems
      · intro hBody
        cases hBody with
        | union hSchemas hItems => exact ⟨_, hSchemas, hItems⟩
  | record =>
      rw [compileShape, succeeds_bind_and_iff
        fun _ _ => succeeds_bind_ok_iff,
        succeeds_requireChild_iff h,
        succeeds_requireChild_iff h]
      constructor
      · intro hSuccess
        rcases hSuccess with ⟨⟨keys, hKeys, hGoodKeys⟩,
          contents, hContents, hGoodContents⟩
        exact .record hKeys hContents hGoodKeys hGoodContents
      · intro hBody
        cases hBody with
        | record hKeys hContents hGoodKeys hGoodContents =>
            exact ⟨⟨_, hKeys, hGoodKeys⟩,
              _, hContents, hGoodContents⟩
  | nullable =>
      rw [compileShape, succeeds_bind_ok_iff,
        succeeds_requireChild_iff h]
      constructor
      · intro hSuccess
        rcases hSuccess with ⟨inner, hInner, hGood⟩
        exact .nullable hInner hGood
      · intro hBody
        cases hBody with
        | nullable hInner hGood => exact ⟨_, hInner, hGood⟩
  | optional =>
      rw [compileShape, succeeds_bind_ok_iff,
        succeeds_requireChild_iff h]
      constructor
      · intro hSuccess
        rcases hSuccess with ⟨inner, hInner, hGood⟩
        exact .optional hInner hGood
      · intro hBody
        cases hBody with
        | optional hInner hGood => exact ⟨_, hInner, hGood⟩
  | mapped =>
      rw [compileShape, succeeds_bind_and_iff
        fun inner _ => succeeds_namedMapping_iff inner,
        succeeds_requireChild_iff h]
      simp only [partsOf]
      constructor
      · intro hSuccess
        rcases hSuccess with
          ⟨⟨inner, hInner, hGood⟩, name, hName, hMapping⟩
        exact .mapped hInner hGood hName hMapping
      · intro hBody
        cases hBody with
        | mapped hInner hGood hName hMapping =>
            exact ⟨⟨_, hInner, hGood⟩, _, hName, hMapping⟩
  | lazy =>
      rw [compileShape, succeeds_bind_and_iff
        fun _ _ => succeeds_bind_ok_iff,
        succeeds_requireChild_iff h]
      simp only [partsOf, succeeds_textField_iff]
      constructor
      · intro hSuccess
        rcases hSuccess with ⟨⟨inner, hInner, hGood⟩, hProperty⟩
        exact .lazy hInner hGood hProperty
      · intro hBody
        cases hBody with
        | lazy hInner hGood hProperty =>
            exact ⟨⟨_, hInner, hGood⟩, hProperty⟩

/- An object also reads its list of required names here. -/
theorem succeeds_compileShape_iff
    (h : PartsSucceed registry good fields)
    (tag : Tag) :
    Succeeds (compileShape registry
        (partsOf (compile registry) fields) path tag) ↔
      (tag = .object →
        Succeeds (requiredNames fields path)) ∧
      Body registry good tag fields := by
  by_cases hTag : tag = .object
  · subst hTag
    rw [compileShape, succeeds_bind_ok_iff,
      succeeds_compileProperties_iff h]
    simp
  · rw [succeeds_compileShape_iff_body h hTag]
    simp [hTag]

end

------------------------------------------------------------
-- Success of the Compilation
------------------------------------------------------------

theorem succeeds_requiredFlag_iff
    {fields : List (String × Json)}
    {path : String}
    {tag : Tag} :
    Succeeds (requiredFlag fields path tag) ↔
      Optionally fields "required" fun j =>
        IsFlag j ∨ (tag = .object ∧ ∃ items, j = .array items)
      := by
  unfold requiredFlag Optionally
  cases fields.lookup "required" with
  | none => simp [succeeds_ok]
  | some j =>
      cases j with
      | bool flag => simp [succeeds_ok, IsFlag]
      | array items =>
          by_cases hTag : tag = .object
          · simp [hTag, succeeds_ok]
          · simp [hTag, not_succeeds_error, IsFlag]
      | _ => simp [not_succeeds_error, IsFlag]

/-
  The list of names is looked at twice: as the requirements
  on the properties, and as a field that is no truth value.
-/
theorem required_iff
    {fields : List (String × Json)}
    {path : String}
    {tag : Tag} :
    ((tag = .object → Succeeds (requiredNames fields path)) ∧
        Succeeds (requiredFlag fields path tag)) ↔
      Optionally fields "required" fun j =>
        IsFlag j ∨ (tag = .object ∧ IsNames j) := by
  rw [succeeds_requiredNames_iff, succeeds_requiredFlag_iff]
  constructor
  · rintro ⟨hNames, hFlag⟩ j hLookup
    rcases hFlag j hLookup with hFlag | ⟨hTag, items, hArray⟩
    · exact Or.inl hFlag
    · exact Or.inr ⟨hTag, hNames hTag j hLookup items hArray⟩
  · intro h
    constructor
    · intro _ j hLookup items hArray
      rcases h j hLookup with ⟨b, hBool⟩ | ⟨_, hNames⟩
      · rw [hArray] at hBool
        cases hBool
      · exact hNames
    · intro j hLookup
      rcases h j hLookup with hFlag | ⟨hTag, names, hArray⟩
      · exact Or.inl hFlag
      · exact Or.inr ⟨hTag, _, hArray⟩

/- After the tag, each part of a definition is compiled. -/
theorem succeeds_compileParts_iff
    {registry : Registry}
    {parts : Parts Compiler}
    {path : String} :
    Succeeds (compileParts registry parts path) ↔
      ∃ tag,
        parts.fields.lookup "type" = some (.string tag.name) ∧
        Succeeds (compileShape registry parts path tag) ∧
        Optionally parts.fields "nullable" IsFlag ∧
        Succeeds (requiredFlag parts.fields path tag) ∧
        Optionally parts.fields "message" IsText := by
  rw [compileParts, succeeds_bind_iff]
  refine exists_congr fun tag => ?_
  rw [requireTag_eq_ok_iff]
  refine and_congr_right fun _ => ?_
  rw [succeeds_bind_and_iff fun _ _ =>
    succeeds_bind_and_iff fun _ _ =>
    succeeds_bind_and_iff fun _ _ => succeeds_bind_ok_iff,
    succeeds_flagField_iff, succeeds_textField_iff]

/-
  A definition is compiled exactly if it is well formed. The
  induction is on the definition: the parts of a definition
  are smaller, and their paths do not matter.
-/
theorem succeeds_compile_iff
    {registry : Registry}
    {definition : Json}
    {path : String} :
    Succeeds (compile registry definition path) ↔
      WellFormed registry definition := by
  induction definition using part_induct generalizing path with
  | other j hOther =>
      constructor
      · rintro ⟨schema, h⟩
        rcases object_of_compile_eq_ok registry h with
          ⟨fields, hObject⟩
        exact absurd hObject (hOther fields)
      · intro h
        cases h with
        | definition => exact absurd rfl (hOther _)
  | object fields ih =>
      have hParts : PartsSucceed registry
          (WellFormed registry) fields :=
        fun j hPart _ => ih j hPart
      rw [compile_object, succeeds_compileParts_iff]
      simp only [succeeds_compileShape_iff hParts]
      constructor
      · rintro ⟨tag, hType, ⟨hNames, hBody⟩,
          hNullable, hFlag, hMessage⟩
        have hRequired := required_iff.mp ⟨hNames, hFlag⟩
        exact .definition
          ⟨hType, hNullable, hRequired, hMessage⟩ hBody
      · intro h
        cases h with
        | @definition tag _ hHeader hBody =>
            rcases required_iff.mpr hHeader.required with
              ⟨hNames, hFlag⟩
            exact ⟨tag, hHeader.type, ⟨hNames, hBody⟩,
              hHeader.nullable, hFlag, hHeader.message⟩

/- Exactly the well-formed definitions are compiled. -/
theorem compile_isOk_iff
    (registry : Registry)
    (definition : Json)
    (path : String) :
    (∃ schema, compile registry definition path = .ok schema) ↔
      WellFormed registry definition :=
  succeeds_compile_iff

end Definition

end Conform
