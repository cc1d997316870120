import Conform.Proofs.Definition.Constants
import Conform.Proofs.Value.RoundTrip

/-
  What is compiled of a literal or an enumeration accepts
  the undefined value and whatever equals one of the listed
  data. Whether null is accepted is a flag of the node, which
  is at first whether null is listed and which a definition
  may set. The flags change nothing about any other value,
  and neither does the order of the listed data, nor that
  some are listed repeatedly.

  Listed data are accepted since data equals itself. Not all
  values do, but those that stand for data have no place for
  what is not a number.

  Main declarations:
    * `Value.Plain.equal_self`
    * `Definition.LeafOf`
    * `Definition.Constant`
    * `Definition.Constant.compile_eq`
    * `Definition.constantLaws`
-/

namespace Conform

------------------------------------------------------------
-- Values Equal to Themselves
------------------------------------------------------------

/- A plain value equals itself, at any depth. -/
theorem Value.Plain.equal_self
    {v : Value}
    (h : v.Plain) :
    v.equal v = true := by
  induction h with
  | null => rfl
  | bool b => exact beq_self_eq_true b
  | number negative size =>
      rw [equal]
      exact Number.equal_of_units rfl rfl
  | string s => exact beq_self_eq_true s
  | @array items _ ih =>
      have hItems := (equalItems_map_iff (f := id) items).mpr ih
      rw [List.map_id] at hItems
      rw [equal, hItems]
  | @object fields _ ih =>
      have hFields :=
        (equalFields_map_iff (f := id) fields).mpr ih
      rw [equal]
      exact (congrArg (equalFields · fields)
        (List.map_id fields).symm).trans hFields

/- Data as it is read becomes a plain value. -/
theorem Json.Standard.plain_ofJson
    {j : Json}
    (h : j.Standard) :
    (Value.ofJson j).Plain := by
  induction h with
  | null => exact .null
  | bool b => exact .bool b
  | int hLeast hMost =>
      rcases Json.exists_units_of_64_bits hLeast hMost with
        ⟨u, hUnits⟩
      rw [Value.ofJson, Value.plain_number_iff, hUnits]
      rfl
  | float negative size => exact .number negative size
  | string s => exact .string s
  | @array items _ ih =>
      rw [Value.ofJson, Value.ofItems_eq_map]
      apply Value.Plain.array
      intro v hv
      rcases List.mem_map.mp hv with ⟨j, hj, rfl⟩
      exact ih j hj
  | @object members _ ih =>
      rw [Value.ofJson, Value.ofMembers_eq_map]
      apply Value.Plain.object
      intro f hf
      rcases List.mem_map.mp hf with ⟨m, hm, rfl⟩
      exact ih m hm

theorem contains_map_ofJson
    (items : List Json)
    (v : Value) :
    (items.map Value.ofJson).contains v =
      items.any fun j => v == Value.ofJson j := by
  rw [List.contains_eq_any_beq, List.any_map]
  rfl

theorem beq_null_comm
    (v : Value) :
    (v == Value.null) = (Value.null == v) := by
  cases v <;> rfl

/- Null equals listed data only if null is listed. -/
theorem any_null_equal_iff
    {items : List Json} :
    (items.any fun j => Value.null == Value.ofJson j) = true ↔
      Json.null ∈ items := by
  rw [List.any_eq_true]
  constructor
  · rintro ⟨j, hj, hEqual⟩
    have hNull : j = .null := by
      apply Json.eq_null_of_ofJson
      cases hValue : Value.ofJson j with
      | null => rfl
      | _ =>
          rw [hValue] at hEqual
          cases hEqual
    exact hNull ▸ hj
  · intro h
    exact ⟨.null, h, rfl⟩

namespace Definition

------------------------------------------------------------
-- Leaves of Listed Data
------------------------------------------------------------

/-
  The leaf that a definition declares and the data that it
  lists.
-/
inductive LeafOf
    (fields : List (String × Json)) :
    Leaf → List Json → Prop
  | literal {j : Json}
      (hType : fields.lookup "type" =
        some (.string Tag.literal.name))
      (hValue : fields.lookup "value" = some j) :
      LeafOf fields (.literal (Value.ofJson j)) [j]
  | enumeration {items : List Json}
      (hType : fields.lookup "type" =
        some (.string Tag.enumeration.name))
      (hAllowed : fields.lookup "allowedValues" =
        some (.array items)) :
      LeafOf fields (.enumeration (items.map Value.ofJson))
        items

theorem Lists.exists_leafOf
    {fields : List (String × Json)}
    {items : List Json}
    (h : Lists fields items) :
    ∃ kind, LeafOf fields kind items := by
  cases h with
  | literal hType hValue => exact ⟨_, .literal hType hValue⟩
  | enumeration hType hAllowed =>
      exact ⟨_, .enumeration hType hAllowed⟩

namespace LeafOf

variable {fields : List (String × Json)}
variable {kind : Leaf}
variable {items : List Json}

/- Whatever equals one of the listed data has no problem. -/
theorem isEmpty_problems
    (h : LeafOf fields kind items)
    (v : Value) :
    (kind.problems v).isEmpty =
      items.any fun j => v == Value.ofJson j := by
  cases h with
  | @literal j _ _ =>
      rw [Leaf.problems, List.any_cons, List.any_nil,
        Bool.or_false]
      cases v == Value.ofJson j <;> rfl
  | enumeration _ _ =>
      rw [Leaf.problems, contains_map_ofJson]
      cases items.any fun j => v == Value.ofJson j <;> rfl

/- A field that is not about the listed data may be set. -/
theorem insert
    (h : LeafOf fields kind items)
    {name : String}
    (hName : name ∉ ["type", "value", "allowedValues"])
    (contents : Json) :
    LeafOf (Fields.insert name contents fields) kind items := by
  simp only [List.mem_cons, List.not_mem_nil, or_false,
    not_or] at hName
  rcases hName with ⟨hType, hValue, hAllowed⟩
  have hSame : ∀ other, name ≠ other →
      (Fields.insert name contents fields).lookup other =
        fields.lookup other := by
    intro other hOther
    exact Fields.lookup_insert_of_ne hOther.symm contents fields
  cases h with
  | literal hTag hField =>
      exact .literal ((hSame _ hType).trans hTag)
        ((hSame _ hValue).trans hField)
  | enumeration hTag hField =>
      exact .enumeration ((hSame _ hType).trans hTag)
        ((hSame _ hAllowed).trans hField)

end LeafOf

------------------------------------------------------------
-- Flags
------------------------------------------------------------

/-
  A definition with flags and a message as any definition
  may have them.
-/
structure HasFlags
    (fields : List (String × Json)) : Prop where
  nullable : Optionally fields "nullable" IsFlag
  required : Optionally fields "required" IsFlag
  message : Optionally fields "message" IsText

/-
  The settings of the leaf of listed data. Null is accepted
  if it is listed, unless the definition says otherwise.
-/
def listedSettings
    (fields : List (String × Json))
    (items : List Json) : Settings where
  nullable := (given Json.asBool? fields "nullable").getD
    (items.any fun j => Value.null == Value.ofJson j)
  required := (given Json.asBool? fields "required").getD false
  message := given Json.asString? fields "message"

section

variable {fields : List (String × Json)}
variable {kind : Leaf}
variable {items : List Json}

/- A flag may be set. -/
theorem HasFlags.insert
    (h : HasFlags fields)
    {name : String}
    (hName : name ≠ "message")
    (flag : Bool) :
    HasFlags (Fields.insert name (.bool flag) fields) := by
  have hFlag : ∀ other, Optionally fields other IsFlag →
      Optionally (Fields.insert name (.bool flag) fields) other
        IsFlag := by
    intro other hOther j hj
    by_cases hSame : other = name
    · rw [hSame, Fields.lookup_insert_self] at hj
      exact ⟨flag, (Option.some.inj hj).symm⟩
    · rw [Fields.lookup_insert_of_ne hSame] at hj
      exact hOther j hj
  have hMessage :
      Optionally (Fields.insert name (.bool flag) fields)
        "message" IsText := by
    intro j hj
    rw [Fields.lookup_insert_of_ne hName.symm] at hj
    exact h.message j hj
  exact ⟨hFlag _ h.nullable, hFlag _ h.required, hMessage⟩

theorem HasFlags.header
    (h : HasFlags fields)
    {tag : Tag}
    (hType : fields.lookup "type" = some (.string tag.name)) :
    Header tag fields where
  type := hType
  nullable := h.nullable
  required j hj := Or.inl (h.required j hj)
  message := h.message

/- The flags and the message are set on a new node. -/
theorem finish_new
    (fields : List (String × Json))
    (nullable : Bool)
    (shape : Shape) :
    finish fields none (.node { nullable := nullable } shape) =
      .node
        { nullable :=
            (given Json.asBool? fields "nullable").getD nullable
          required :=
            (given Json.asBool? fields "required").getD false
          message := given Json.asString? fields "message" }
        shape := by
  rw [finish_eq, Schema.mapSettings, Option.or_none]
  rfl

/- Listed data are compiled to their leaf. -/
theorem LeafOf.compile_eq
    (h : LeafOf fields kind items)
    (hFlags : HasFlags fields)
    (registry : Registry)
    (path : String) :
    compile registry (.object fields) path =
      .ok (.node (listedSettings fields items)
        (.leaf kind)) := by
  have hWellFormed : WellFormed registry (.object fields) := by
    cases h with
    | literal hType hValue =>
        exact .definition (hFlags.header hType) (.literal hValue)
    | enumeration hType hAllowed =>
        exact .definition (hFlags.header hType)
          (.enumeration hAllowed)
  have hAssemble :
      assemble registry (.object fields) none =
        .node (listedSettings fields items) (.leaf kind) := by
    rw [assemble_object, assembleParts]
    simp only [partsOf_fields]
    cases h with
    | literal hType hValue =>
        rw [tag?_eq_some_iff.mpr hType]
        simp only [assembleShape, partsOf_fields, hValue,
          Option.getD_some, Schema.literal, finish_new,
          beq_null_comm]
        rw [listedSettings, List.any_cons, List.any_nil,
          Bool.or_false]
    | enumeration hType hAllowed =>
        rw [tag?_eq_some_iff.mpr hType]
        simp only [assembleShape, partsOf_fields,
          given_of_lookup hAllowed, Json.asArray?,
          Option.getD_some, Schema.oneOf, finish_new,
          contains_map_ofJson]
        rfl
  rcases succeeds_compile_iff.mpr hWellFormed with
    ⟨schema, hCompile⟩
  rw [hCompile, (assembled registry _).eq_none hCompile,
    hAssemble]

------------------------------------------------------------
-- Verdicts
------------------------------------------------------------

/- A value that is there is checked by the leaf. -/
theorem isValid_leaf_of_present
    {s : Settings}
    {v : Value}
    (hRules : s.rules = [])
    (hPresent : v.isAbsent = false) :
    (Schema.verdict? (.node s (.leaf kind)) v).map
        Outcome.isValid =
      some (kind.problems v).isEmpty := by
  have hComplaints : s.complaints v = [] := by
    rw [Settings.complaints, hRules]
    rfl
  rw [Schema.verdict?, Schema.judge, Settings.guard,
    s.presence?_of_present hPresent, hComplaints]
  cases kind.problems v <;> rfl

theorem isValid_leaf_undefined
    (s : Settings) :
    (Schema.verdict? (.node s (.leaf kind)) .undefined).map
        Outcome.isValid =
      some !s.required := by
  rw [Schema.verdict?, Schema.judge, Settings.guard,
    Settings.presence?]
  cases s.required <;> rfl

theorem isValid_leaf_null
    (s : Settings) :
    (Schema.verdict? (.node s (.leaf kind)) .null).map
        Outcome.isValid =
      some s.nullable := by
  rw [Schema.verdict?, Schema.judge, Settings.guard,
    Settings.presence?]
  cases s.nullable <;> rfl

/- Of a value only its presence is a matter of the settings. -/
theorem verdict?_leaf_congr
    {s t : Settings}
    {v : Value}
    (hPresence : s.presence? v = t.presence? v)
    (hRules : s.rules = t.rules) :
    Schema.verdict? (.node s (.leaf kind)) v =
      Schema.verdict? (.node t (.leaf kind)) v := by
  rw [Schema.verdict?, Schema.judge, Schema.verdict?,
    Schema.judge, Settings.guard, Settings.guard, hPresence,
    Settings.complaints_eq_of_rules hRules]

/- What a constant accepts, with all its flags. -/
theorem LeafOf.isValid_eq
    (h : LeafOf fields kind items)
    (v : Value) :
    (Schema.verdict?
        (.node (listedSettings fields items) (.leaf kind))
        v).map Outcome.isValid =
      some (
        if v.isUndefined then
          !(given Json.asBool? fields "required").getD false
        else if v.isNull then
          (given Json.asBool? fields "nullable").getD
            (items.any fun j => Value.null == Value.ofJson j)
        else items.any fun j => v == Value.ofJson j) := by
  cases v with
  | undefined => exact isValid_leaf_undefined _
  | null => exact isValid_leaf_null _
  | _ =>
      rw [isValid_leaf_of_present rfl rfl, h.isEmpty_problems]
      rfl

/- Setting the flag for null sets that setting only. -/
theorem listedSettings_insert_nullable
    (flag : Bool) :
    listedSettings
        (Fields.insert "nullable" (.bool flag) fields) items =
      { listedSettings fields items with nullable := flag } := by
  simp only [listedSettings, given, Fields.lookup_insert_self,
    Fields.lookup_insert_of_ne (by decide :
      "required" ≠ "nullable"),
    Fields.lookup_insert_of_ne (by decide :
      "message" ≠ "nullable")]
  rfl

theorem listedSettings_insert_required
    (flag : Bool) :
    listedSettings
        (Fields.insert "required" (.bool flag) fields) items =
      { listedSettings fields items with required := flag } := by
  simp only [listedSettings, given, Fields.lookup_insert_self,
    Fields.lookup_insert_of_ne (by decide :
      "nullable" ≠ "required"),
    Fields.lookup_insert_of_ne (by decide :
      "message" ≠ "required")]
  rfl

end

/- Data listed in another order, or repeatedly. -/
theorem any_congr_of_same_members
    {α : Type}
    {items items' : List α}
    (h : ∀ a, a ∈ items' ↔ a ∈ items)
    (p : α → Bool) :
    items'.any p = items.any p := by
  rw [Bool.eq_iff_iff, List.any_eq_true, List.any_eq_true]
  apply exists_congr
  intro a
  rw [h]

------------------------------------------------------------
-- Laws
------------------------------------------------------------

/- A definition without flags. -/
structure Unflagged
    (fields : List (String × Json)) : Prop where
  nullable : fields.lookup "nullable" = none
  required : fields.lookup "required" = none

/-
  What is compiled of a constant. Without flags it accepts
  the undefined value and what equals one of the listed data,
  hence all of these, and null exactly if it is listed. Each
  flag decides about one value and about no other. Whatever
  the flags are, it does not matter in which order the data
  are listed nor how often.
-/
structure ListedLaws
    (registry : Registry)
    (path : String)
    (fields : List (String × Json))
    (items : List Json)
    (schema : Schema) : Prop where
  accepted :
    Unflagged fields →
      ∀ v,
        (schema.verdict? v).map Outcome.isValid =
          some (v.isUndefined ||
            items.any fun j => v == Value.ofJson j)
  listed :
    Unflagged fields →
      ∀ j ∈ items, j.Standard →
        (schema.verdict? (Value.ofJson j)).map
            Outcome.isValid =
          some true
  null :
    Unflagged fields →
      ((schema.verdict? .null).map Outcome.isValid =
          some true ↔
        Json.null ∈ items)
  nullable :
    ∀ flag, ∃ changed,
      compile registry
          (.object
            (Fields.insert "nullable" (.bool flag) fields))
          path =
        .ok changed ∧
      (changed.verdict? .null).map Outcome.isValid =
        some flag ∧
      ∀ v, v ≠ .null →
        changed.verdict? v = schema.verdict? v
  required :
    ∃ changed,
      compile registry
          (.object
            (Fields.insert "required" (.bool true) fields))
          path =
        .ok changed ∧
      (changed.verdict? .undefined).map Outcome.isValid =
        some false ∧
      ∀ v, v ≠ .undefined →
        changed.verdict? v = schema.verdict? v
  relisted :
    ∀ fields' items',
      Lists fields' items' →
      HasFlags fields' →
      (∀ name ∈ ["nullable", "required"],
        fields'.lookup name = fields.lookup name) →
      (∀ j, j ∈ items' ↔ j ∈ items) →
      ∃ changed,
        compile registry (.object fields') path =
          .ok changed ∧
        ∀ v,
          (changed.verdict? v).map Outcome.isValid =
            (schema.verdict? v).map Outcome.isValid

section

variable {registry : Registry}
variable {path : String}
variable {fields : List (String × Json)}
variable {kind : Leaf}
variable {items : List Json}

/- Without flags a constant accepts what it lists. -/
theorem LeafOf.isValid_of_unflagged
    (h : LeafOf fields kind items)
    (hUnflagged : Unflagged fields)
    (v : Value) :
    (Schema.verdict?
        (.node (listedSettings fields items) (.leaf kind))
        v).map Outcome.isValid =
      some (v.isUndefined ||
        items.any fun j => v == Value.ofJson j) := by
  rw [h.isValid_eq, given, given, hUnflagged.nullable,
    hUnflagged.required]
  cases v <;> rfl

/- A constant obeys the laws. -/
theorem listedLaws
    (registry : Registry)
    (path : String)
    (fields : List (String × Json))
    (items : List Json)
    (hLists : Lists fields items)
    (hFlags : HasFlags fields) :
    ∃ schema,
      compile registry (.object fields) path = .ok schema ∧
        ListedLaws registry path fields items schema := by
  rcases hLists.exists_leafOf with ⟨kind, hLeaf⟩
  refine ⟨_, hLeaf.compile_eq hFlags registry path, ?_⟩
  constructor
  case accepted => exact hLeaf.isValid_of_unflagged
  case listed =>
    intro hUnflagged j hj hStandard
    have hListed :
        (items.any fun k =>
          Value.ofJson j == Value.ofJson k) = true :=
      List.any_eq_true.mpr
        ⟨j, hj, hStandard.plain_ofJson.equal_self⟩
    rw [hLeaf.isValid_of_unflagged hUnflagged, hListed,
      Bool.or_true]
  case null =>
    intro hUnflagged
    rw [hLeaf.isValid_of_unflagged hUnflagged,
      Option.some_inj, ← any_null_equal_iff]
    rfl
  case nullable =>
    intro flag
    have hChanged := hLeaf.insert
      (by decide : "nullable" ∉ _) (.bool flag)
    refine ⟨_, hChanged.compile_eq
      (hFlags.insert (by decide) flag) registry path, ?_, ?_⟩
    · rw [listedSettings_insert_nullable]
      exact isValid_leaf_null _
    · intro v hv
      apply verdict?_leaf_congr
      · rw [listedSettings_insert_nullable]
        cases v with
        | null => exact absurd rfl hv
        | _ => rfl
      · rfl
  case required =>
    have hChanged := hLeaf.insert
      (by decide : "required" ∉ _) (.bool true)
    refine ⟨_, hChanged.compile_eq
      (hFlags.insert (by decide) true) registry path, ?_, ?_⟩
    · rw [listedSettings_insert_required]
      exact isValid_leaf_undefined _
    · intro v hv
      apply verdict?_leaf_congr
      · rw [listedSettings_insert_required]
        cases v with
        | undefined => exact absurd rfl hv
        | _ => rfl
      · rfl
  case relisted =>
    intro fields' items' hLists' hFlags' hSame hMembers
    rcases hLists'.exists_leafOf with ⟨kind', hLeaf'⟩
    refine ⟨_, hLeaf'.compile_eq hFlags' registry path, ?_⟩
    intro v
    have hNullable := hSame "nullable" (by decide)
    have hRequired := hSame "required" (by decide)
    rw [hLeaf.isValid_eq, hLeaf'.isValid_eq]
    simp only [any_congr_of_same_members hMembers, given,
      hNullable, hRequired]

end

/- Tags of which one is null, inside an object. -/
def taggedSeven : Json :=
  .object [("tags", .array [.int 7, .null])]

/- An enumeration of data, as they are given. -/
def enumerationOf
    (items : List Json) : List (String × Json) :=
  [ ("allowedValues", .array items),
    ("type", .string "enum") ]

/-
  The tagged object is accepted, and null is not, although it
  is listed further inside. It is once the flag is set. The
  tagged object may be listed first and last as well.
-/
theorem listedLaws_tagged :
    HasFlags (enumerationOf [.string "open", taggedSeven]) ∧
      ∃ schema,
        compile Registry.empty
            (.object (enumerationOf
              [.string "open", taggedSeven])) "state" =
          .ok schema ∧
        (schema.verdict? (Value.ofJson taggedSeven)).map
            Outcome.isValid =
          some true ∧
        (schema.verdict? .null).map Outcome.isValid ≠
          some true ∧
        (∃ changed : Schema,
          (changed.verdict? .null).map Outcome.isValid =
              some true ∧
            changed.verdict? (Value.ofJson taggedSeven) =
              schema.verdict? (Value.ofJson taggedSeven)) ∧
        ∃ changed,
          compile Registry.empty
              (.object (enumerationOf
                [taggedSeven, .string "open", taggedSeven]))
              "state" =
            .ok changed ∧
          ∀ v,
            (changed.verdict? v).map Outcome.isValid =
              (schema.verdict? v).map Outcome.isValid := by
  have hFlags : ∀ items, HasFlags (enumerationOf items) := by
    intro items
    constructor <;>
      intro j hj <;>
      cases hj
  have hUnflagged :
      Unflagged (enumerationOf [.string "open", taggedSeven]) :=
    ⟨rfl, rfl⟩
  have hStandard : taggedSeven.Standard := by
    apply Json.Standard.object
    intro m hm
    rw [List.mem_singleton] at hm
    subst hm
    apply Json.Standard.array
    intro j hj
    rcases List.mem_pair.mp hj with rfl | rfl
    · exact .int (by decide) (by decide)
    · exact .null
  rcases listedLaws Registry.empty "state" _ _
      (Lists.enumeration rfl rfl) (hFlags _) with
    ⟨schema, hCompile, hLaws⟩
  refine ⟨hFlags _, schema, hCompile, ?_, ?_, ?_, ?_⟩
  · exact hLaws.listed hUnflagged _ (by simp) hStandard
  · rw [Ne, hLaws.null hUnflagged]
    simp [taggedSeven]
  · rcases hLaws.nullable true with
      ⟨changed, _, hNull, hOthers⟩
    refine ⟨changed, hNull, hOthers _ ?_⟩
    intro hTagged
    rw [taggedSeven, Value.ofJson] at hTagged
    cases hTagged
  · refine hLaws.relisted _
      [taggedSeven, .string "open", taggedSeven]
      (.enumeration rfl rfl) (hFlags _) ?_ ?_
    · intro name hName
      rcases List.mem_pair.mp hName with rfl | rfl <;> rfl
    · intro j
      simp [or_comm]

end Definition

end Conform
