import Conform.Proofs.Definition.Meaning
import Conform.Proofs.Schema.Verdict
import Conform.Proofs.Value.Fidelity

/-
  Definitions that list the data they accept: literals and
  enumerations. What is compiled of one accepts data that is
  like one of the listed data up to the rounding of numbers,
  and null where the definition asks for it.

  Main declarations:
    * `Definition.Lists`
    * `Definition.listed_of_accepts`
    * `Definition.told_apart_up_to_rounding`
    * `Definition.neighbours_not_told_apart`
-/

namespace Conform

------------------------------------------------------------
-- Null
------------------------------------------------------------

/- Only null equals null. -/
theorem Value.eq_null_of_equal_null
    {v : Value}
    (h : (v == Value.null) = true) :
    v = .null := by
  change v.equal .null = true at h
  cases v with
  | null => rfl
  | _ => simp [Value.equal] at h

/- Only null becomes null. -/
theorem Json.eq_null_of_ofJson
    {j : Json}
    (h : Value.ofJson j = .null) :
    j = .null := by
  cases j with
  | null => rfl
  | _ =>
      unfold Value.ofJson at h
      cases h

/- No data becomes the undefined value. -/
theorem Json.ofJson_ne_undefined
    (j : Json) :
    Value.ofJson j ≠ .undefined := by
  intro h
  cases j <;>
    unfold Value.ofJson at h <;>
    cases h

namespace Definition

------------------------------------------------------------
-- Listed Data
------------------------------------------------------------

/-
  The data that a definition lists: the one of a literal or
  those of an enumeration.
-/
inductive Lists
    (fields : List (String × Json)) : List Json → Prop
  | literal {j : Json}
      (hType : fields.lookup "type" =
        some (.string Tag.literal.name))
      (hValue : fields.lookup "value" = some j) :
      Lists fields [j]
  | enumeration {items : List Json}
      (hType : fields.lookup "type" =
        some (.string Tag.enumeration.name))
      (hAllowed : fields.lookup "allowedValues" =
        some (.array items)) :
      Lists fields items

/- A definition may say whether null is accepted. -/
theorem nullable_finish
    (fields : List (String × Json))
    (listed : Option Bool)
    (s : Schema) :
    (finish fields listed s).settings.nullable =
      (given Json.asBool? fields "nullable").getD
        s.settings.nullable := by
  rcases s with ⟨settings, shape⟩
  rw [finish_eq]
  rfl

theorem lookup_of_given_asBool?
    {fields : List (String × Json)}
    {name : String}
    {flag : Bool}
    (h : given Json.asBool? fields name = some flag) :
    fields.lookup name = some (.bool flag) := by
  rcases Option.bind_eq_some_iff.mp h with
    ⟨j, hLookup, hRead⟩
  rw [hLookup]
  cases j with
  | bool b => rw [Option.some.inj hRead]
  | _ => cases hRead

/-
  A finished leaf accepts what has its form, and null if it
  was nullable before or if the definition makes it so.
-/
theorem holds_of_accepts_finish
    {resolve : String → Option Schema}
    {fields : List (String × Json)}
    {listed : Option Bool}
    {s : Settings}
    {kind : Leaf}
    {v : Value}
    (hDefined : v ≠ .undefined)
    (h : Accepts resolve
      (finish fields listed (.node s (.leaf kind))) v) :
    kind.Holds v ∨
      (v = .null ∧ (s.nullable = true ∨
        fields.lookup "nullable" = some (.bool true))) := by
  have hShape := shape_finish fields listed
    (.node s (.leaf kind))
  have hNullable := nullable_finish fields listed
    (.node s (.leaf kind))
  generalize finish fields listed (.node s (.leaf kind)) =
    finished at h hShape hNullable
  rcases finished with ⟨settings, shape⟩
  change shape = .leaf kind at hShape
  change settings.nullable = _ at hNullable
  rw [hShape] at h
  rcases accepts_leaf_iff.mp h with
    (⟨hUndefined, _⟩ | ⟨hNull, hAdmits⟩) | ⟨_, _, hHolds⟩
  · exact absurd hUndefined hDefined
  · apply Or.inr
    refine ⟨hNull, ?_⟩
    rw [hAdmits] at hNullable
    cases hGiven : given Json.asBool? fields "nullable" with
    | none =>
        rw [hGiven] at hNullable
        exact Or.inl hNullable.symm
    | some flag =>
        rw [hGiven] at hNullable
        apply Or.inr
        rw [lookup_of_given_asBool? hGiven]
        exact congrArg (some ∘ Json.bool) hNullable.symm
  · exact Or.inl hHolds

/-
  A constant stands for a leaf whose form is to equal listed
  data, and which is nullable at first if null is listed.
-/
theorem assemble_of_lists
    {fields : List (String × Json)}
    {items : List Json}
    (registry : Registry)
    (h : Lists fields items) :
    ∃ s kind,
      assemble registry (.object fields) none =
          finish fields none (.node s (.leaf kind)) ∧
        (∀ v, kind.Holds v →
          ∃ j ∈ items, v.equal (Value.ofJson j) = true) ∧
        (s.nullable = true →
          ∃ j ∈ items,
            Value.null.equal (Value.ofJson j) = true) := by
  rw [assemble_object, assembleParts]
  simp only [partsOf_fields]
  cases h with
  | @literal j hType hValue =>
      rw [tag?_eq_some_iff.mpr hType]
      simp only [assembleShape, partsOf_fields, hValue,
        Option.getD_some]
      refine ⟨_, _, rfl, fun v hHolds => ?_, fun hNull => ?_⟩
      · exact ⟨j, List.mem_singleton_self j, hHolds⟩
      · refine ⟨j, List.mem_singleton_self j, ?_⟩
        rw [Value.eq_null_of_equal_null hNull]
        rfl
  | enumeration hType hAllowed =>
      rw [tag?_eq_some_iff.mpr hType]
      simp only [assembleShape, partsOf_fields,
        given_of_lookup hAllowed, Json.asArray?,
        Option.getD_some]
      refine ⟨_, _, rfl, fun v hHolds => ?_, fun hNull => ?_⟩
      · rcases hHolds with ⟨a, hListed, hEqual⟩
        rcases List.mem_map.mp hListed with ⟨j, hj, rfl⟩
        exact ⟨j, hj, hEqual⟩
      · rcases List.contains_iff_exists_mem_beq.mp hNull with
          ⟨a, hListed, hEqual⟩
        rcases List.mem_map.mp hListed with ⟨j, hj, rfl⟩
        exact ⟨j, hj, hEqual⟩

/- What a compiled constant accepts equals listed data. -/
theorem listed_of_accepts
    {registry : Registry}
    {resolve : String → Option Schema}
    {fields : List (String × Json)}
    {items : List Json}
    {path : String}
    {schema : Schema}
    {k : Json}
    (hLists : Lists fields items)
    (hCompile :
      compile registry (.object fields) path = .ok schema)
    (hAccepts : Accepts resolve schema (Value.ofJson k)) :
    (∃ j ∈ items,
        (Value.ofJson k).equal (Value.ofJson j) = true) ∨
      (k = .null ∧
        fields.lookup "nullable" = some (.bool true)) := by
  rcases assemble_of_lists registry hLists with
    ⟨s, kind, hAssemble, hListed, hDefault⟩
  rw [(assembled registry _).eq_none hCompile, hAssemble]
    at hAccepts
  rcases holds_of_accepts_finish k.ofJson_ne_undefined
      hAccepts with
    hHolds | ⟨hNull, hNullable | hGiven⟩
  · exact Or.inl (hListed _ hHolds)
  · apply Or.inl
    rw [hNull]
    exact hDefault hNullable
  · exact Or.inr ⟨Json.eq_null_of_ofJson hNull, hGiven⟩

/-
  Standard data is told apart from all data, as a value and
  by what is compiled of a constant, as far as this can be
  done with the nearest numbers of binary64. That is enough
  for integers below `2^53` in size. Apart from that only
  null is accepted, where the definition says so.
-/
theorem told_apart_up_to_rounding :
    (∀ j k : Json, j.Standard →
      (Value.ofJson j == Value.ofJson k) = true →
        Json.Alike Number.Blurs j k) ∧
      (∀ i k : Int,
        i.natAbs < Nat.pow 2 53 → k.natAbs < Nat.pow 2 53 →
        Number.Blurs (Number.unitsOfInt i)
          (Number.unitsOfInt k) →
        i = k) ∧
      ∀ (registry : Registry)
        (fields : List (String × Json))
        (items : List Json)
        (path : String)
        (schema : Schema)
        (k : Json),
        Lists fields items →
        compile registry (.object fields) path = .ok schema →
        k.Standard →
        ∃ o, schema.verdict? (Value.ofJson k) = some o ∧
          (o.isValid = true →
            (∃ j ∈ items, Json.Alike Number.Blurs k j) ∨
              (k = .null ∧ fields.lookup "nullable" =
                some (.bool true))) := by
  refine ⟨?_, ?_, ?_⟩
  · intro j k hStandard hEqual
    exact Json.alike_of_equal hStandard k hEqual
  · intro i k hLeft hRight hBlurs
    exact hBlurs.eq_of_small hLeft hRight
  · intro registry fields items path schema k hLists hCompile
      hStandard
    rcases verdict?_of_compile_eq_ok hCompile
        (Value.ofJson k) with
      ⟨o, hVerdict⟩
    refine ⟨o, hVerdict, fun hValid => ?_⟩
    have hDecides := Schema.decides_judge
      (decides_namedJudge (fun _ => none) 0) schema _ o hVerdict
    rcases listed_of_accepts hLists hCompile
        (hDecides.2.mp hValid) with
      ⟨j, hj, hEqual⟩ | hNull
    · exact Or.inl
        ⟨j, hj, Json.alike_of_equal hStandard j hEqual⟩
    · exact Or.inr hNull

/- Seven as a fraction. -/
def sevenAsFraction : Json :=
  .float (.finite false ⟨7 * Magnitude.one,
    Magnitude.representable_mul_one (by decide)⟩)

/- Seven or a text. -/
def sevenOrText : List (String × Json) :=
  [ ("allowedValues", .array [.string "seven", .int 7]),
    ("type", .string "enum") ]

/- Seven is the same as a fraction and as an integer. -/
theorem seven_accepted :
    Json.Alike Number.Blurs (.int 7) sevenAsFraction ∧
      ∃ schema o,
        compile Registry.empty (.object sevenOrText) "root" =
            .ok schema ∧
          schema.verdict? (Value.ofJson sevenAsFraction) =
            some o ∧
          o.isValid = true ∧
          ∃ j ∈ [.string "seven", .int 7],
            Json.Alike Number.Blurs sevenAsFraction j := by
  have hCompile :
      compile Registry.empty (.object sevenOrText) "root" =
        .ok (assemble Registry.empty (.object sevenOrText)
          none) := rfl
  have hAccepted :
      ((assemble Registry.empty (.object sevenOrText)
        none).verdict? (Value.ofJson sevenAsFraction)).map
          Outcome.isValid = some true := by
    decide +kernel
  constructor
  · exact told_apart_up_to_rounding.1 (.int 7) sevenAsFraction
      (.int (by decide) (by decide)) (by decide +kernel)
  · rcases told_apart_up_to_rounding.2.2 Registry.empty
        sevenOrText [.string "seven", .int 7] "root" _
        sevenAsFraction (.enumeration rfl rfl) hCompile
        (.float _ _) with
      ⟨o, hVerdict, hListed⟩
    rw [hVerdict] at hAccepted
    have hValid := Option.some.inj hAccepted
    refine ⟨_, o, hCompile, hVerdict, hValid, ?_⟩
    rcases hListed hValid with hFound | ⟨hNull, _⟩
    · exact hFound
    · cases hNull

/-
  A large odd integer and its even neighbour become the same
  value, so that a literal accepts one for the other. Null
  is accepted in place of any constant that is nullable.
-/
theorem neighbours_not_told_apart :
    (Value.ofJson (.int 9007199254740993) ==
        Value.ofJson (.int 9007199254740992)) = true ∧
      ¬ Json.Alike Eq (.int 9007199254740993)
        (.int 9007199254740992) ∧
      (∃ schema,
        compile Registry.empty
            (.object [("type", .string "literal"),
              ("value", .int 9007199254740993)]) "root" =
          .ok schema ∧
        (schema.verdict? (Value.ofJson
            (.int 9007199254740992))).map Outcome.isValid =
          some true) ∧
      ∃ schema,
        compile Registry.empty
            (.object [("nullable", .bool true),
              ("type", .string "literal"),
              ("value", .int 5)]) "root" =
          .ok schema ∧
        (schema.verdict? (Value.ofJson .null)).map
            Outcome.isValid =
          some true := by
  refine ⟨by decide +kernel, ?_, ⟨_, rfl, by decide +kernel⟩,
    ⟨_, rfl, by decide +kernel⟩⟩
  intro hAlike
  cases hAlike with
  | number hLeft hRight hSame =>
      have hUnits := (Option.some.inj hLeft).trans
        (hSame.trans (Option.some.inj hRight).symm)
      have hEqual := Number.unitsOfInt_inj hUnits
      omega

end Definition

end Conform
