import Conform.Proofs.Schema.Verdict

/-
  Properties that are missing. An object does not ask the
  child about a missing property: it only looks at whether
  the child is required. The child's own verdict on the
  undefined value follows the same flag for most kinds of
  node, and this file says for each kind when it does.

  Main declarations:
    * `Schema.HeedsRequired`
    * `Schema.heedsRequired_iff`
    * `Schema.judgeWithin_missing_property`
    * `Schema.undeclare`
    * `Schema.judgeWithin_undeclare`
    * `Schema.missing_property_agrees_iff`
    * `Schema.missing_property_of_accepting_union`
-/

namespace Conform

namespace Schema

------------------------------------------------------------
-- The Undefined Value
------------------------------------------------------------

/-
  A node that refuses the undefined value if it is required
  and accepts it if it is not:
    * leaves, objects, arrays, tuples and records always do;
    * a union must have no option that accepts the undefined
      value if it is required;
    * `nullable` and `optional` must not be required, since
      they accept the undefined value in any case;
    * a mapped node that is required must not map the
      undefined value to a value that passes;
    * a lazy node decides by whether it is nullable, so it
      must be either nullable or required, but not both.
-/
def HeedsRequired
    (resolve : String → Option Schema) : Schema → Prop
  | .node _ (.leaf _) => True
  | .node _ (.object _) => True
  | .node _ (.array _ _ _) => True
  | .node _ (.tuple _) => True
  | .node _ (.record _ _) => True
  | .node s (.union options) =>
      s.required = true →
        ∀ option ∈ options, ¬ Accepts resolve option .undefined
  | .node s (.nullable _) => s.required = false
  | .node s (.optional _) => s.required = false
  | .node s (.mapped mapping inner) =>
      s.required = true →
        ∀ image, mapping .undefined = .ok image →
          (image.isAbsent = false → s.Permits image) →
            ¬ Accepts resolve inner image
  | .node s (.lazy _ _) => s.required = !s.nullable

theorem admits_undefined_iff
    (s : Settings) :
    s.Admits .undefined ↔ s.required = false := by
  unfold Settings.Admits
  simp

section

variable {resolve : String → Option Schema}

theorem accepts_undefined_of_guarded
    {s : Settings}
    {shape : Shape}
    (hShape : shape.Guarded) :
    Accepts resolve (.node s shape) .undefined ↔
      s.required = false := by
  rw [← admits_undefined_iff]
  constructor
  · intro h
    cases hShape with
    | leaf kind =>
        have hCases := accepts_leaf_iff.mp h
        simpa [Value.isAbsent] using hCases
    | object properties =>
        have hCases := accepts_object_iff.mp h
        simpa [Value.isAbsent] using hCases
    | array items least most =>
        have hCases := accepts_array_iff.mp h
        simpa [Value.isAbsent] using hCases
    | tuple elements =>
        have hCases := accepts_tuple_iff.mp h
        simpa [Value.isAbsent] using hCases
    | record keys contents =>
        have hCases := accepts_record_iff.mp h
        simpa [Value.isAbsent] using hCases
  · exact Accepts.absent hShape

/-
  The condition on each kind of node is exactly that the
  verdict on the undefined value follows the flag.
-/
theorem heedsRequired_iff
    (c : Schema) :
    c.HeedsRequired resolve ↔
      (Accepts resolve c .undefined ↔
        c.settings.required = false) := by
  rcases c with ⟨s, shape⟩
  cases shape with
  | leaf kind =>
      exact iff_of_true trivial
        (accepts_undefined_of_guarded (.leaf kind))
  | object properties =>
      exact iff_of_true trivial
        (accepts_undefined_of_guarded (.object properties))
  | array items least most =>
      exact iff_of_true trivial
        (accepts_undefined_of_guarded (.array items least most))
  | tuple elements =>
      exact iff_of_true trivial
        (accepts_undefined_of_guarded (.tuple elements))
  | record keys contents =>
      exact iff_of_true trivial
        (accepts_undefined_of_guarded (.record keys contents))
  | union options =>
      unfold HeedsRequired
      rw [accepts_union_iff, admits_undefined_iff]
      cases hRequired : s.required <;>
        simp [settings, hRequired, Value.isAbsent]
  | nullable inner =>
      have hAccepts :
          Accepts resolve (.node s (.nullable inner))
            .undefined :=
        .nullableAbsent rfl
      simp [HeedsRequired, settings, hAccepts]
  | optional inner =>
      have hAccepts :
          Accepts resolve (.node s (.optional inner))
            .undefined :=
        .optionalUndefined
      simp [HeedsRequired, settings, hAccepts]
  | mapped mapping inner =>
      unfold HeedsRequired
      rw [accepts_mapped_iff, admits_undefined_iff]
      cases hRequired : s.required <;>
        simp [settings, hRequired]
  | lazy child property =>
      unfold HeedsRequired
      rw [accepts_lazy_iff]
      cases hRequired : s.required <;>
        cases hNullable : s.nullable <;>
        simp [settings, hRequired, hNullable, Value.isAbsent]

------------------------------------------------------------
-- Missing Properties
------------------------------------------------------------

/- The errors of an object are gathered from its properties. -/
theorem judgeWithin_object
    (unfoldings : Nat)
    (s : Settings)
    (properties : List (String × Schema))
    (fields : List (String × Value)) :
    (node s (.object properties)).judgeWithin resolve unfoldings
        (.object fields) =
      (gather
        (fun p : String × Schema =>
          Slot.errors?
            ⟨p.1, p.2.settings.required,
              p.2.judgeWithin resolve unfoldings⟩
            (.object fields))
        properties).map fun errors =>
          .ofErrors (s.complaints (.object fields) ++
            errors) := by
  rw [judgeWithin, judge, Settings.guard,
    s.presence?_of_present rfl, slots_eq_map]
  dsimp only [objectErrors?]
  rw [gather_map]
  rfl

/- What an object says if its only property is missing. -/
theorem judgeWithin_missing_property
    (unfoldings : Nat)
    (c : Schema)
    {name : String}
    {fields : List (String × Value)}
    (hMissing : fields.lookup name = none) :
    (object.property name c).judgeWithin resolve unfoldings
        (.object fields) =
      some (if c.settings.required then
          Outcome.ofErrors ((Step.property name).locate
            [Problem.missingProperty.text])
        else Outcome.valid) := by
  have hGet : (Value.object fields).get name = .undefined := by
    simp [Value.get, hMissing]
  have hObject : object.property name c =
      .node {} (.object [(name, c)]) := rfl
  rw [hObject, judgeWithin_object]
  cases hRequired : c.settings.required <;>
    simp [Settings.complaints, gather, Slot.errors?, hGet,
      hRequired, Value.isUndefined, Outcome.ofErrors,
      Outcome.valid]

/-
  An object that lacks a property has the errors of its
  other properties, with one more among them if the property
  is required.
-/
theorem judgeWithin_lacking_property
    {unfoldings : Nat}
    {s : Settings}
    {before after : List (String × Schema)}
    {name : String}
    {c : Schema}
    {fields : List (String × Value)}
    {o : Outcome}
    (hMissing : (Value.object fields).get name = .undefined)
    (h : (node s (.object
        (before ++ (name, c) :: after))).judgeWithin resolve
          unfoldings (.object fields) = some o) :
    ∃ first last,
      o = .ofErrors (first ++
        (if c.settings.required then
          (Step.property name).locate
            [Problem.missingProperty.text]
        else []) ++ last) ∧
      (node s (.object (before ++ after))).judgeWithin resolve
          unfoldings (.object fields) =
        some (.ofErrors (first ++ last)) := by
  rw [judgeWithin_object, gather_append] at h
  rw [judgeWithin_object, gather_append]
  rcases Option.map_eq_some_iff.mp h with ⟨errors, hErrors, rfl⟩
  rcases Option.bind_eq_some_iff.mp hErrors with
    ⟨first, hFirst, hRest⟩
  rcases Option.map_eq_some_iff.mp hRest with
    ⟨found, hFound, rfl⟩
  rw [gather, Slot.errors?] at hFound
  simp only [hMissing, Value.isUndefined, if_true] at hFound
  rcases Option.bind_eq_some_iff.mp hFound with
    ⟨own, hOwn, hOthers⟩
  rcases Option.bind_eq_some_iff.mp hOthers with
    ⟨last, hLast, hAll⟩
  cases hOwn
  cases hAll
  refine ⟨s.complaints (.object fields) ++ first, last, ?_, ?_⟩
  · simp only [List.append_assoc]
  · rw [hFirst, hLast]
    simp only [Option.bind_some, Option.map_some,
      List.append_assoc]

/- An object node without its declaration of a name. -/
def undeclare
    (name : String) : Schema → Schema :=
  mapShape fun shape =>
    match shape with
    | .object properties =>
        .object (properties.filter fun p => p.1 != name)
    | other => other

/-
  A declaration that is taken away leaves those before and
  after it, since no name is declared twice.
-/
theorem exists_undeclare_eq
    {s : Settings}
    {properties : List (String × Schema)}
    {name : String}
    {c : Schema}
    (hNodup : (properties.map Prod.fst).Nodup)
    (hDeclared : properties.lookup name = some c) :
    ∃ before after,
      properties = before ++ (name, c) :: after ∧
        (node s (.object properties)).undeclare name =
          node s (.object (before ++ after)) := by
  rcases List.lookup_eq_some_iff.mp hDeclared with
    ⟨before, after, rfl, hBefore⟩
  refine ⟨before, after, rfl, ?_⟩
  rw [List.map_append, List.map_cons] at hNodup
  have hAfter : ∀ p ∈ after, p.1 ≠ name := by
    rintro p hp rfl
    have hTail := (List.nodup_append.mp hNodup).2.1
    exact (List.nodup_cons.mp hTail).1
      (List.mem_map.mpr ⟨p, hp, rfl⟩)
  have hKeep : ∀ ps : List (String × Schema),
      (∀ p ∈ ps, p.1 ≠ name) →
        (ps.filter fun p => p.1 != name) = ps :=
    fun ps h => List.filter_eq_self.mpr
      fun p hp => bne_iff_ne.mpr (h p hp)
  rw [undeclare, mapShape]
  dsimp only
  rw [List.filter_append, List.filter_cons,
    hKeep after hAfter, hKeep before ?_]
  · simp
  · intro p hp hName
    simpa [hName] using hBefore p hp

/-
  A required property that is missing is one more error among
  those that there are without its declaration. One that is
  not required changes nothing.
-/
theorem judgeWithin_undeclare
    {unfoldings : Nat}
    {s : Settings}
    {properties : List (String × Schema)}
    {name : String}
    {c : Schema}
    {fields : List (String × Value)}
    {o : Outcome}
    (hNodup : (properties.map Prod.fst).Nodup)
    (hDeclared : properties.lookup name = some c)
    (hMissing : (Value.object fields).get name = .undefined)
    (h : (node s (.object properties)).judgeWithin resolve
      unfoldings (.object fields) = some o) :
    ∃ first last,
      o = .ofErrors (first ++
        (if c.settings.required then
          (Step.property name).locate
            [Problem.missingProperty.text]
        else []) ++ last) ∧
      ((node s (.object properties)).undeclare name).judgeWithin
          resolve unfoldings (.object fields) =
        some (.ofErrors (first ++ last)) := by
  rcases exists_undeclare_eq (s := s) hNodup hDeclared with
    ⟨before, after, rfl, hUndeclare⟩
  rw [hUndeclare]
  exact judgeWithin_lacking_property hMissing h

/-
  An object with one property accepts an object without it
  exactly if the child is not required. This agrees with the
  child's own verdict on the undefined value exactly if the
  child heeds its flag.
-/
theorem missing_property_agrees_iff
    (unfoldings : Nat)
    (c : Schema)
    (name : String)
    (fields : List (String × Value))
    (hMissing : fields.lookup name = none) :
    ∃ o,
      (object.property name c).judgeWithin resolve unfoldings
          (.object fields) = some o ∧
        (o.isValid = true ↔ c.settings.required = false) ∧
        ∀ n own,
          c.judgeWithin resolve n .undefined = some own →
            ((o.isValid = true ↔ own.isValid = true) ↔
              c.HeedsRequired resolve) := by
  refine ⟨_, judgeWithin_missing_property unfoldings c hMissing,
    ?_⟩
  have hFlag : ∀ o : Outcome,
      (if c.settings.required then
          Outcome.ofErrors ((Step.property name).locate
            [Problem.missingProperty.text])
        else Outcome.valid) = o →
      (o.isValid = true ↔ c.settings.required = false) := by
    rintro o rfl
    cases c.settings.required <;>
      simp [Outcome.valid, Outcome.ofErrors, Step.locate]
  refine ⟨hFlag _ rfl, fun n own hOwn => ?_⟩
  have hVerdict :
      own.isValid = true ↔ Accepts resolve c .undefined :=
    (decides_judge (decides_namedJudge resolve n) c .undefined
      own hOwn).2
  rw [hFlag _ rfl, hVerdict, heedsRequired_iff]
  exact Iff.comm

end

/- A text under a name that is missing: both sides refuse. -/
theorem missing_text_refused :
    ([("q", Value.null)]).lookup "p" = none ∧
      ∃ o own,
        (object.property "p" (union [string])).verdict?
            (.object [("q", .null)]) = some o ∧
          (union [string]).verdict? .undefined = some own ∧
          o.isValid = false ∧ own.isValid = false ∧
          (union [string]).HeedsRequired fun _ => none := by
  refine ⟨rfl, _, _, rfl, rfl, rfl, rfl, ?_⟩
  rcases @missing_property_agrees_iff (fun _ => none) 0
      (union [string]) "p" [("q", .null)] rfl with
    ⟨o, hOutcome, _, hAgrees⟩
  have hEq := hOutcome.symm.trans
    (judgeWithin_missing_property 0 (union [string]) rfl)
  rw [← hAgrees 0 _ rfl, Option.some.inj hEq]
  decide

/-
  A union that accepts the undefined value through an option
  is reported as missing all the same, and a lazy node that
  is not required is not asked, although it would refuse.
-/
theorem missing_property_of_accepting_union :
    (object.property "p" (union [optional string])).verdict?
        (.object []) =
      some (Outcome.ofErrors
        ["Validation failed for property 'p': " ++
          "Property is missing."]) ∧
    (union [optional string]).verdict? .undefined =
      some Outcome.valid ∧
    (object.property "p"
        ((lazy (.known string)).setRequired false)).verdict?
        (.object []) = some Outcome.valid ∧
    ((lazy (.known string)).setRequired false).verdict?
        .undefined =
      some (Outcome.ofErrors
        ["Value cannot be null or undefined."]) :=
  ⟨rfl, rfl, rfl, rfl⟩

end Schema

end Conform
