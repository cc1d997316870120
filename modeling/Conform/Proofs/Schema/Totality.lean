import Conform.Proofs.Schema.References

/-
  When checks end. The check of a value against a schema
  ends with an outcome if all checks that it looks up do.
  A schema without named children looks up none, so the
  check against it always ends, whatever the value and
  whatever names may stand for.

  Main declarations:
    * `Schema.Closed`
    * `Judge.Total`
    * `Schema.judge_ends`
    * `Schema.Closed.total_judge`
-/

namespace Conform

------------------------------------------------------------
-- Closed Schemas
------------------------------------------------------------

/- A schema in which the child of every lazy node is known. -/
inductive Schema.Closed : Schema → Prop
  | leaf {s : Settings} {kind : Leaf} :
      Closed (.node s (.leaf kind))
  | object {s : Settings}
      {properties : List (String × Schema)}
      (hProperties : ∀ p ∈ properties, Closed p.2) :
      Closed (.node s (.object properties))
  | array {s : Settings} {items : Option Schema}
      {least most : Option Nat}
      (hItems : ∀ item, items = some item → Closed item) :
      Closed (.node s (.array items least most))
  | tuple {s : Settings} {elements : List Schema}
      (hElements : ∀ c ∈ elements, Closed c) :
      Closed (.node s (.tuple elements))
  | record {s : Settings} {keys contents : Schema}
      (hKeys : Closed keys)
      (hContents : Closed contents) :
      Closed (.node s (.record keys contents))
  | union {s : Settings} {options : List Schema}
      (hOptions : ∀ c ∈ options, Closed c) :
      Closed (.node s (.union options))
  | nullable {s : Settings} {inner : Schema}
      (hInner : Closed inner) :
      Closed (.node s (.nullable inner))
  | optional {s : Settings} {inner : Schema}
      (hInner : Closed inner) :
      Closed (.node s (.optional inner))
  | mapped {s : Settings} {mapping : Mapping} {inner : Schema}
      (hInner : Closed inner) :
      Closed (.node s (.mapped mapping inner))
  | lazy {s : Settings} {child : Schema}
      {property : Option String}
      (hChild : Closed child) :
      Closed (.node s (.lazy (.known child) property))

/- Settings do not matter for whether a schema is closed. -/
theorem Schema.Closed.of_shape_eq
    {s t : Schema}
    (h : s.Closed)
    (hShape : t.shape = s.shape) :
    t.Closed := by
  rcases t with ⟨settings, shape⟩
  change shape = s.shape at hShape
  subst hShape
  cases h with
  | leaf => exact .leaf
  | object hProperties => exact .object hProperties
  | array hItems => exact .array hItems
  | tuple hElements => exact .tuple hElements
  | record hKeys hContents => exact .record hKeys hContents
  | union hOptions => exact .union hOptions
  | nullable hInner => exact .nullable hInner
  | optional hInner => exact .optional hInner
  | mapped hInner => exact .mapped hInner
  | lazy hChild => exact .lazy hChild

------------------------------------------------------------
-- Total Checks
------------------------------------------------------------

/- A check that ends for every value. -/
def Judge.Total
    (judge : Judge) : Prop :=
  ∀ v, ∃ o, judge v = some o

/- A search for errors that ends for every value. -/
def Ends
    (errors? : Value → Option (List String)) : Prop :=
  ∀ v, ∃ errors, errors? v = some errors

theorem Judge.Total.errorsAt
    {judge : Judge}
    (h : judge.Total)
    (step : Step) :
    Ends (judge.errorsAt step) := by
  intro v
  rcases h v with ⟨o, hOutcome⟩
  exact ⟨step.locate o.errors,
    by simp [Judge.errorsAt, hOutcome]⟩

/- A gathering ends if it ends for each of its members. -/
theorem gather_ends
    {α β : Type}
    {f : α → Option (List β)}
    {members : List α}
    (h : ∀ a ∈ members, ∃ part, f a = some part) :
    ∃ found, gather f members = some found := by
  induction members with
  | nil => exact ⟨[], rfl⟩
  | cons a rest ih =>
      rcases h a List.mem_cons_self with ⟨first, hFirst⟩
      rcases ih fun b hb => h b (List.mem_cons_of_mem a hb)
        with ⟨others, hOthers⟩
      exact ⟨first ++ others, by simp [gather, hFirst, hOthers]⟩

theorem Slot.ends_errors?
    {slot : Slot}
    (h : slot.judge.Total) :
    Ends slot.errors? := by
  intro v
  unfold errors?
  by_cases hUndefined : (v.get slot.name).isUndefined = true
  · rw [if_pos hUndefined]
    exact ⟨_, rfl⟩
  · rw [if_neg hUndefined]
    exact h.errorsAt _ _

theorem ends_objectErrors?
    {slots : List Slot}
    (h : ∀ slot ∈ slots, slot.judge.Total) :
    Ends (objectErrors? slots) := by
  intro v
  cases v with
  | object fields =>
      exact gather_ends fun slot hSlot =>
        Slot.ends_errors? (h slot hSlot) _
  | _ => exact ⟨_, rfl⟩

theorem itemErrors?_ends
    {judges : List Judge}
    (h : ∀ judge ∈ judges, judge.Total)
    (items : List Value) :
    ∃ errors, itemErrors? judges items = some errors := by
  refine gather_ends fun p hp => ?_
  have hZip : p.1 ∈ judges.zip items :=
    List.fst_mem_of_mem_zipIdx hp
  exact (h p.1.1 (List.of_mem_zip hZip).1).errorsAt _ _

theorem ends_arrayErrors?
    {item : Option Judge}
    (h : ∀ judge, item = some judge → judge.Total)
    (least most : Option Nat) :
    Ends (arrayErrors? item least most) := by
  intro v
  cases v with
  | array items =>
      have hEach :
          ∃ errors,
            eachItemErrors? item items = some errors := by
        cases item with
        | none => exact ⟨[], rfl⟩
        | some judge =>
            refine itemErrors?_ends
              (fun other hOther => ?_) items
            rw [List.eq_of_mem_replicate hOther]
            exact h judge rfl
      rcases hEach with ⟨errors, hErrors⟩
      exact ⟨_, by simp only [arrayErrors?, hErrors]; rfl⟩
  | _ => exact ⟨_, rfl⟩

theorem ends_tupleErrors?
    {elements : List Judge}
    (h : ∀ judge ∈ elements, judge.Total) :
    Ends (tupleErrors? elements) := by
  intro v
  cases v with
  | array items =>
      unfold tupleErrors?
      by_cases hLength : items.length = elements.length
      · simp only [hLength, if_true]
        exact itemErrors?_ends h items
      · simp only [hLength, if_false]
        exact ⟨_, rfl⟩
  | _ => exact ⟨_, rfl⟩

theorem ends_recordErrors?
    {keys contents : Judge}
    (hKeys : keys.Total)
    (hContents : contents.Total) :
    Ends (recordErrors? keys contents) := by
  intro v
  cases v with
  | object fields =>
      refine gather_ends fun field _ => ?_
      rcases hKeys.errorsAt (.key field.1) (.string field.1)
        with ⟨first, hFirst⟩
      rcases hContents.errorsAt (.entry field.1) field.2
        with ⟨second, hSecond⟩
      exact ⟨first ++ second, by simp [hFirst, hSecond]⟩
  | _ => exact ⟨_, rfl⟩

namespace Settings

section

variable (s : Settings)
variable {inner : Judge}

theorem total_guard
    {errors? : Value → Option (List String)}
    (h : Ends errors?) :
    (s.guard errors?).Total := by
  intro v
  unfold guard
  cases s.presence? v with
  | some o => exact ⟨o, rfl⟩
  | none =>
      rcases h v with ⟨errors, hErrors⟩
      exact ⟨_, by simp only [hErrors]; rfl⟩

theorem choose?_ends
    {options : List Judge}
    {v : Value}
    (h : ∀ judge ∈ options, ∃ o, judge v = some o) :
    ∃ choice, choose? options v = some choice := by
  induction options with
  | nil => exact ⟨_, rfl⟩
  | cons judge rest ih =>
      rcases h judge List.mem_cons_self with ⟨o, hOutcome⟩
      rcases ih fun other hOther =>
          h other (List.mem_cons_of_mem judge hOther)
        with ⟨choice, hChoice⟩
      by_cases hValid : o.isValid = true
      · exact ⟨.ok o, by simp [choose?, hOutcome, hValid]⟩
      · cases choice with
        | ok later =>
            exact ⟨.ok later,
              by simp [choose?, hOutcome, hValid, hChoice]⟩
        | error errors =>
            exact ⟨.error (o.errors ++ errors),
              by simp [choose?, hOutcome, hValid, hChoice]⟩

/- A union ends where all of its options do. -/
theorem judgeUnion_ends
    {options : List Judge}
    {v : Value}
    (h : ∀ judge ∈ options, ∃ o, judge v = some o) :
    ∃ o, s.judgeUnion options v = some o := by
  rcases choose?_ends h with ⟨choice, hChoice⟩
  unfold judgeUnion
  cases s.presence? v with
  | none => exact ⟨_, by simp only [hChoice]; rfl⟩
  | some o =>
      by_cases hValid : o.isValid = true
      · exact ⟨o, by simp only [hValid, if_true]⟩
      · exact ⟨_, by simp only [hValid, hChoice]; rfl⟩

theorem total_judgeUnion
    {options : List Judge}
    (h : ∀ judge ∈ options, judge.Total) :
    (s.judgeUnion options).Total :=
  fun v => s.judgeUnion_ends fun judge hJudge =>
    h judge hJudge v

theorem total_delegate
    (h : inner.Total) :
    (s.delegate inner).Total := by
  intro v
  rcases h v with ⟨o, hOutcome⟩
  exact ⟨_, by simp only [delegate, hOutcome]; rfl⟩

theorem total_judgeNullable
    (h : inner.Total) :
    (s.judgeNullable inner).Total := by
  intro v
  unfold judgeNullable
  by_cases hAbsent : v.isAbsent = true
  · rw [if_pos hAbsent]
    exact ⟨_, rfl⟩
  · rw [if_neg hAbsent]
    exact s.total_delegate h v

theorem total_judgeOptional
    (h : inner.Total) :
    (s.judgeOptional inner).Total := by
  intro v
  unfold judgeOptional
  by_cases hUndefined : v.isUndefined = true
  · rw [if_pos hUndefined]
    exact ⟨_, rfl⟩
  · rw [if_neg hUndefined]
    exact s.total_delegate h v

theorem total_judgeMapped
    (mapping : Mapping)
    (h : inner.Total) :
    (s.judgeMapped mapping inner).Total := by
  intro v
  unfold judgeMapped
  by_cases hLets : s.lets v = true
  · rw [if_pos hLets]
    exact ⟨_, rfl⟩
  · rw [if_neg hLets]
    cases mapping v with
    | error reason => exact ⟨_, rfl⟩
    | ok image =>
        rcases h image with ⟨o, hOutcome⟩
        exact ⟨_, by simp only [hOutcome]; rfl⟩

theorem trailErrors?_ends
    {errors? : Value → Option (List String)}
    (h : Ends errors?)
    (name : String)
    (values : List Value) :
    ∃ errors,
      trailErrors? errors? name values = some errors := by
  induction values with
  | nil => exact ⟨_, rfl⟩
  | cons v rest ih =>
      rcases h v with ⟨first, hFirst⟩
      rcases ih with ⟨others, hOthers⟩
      by_cases hClear : first = []
      · exact ⟨(Step.property name).locate others,
          by simp [trailErrors?, hFirst, hClear, hOthers]⟩
      · exact ⟨first, by simp [trailErrors?, hFirst, hClear]⟩

theorem total_judgeLazy
    {child : Judge}
    (h : child.Total)
    (property : Option String) :
    (s.judgeLazy child property).Total := by
  intro v
  have hEnds : Ends fun w => (child w).map fun o =>
      s.complaints w ++ o.errors := by
    intro w
    rcases h w with ⟨o, hOutcome⟩
    exact ⟨_, by simp only [hOutcome]; rfl⟩
  unfold judgeLazy
  by_cases hAbsent : v.isAbsent = true
  · simp only [hAbsent, if_true]
    exact ⟨_, rfl⟩
  · simp only [hAbsent]
    cases property with
    | none =>
        rcases hEnds v with ⟨errors, hErrors⟩
        exact ⟨_, by simp only [hErrors]; rfl⟩
    | some name =>
        rcases trailErrors?_ends hEnds name (v.trail name)
          with ⟨errors, hErrors⟩
        exact ⟨_, by simp only [hErrors]; rfl⟩

end

end Settings

------------------------------------------------------------
-- Totality
------------------------------------------------------------

namespace Schema

/- A check ends for every value if all that it looks up do. -/
theorem total_judge
    {find : String → Judge}
    (h : ∀ name, (find name).Total)
    (s : Schema) :
    (s.judge find).Total := by
  induction s with
  | leaf settings kind =>
      rw [judge]
      exact settings.total_guard fun v => ⟨_, rfl⟩
  | object settings properties ih =>
      rw [judge, slots_eq_map]
      refine settings.total_guard
        (ends_objectErrors? fun slot hSlot => ?_)
      rcases List.mem_map.mp hSlot with ⟨p, hp, rfl⟩
      exact ih p hp
  | array settings items least most ih =>
      cases items with
      | none =>
          rw [judge]
          have hNone : ∀ judge : Judge,
              none = some judge → judge.Total := by
            intro judge hSome
            cases hSome
          exact settings.total_guard
            (ends_arrayErrors? hNone least most)
      | some item =>
          rw [judge]
          refine settings.total_guard
            (ends_arrayErrors? (fun judge hSome => ?_)
              least most)
          rw [← Option.some.inj hSome]
          exact ih item rfl
  | tuple settings elements ih =>
      rw [judge, judges_eq_map]
      refine settings.total_guard
        (ends_tupleErrors? fun judge hJudge => ?_)
      rcases List.mem_map.mp hJudge with ⟨c, hc, rfl⟩
      exact ih c hc
  | record settings keys contents ihKeys ihContents =>
      rw [judge]
      exact settings.total_guard
        (ends_recordErrors? ihKeys ihContents)
  | union settings options ih =>
      rw [judge, judges_eq_map]
      refine settings.total_judgeUnion fun judge hJudge => ?_
      rcases List.mem_map.mp hJudge with ⟨c, hc, rfl⟩
      exact ih c hc
  | nullable settings inner ih =>
      rw [judge]
      exact settings.total_judgeNullable ih
  | optional settings inner ih =>
      rw [judge]
      exact settings.total_judgeOptional ih
  | mapped settings mapping inner ih =>
      rw [judge]
      exact settings.total_judgeMapped mapping ih
  | known settings child property ih =>
      rw [judge]
      exact settings.total_judgeLazy ih property
  | named settings name property =>
      rw [judge]
      exact settings.total_judgeLazy (h name) property

/-
  The check of a value ends if its calls do. What the named
  schemas do with other values has no bearing on it, so they
  may be taken to accept these.
-/
theorem judge_ends
    {find : String → Judge}
    {s : Schema}
    {v : Value}
    (h : ∀ c ∈ s.calls v, ∃ o, find c.1 c.2 = some o) :
    ∃ o, s.judge find v = some o := by
  have hSame : s.judge find v =
      s.judge (fun name w => some ((find name w).getD .valid))
        v := by
    refine judge_eq_of_calls fun c hc => ?_
    rcases h c hc with ⟨o, hOutcome⟩
    rw [hOutcome, Option.getD_some]
  rw [hSame]
  exact total_judge (fun _ _ => ⟨_, rfl⟩) s v

namespace Closed

variable {s : Schema}

theorem of_child
    {c : Passage × Schema}
    (h : s.Closed)
    (hChild : c ∈ s.children) :
    c.2.Closed := by
  cases h with
  | leaf => exact absurd hChild List.not_mem_nil
  | object hProperties =>
      rcases List.mem_map.mp hChild with ⟨p, hp, rfl⟩
      exact hProperties p hp
  | array hItems =>
      rcases List.mem_map.mp hChild with ⟨item, hItem, rfl⟩
      exact hItems item (Option.mem_toList.mp hItem)
  | tuple hElements =>
      rcases List.mem_map.mp hChild with ⟨c, hc, rfl⟩
      exact hElements c hc
  | record hKeys hContents =>
      rcases List.mem_cons.mp hChild with rfl | hChild
      · exact hKeys
      · rw [List.mem_singleton.mp hChild]
        exact hContents
  | union hOptions =>
      rcases List.mem_map.mp hChild with ⟨c, hc, rfl⟩
      exact hOptions c hc
  | nullable hInner | optional hInner | mapped hInner =>
      rw [List.mem_singleton.mp hChild]
      exact hInner
  | lazy hChild' =>
      rw [List.mem_singleton.mp hChild]
      exact hChild'

/- The check of a closed schema looks up no name. -/
theorem not_mem_calls
    (h : s.Closed)
    {v : Value}
    (c : String × Value) :
    c ∉ s.calls v := by
  induction s using children_induct generalizing v with
  | step s ih =>
      intro hCall
      rcases mem_calls_cases hCall with
        ⟨_, _, rfl, _⟩ | ⟨child, hChild, _, _, hRest⟩
      · cases h
      · exact ih child hChild (h.of_child hChild) hRest

/-
  The check against a closed schema always ends. No name is
  looked up, so it does not matter what names stand for.
-/
theorem total_judge
    (h : s.Closed)
    (find : String → Judge) :
    (s.judge find).Total :=
  fun _ => judge_ends fun c hc => absurd hc (h.not_mem_calls c)

/- A closed schema has a verdict on every value. -/
theorem verdict?_total
    (h : s.Closed)
    (v : Value) :
    ∃ o, s.verdict? v = some o :=
  h.total_judge (fun _ _ => none) v

end Closed

end Schema

end Conform
