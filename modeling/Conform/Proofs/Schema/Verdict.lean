import Conform.Schema.Build
import Conform.Proofs.Schema.Combination
import Conform.Proofs.Schema.Induction

/-
  The verdict of a check. Where a check ends, its outcome is
  valid exactly if it has no errors, and exactly if the
  schema accepts the value. The number of unfoldings that
  the check is given does not matter.

  Main declarations:
    * `accepts_leaf_iff` and its kind, one for each shape
    * `Schema.decides_judge`
    * `decides_namedJudge`
    * `Schema.judgeWithin_isValid_iff`
-/

namespace Conform

------------------------------------------------------------
-- Acceptance by Shape
------------------------------------------------------------

section

variable {resolve : String → Option Schema}
variable {s : Settings}
variable {v : Value}

theorem accepts_leaf_iff
    {kind : Leaf} :
    Accepts resolve (.node s (.leaf kind)) v ↔
      s.Admits v ∨
        (v.isAbsent = false ∧ s.Permits v ∧
          kind.Holds v) := by
  constructor
  · intro h
    cases h with
    | absent _ hAdmits => exact Or.inl hAdmits
    | leaf hPresent hRules hHolds =>
        exact Or.inr ⟨hPresent, hRules, hHolds⟩
  · rintro (hAdmits | ⟨hPresent, hRules, hHolds⟩)
    · exact Accepts.absent (.leaf kind) hAdmits
    · exact Accepts.leaf hPresent hRules hHolds

theorem accepts_object_iff
    {properties : List (String × Schema)} :
    Accepts resolve (.node s (.object properties)) v ↔
      s.Admits v ∨
        (v.isAbsent = false ∧ s.Permits v ∧
          ∃ fields, v = .object fields ∧
            ∀ p ∈ properties,
              (v.get p.1 = .undefined →
                p.2.settings.required = false) ∧
              (v.get p.1 ≠ .undefined →
                Accepts resolve p.2 (v.get p.1))) := by
  constructor
  · intro h
    cases h with
    | absent _ hAdmits => exact Or.inl hAdmits
    | object hRules hMissing hPresent =>
        exact Or.inr ⟨rfl, hRules, _, rfl,
          fun p hp => ⟨hMissing p hp, hPresent p hp⟩⟩
  · rintro (hAdmits | ⟨_, hRules, fields, rfl, hProperties⟩)
    · exact Accepts.absent (.object properties) hAdmits
    · exact Accepts.object hRules
        (fun p hp => (hProperties p hp).1)
        (fun p hp => (hProperties p hp).2)

theorem accepts_array_iff
    {item : Option Schema}
    {least most : Option Nat} :
    Accepts resolve (.node s (.array item least most)) v ↔
      s.Admits v ∨
        (v.isAbsent = false ∧ s.Permits v ∧
          ∃ items, v = .array items ∧
            (∀ m, least = some m → m ≤ items.length) ∧
            (∀ m, most = some m → items.length ≤ m) ∧
            (∀ c, item = some c →
              ∀ w ∈ items, Accepts resolve c w)) := by
  constructor
  · intro h
    cases h with
    | absent _ hAdmits => exact Or.inl hAdmits
    | array hRules hLeast hMost hItems =>
        exact Or.inr
          ⟨rfl, hRules, _, rfl, hLeast, hMost, hItems⟩
  · rintro (hAdmits |
      ⟨_, hRules, items, rfl, hLeast, hMost, hItems⟩)
    · exact Accepts.absent (.array item least most) hAdmits
    · exact Accepts.array hRules hLeast hMost hItems

theorem accepts_tuple_iff
    {elements : List Schema} :
    Accepts resolve (.node s (.tuple elements)) v ↔
      s.Admits v ∨
        (v.isAbsent = false ∧ s.Permits v ∧
          ∃ items, v = .array items ∧
            items.length = elements.length ∧
            ∀ p ∈ elements.zip items,
              Accepts resolve p.1 p.2) := by
  constructor
  · intro h
    cases h with
    | absent _ hAdmits => exact Or.inl hAdmits
    | tuple hRules hLength hElements =>
        exact Or.inr ⟨rfl, hRules, _, rfl, hLength, hElements⟩
  · rintro (hAdmits |
      ⟨_, hRules, items, rfl, hLength, hElements⟩)
    · exact Accepts.absent (.tuple elements) hAdmits
    · exact Accepts.tuple hRules hLength hElements

theorem accepts_record_iff
    {keys contents : Schema} :
    Accepts resolve (.node s (.record keys contents)) v ↔
      s.Admits v ∨
        (v.isAbsent = false ∧ s.Permits v ∧
          ∃ fields, v = .object fields ∧
            ∀ f ∈ fields,
              Accepts resolve keys (.string f.1) ∧
                Accepts resolve contents f.2) := by
  constructor
  · intro h
    cases h with
    | absent _ hAdmits => exact Or.inl hAdmits
    | record hRules hKeys hContents =>
        exact Or.inr ⟨rfl, hRules, _, rfl,
          fun f hf => ⟨hKeys f hf, hContents f hf⟩⟩
  · rintro (hAdmits | ⟨_, hRules, fields, rfl, hFields⟩)
    · exact Accepts.absent (.record keys contents) hAdmits
    · exact Accepts.record hRules
        (fun f hf => (hFields f hf).1)
        (fun f hf => (hFields f hf).2)

theorem accepts_union_iff
    {options : List Schema} :
    Accepts resolve (.node s (.union options)) v ↔
      s.Admits v ∨
        ((v.isAbsent = false → s.Permits v) ∧
          ∃ option ∈ options, Accepts resolve option v) := by
  constructor
  · intro h
    cases h with
    | absent hShape _ => cases hShape
    | unionAbsent hAdmits => exact Or.inl hAdmits
    | union hRules hOption hAccepts =>
        exact Or.inr ⟨hRules, _, hOption, hAccepts⟩
  · rintro (hAdmits | ⟨hRules, option, hOption, hAccepts⟩)
    · exact Accepts.unionAbsent hAdmits
    · exact Accepts.union hRules hOption hAccepts

theorem accepts_nullable_iff
    {inner : Schema} :
    Accepts resolve (.node s (.nullable inner)) v ↔
      v.isAbsent = true ∨
        (v.isAbsent = false ∧ s.Permits v ∧
          Accepts resolve inner v) := by
  constructor
  · intro h
    cases h with
    | absent hShape _ => cases hShape
    | nullableAbsent hAbsent => exact Or.inl hAbsent
    | nullable hPresent hRules hAccepts =>
        exact Or.inr ⟨hPresent, hRules, hAccepts⟩
  · rintro (hAbsent | ⟨hPresent, hRules, hAccepts⟩)
    · exact Accepts.nullableAbsent hAbsent
    · exact Accepts.nullable hPresent hRules hAccepts

theorem accepts_optional_iff
    {inner : Schema} :
    Accepts resolve (.node s (.optional inner)) v ↔
      v.isUndefined = true ∨
        (v.isUndefined = false ∧ s.Permits v ∧
          Accepts resolve inner v) := by
  constructor
  · intro h
    cases h with
    | absent hShape _ => cases hShape
    | optionalUndefined => exact Or.inl rfl
    | optional hDefined hRules hAccepts =>
        exact Or.inr ⟨hDefined, hRules, hAccepts⟩
  · rintro (hUndefined | ⟨hDefined, hRules, hAccepts⟩)
    · rw [(Value.isUndefined_iff v).mp hUndefined]
      exact Accepts.optionalUndefined
    · exact Accepts.optional hDefined hRules hAccepts

theorem accepts_mapped_iff
    {mapping : Mapping}
    {inner : Schema} :
    Accepts resolve (.node s (.mapped mapping inner)) v ↔
      s.Admits v ∨
        (¬ s.Admits v ∧ ∃ image, mapping v = .ok image ∧
          (image.isAbsent = false → s.Permits image) ∧
          Accepts resolve inner image) := by
  constructor
  · intro h
    cases h with
    | absent hShape _ => cases hShape
    | mappedAbsent hAdmits => exact Or.inl hAdmits
    | mapped hAdmits hImage hRules hAccepts =>
        exact Or.inr ⟨hAdmits, _, hImage, hRules, hAccepts⟩
  · rintro (hAdmits |
      ⟨hAdmits, image, hImage, hRules, hAccepts⟩)
    · exact Accepts.mappedAbsent hAdmits
    · exact Accepts.mapped hAdmits hImage hRules hAccepts

/- A lazy node accepts a present value one step at a time. -/
theorem accepts_lazy_step_iff
    {child : Deferred}
    {property : Option String}
    (hPresent : v.isAbsent = false) :
    Accepts resolve (.node s (.lazy child property)) v ↔
      s.Permits v ∧
        (∃ c, child.schema? resolve = some c ∧
          Accepts resolve c v) ∧
        (∀ name, property = some name →
          (v.get name).isAbsent = false →
            Accepts resolve (.node s (.lazy child property))
              (v.get name)) := by
  constructor
  · intro h
    cases h with
    | absent hShape _ => cases hShape
    | lazyAbsent hAbsent _ => simp [hAbsent] at hPresent
    | lazy _ hRules hChild hAccepts hFollow =>
        exact ⟨hRules, ⟨_, hChild, hAccepts⟩, hFollow⟩
  · rintro ⟨hRules, ⟨c, hChild, hAccepts⟩, hFollow⟩
    exact Accepts.lazy hPresent hRules hChild hAccepts hFollow

/-
  Following the property step by step comes to the same as
  looking at all values of its trail. The induction is on
  the trail, which gets shorter with each step.
-/
theorem accepts_lazy_trail_iff
    {child : Deferred}
    {name : String}
    (hPresent : v.isAbsent = false) :
    Accepts resolve (.node s (.lazy child (some name))) v ↔
      ∀ w ∈ v.trail name, s.Permits w ∧
        ∃ c, child.schema? resolve = some c ∧
          Accepts resolve c w := by
  generalize hTrail : v.trail name = values
  induction values generalizing v with
  | nil =>
      rw [Value.trail_of_present name hPresent] at hTrail
      cases hTrail
  | cons w rest ih =>
      rw [Value.trail_of_present name hPresent] at hTrail
      rcases List.cons_eq_cons.mp hTrail with ⟨rfl, hRest⟩
      rw [accepts_lazy_step_iff hPresent,
        List.forall_mem_cons, and_assoc]
      refine and_congr_right fun _ =>
        and_congr_right fun _ => ?_
      cases hNext : (v.get name).isAbsent with
      | true =>
          rw [Value.trail_of_absent name hNext] at hRest
          subst hRest
          simp [hNext]
      | false =>
          rw [← ih hNext hRest]
          simp [hNext]

theorem accepts_lazy_iff
    {child : Deferred}
    {property : Option String} :
    Accepts resolve (.node s (.lazy child property)) v ↔
      (v.isAbsent = true ∧ s.nullable = true) ∨
        (v.isAbsent = false ∧
          ∀ w ∈ Settings.followed property v,
            s.Permits w ∧
              ∃ c, child.schema? resolve = some c ∧
                Accepts resolve c w) := by
  cases hAbsent : v.isAbsent with
  | true =>
      simp only [true_and, Bool.true_eq_false, false_and,
        or_false]
      constructor
      · intro h
        cases h with
        | absent hShape _ => cases hShape
        | lazyAbsent _ hNullable => exact hNullable
        | lazy hPresent => simp [hAbsent] at hPresent
      · exact Accepts.lazyAbsent hAbsent
  | false =>
      cases property with
      | none =>
          rw [accepts_lazy_step_iff hAbsent]
          simp [Settings.followed]
      | some name =>
          rw [accepts_lazy_trail_iff hAbsent]
          simp [Settings.followed]

end

------------------------------------------------------------
-- Verdicts
------------------------------------------------------------

theorem Judge.Decides.congr
    {judge : Judge}
    {accepted accepted' : Value → Prop}
    (h : judge.Decides accepted)
    (hIff : ∀ v, accepted' v ↔ accepted v) :
    judge.Decides accepted' := by
  intro v o hJudge
  rcases h v o hJudge with ⟨hCoherent, hValid⟩
  exact ⟨hCoherent, hValid.trans (hIff v).symm⟩

/-
  A check decides acceptance if the checks of the named
  schemas do. The induction is on the schema; what a name
  stands for is left to the hypothesis.
-/
theorem Schema.decides_judge
    {resolve : String → Option Schema}
    {find : String → Judge}
    (hFind : ∀ name, (find name).Decides fun v =>
      ∃ c, resolve name = some c ∧ Accepts resolve c v)
    (s : Schema) :
    (s.judge find).Decides (Accepts resolve s) := by
  induction s with
  | leaf settings kind =>
      rw [judge]
      refine Judge.Decides.congr ?_ fun _ => accepts_leaf_iff
      refine settings.decides_guard fun v errors hErrors => ?_
      cases hErrors
      simp [Leaf.problems_eq_nil_iff]
  | object settings properties ih =>
      rw [judge, slots_eq_map]
      refine Judge.Decides.congr ?_ fun _ => accepts_object_iff
      exact settings.decides_guard
        (clears_objectErrors? fun p hp => ih p hp)
  | array settings items least most ih =>
      cases items with
      | none =>
          have hNone : ∀ judge : Judge, none = some judge →
              judge.Decides fun _ => True :=
            fun _ hSome => nomatch hSome
          rw [judge]
          refine Judge.Decides.congr
            (settings.decides_guard
              (clears_arrayErrors? hNone least most))
            fun _ => ?_
          rw [accepts_array_iff]
          simp
      | some item =>
          have hItem : ∀ judge,
              some (item.judge find) = some judge →
                judge.Decides (Accepts resolve item) := by
            intro judge hSome
            rw [← Option.some.inj hSome]
            exact ih item rfl
          rw [judge]
          refine Judge.Decides.congr
            (settings.decides_guard
              (clears_arrayErrors? hItem least most))
            fun _ => ?_
          rw [accepts_array_iff]
          simp
  | tuple settings elements ih =>
      rw [judge, judges_eq_map]
      refine Judge.Decides.congr ?_ fun _ => accepts_tuple_iff
      exact settings.decides_guard (clears_tupleErrors? ih)
  | record settings keys contents ihKeys ihContents =>
      rw [judge]
      refine Judge.Decides.congr ?_ fun _ => accepts_record_iff
      exact settings.decides_guard
        (clears_recordErrors? ihKeys ihContents)
  | union settings options ih =>
      rw [judge, judges_eq_map]
      refine Judge.Decides.congr ?_ fun _ => accepts_union_iff
      exact settings.decides_judgeUnion ih
  | nullable settings inner ih =>
      rw [judge]
      refine Judge.Decides.congr ?_ fun _ =>
        accepts_nullable_iff
      exact settings.decides_judgeNullable ih
  | optional settings inner ih =>
      rw [judge]
      refine Judge.Decides.congr ?_ fun _ =>
        accepts_optional_iff
      exact settings.decides_judgeOptional ih
  | mapped settings mapping inner ih =>
      rw [judge]
      refine Judge.Decides.congr ?_ fun _ => accepts_mapped_iff
      exact settings.decides_judgeMapped mapping ih
  | known settings child property ih =>
      rw [judge]
      refine Judge.Decides.congr ?_ fun _ => accepts_lazy_iff
      refine settings.decides_judgeLazy (ih.congr ?_) property
      simp [Deferred.schema?]
  | named settings name property =>
      rw [judge]
      refine Judge.Decides.congr ?_ fun _ => accepts_lazy_iff
      exact settings.decides_judgeLazy (hFind name) property

/-
  With any number of unfoldings, the check against a named
  schema decides acceptance. One more unfolding is one more
  use of the statement for schemas.
-/
theorem decides_namedJudge
    (resolve : String → Option Schema)
    (unfoldings : Nat)
    (name : String) :
    (namedJudge resolve unfoldings name).Decides fun v =>
      ∃ c, resolve name = some c ∧ Accepts resolve c v := by
  induction unfoldings generalizing name with
  | zero =>
      intro v o hJudge
      cases hJudge
  | succ n ih =>
      intro v o hJudge
      rw [namedJudge] at hJudge
      cases hResolve : resolve name with
      | none => simp [hResolve] at hJudge
      | some c =>
          simp only [hResolve] at hJudge
          simpa using Schema.decides_judge ih c v o hJudge

/-
  Where a check ends, the outcome is valid exactly if it has
  no errors, and exactly if the schema accepts the value.
-/
theorem Schema.judgeWithin_isValid_iff
    (resolve : String → Option Schema)
    (unfoldings : Nat)
    (s : Schema)
    (v : Value)
    (o : Outcome)
    (hEnds : s.judgeWithin resolve unfoldings v = some o) :
    (o.isValid = true ↔ o.errors = []) ∧
      (o.isValid = true ↔ Accepts resolve s v) :=
  decides_judge (decides_namedJudge resolve unfoldings) s v o
    hEnds

/- The schemas of links, which have a label. -/
def Schema.linkNamed
    (name : String) : Option Schema :=
  if name = "link" then
    some (Schema.object.property "label"
      (Schema.string.setMinLength 1))
  else none

/- A link, the next link, and so on. -/
def Schema.chain : Schema :=
  (Schema.lazy (.named "link")).setPropertyName "next"

/- A link and a next one, which has the given label. -/
def Value.linkTo
    (label : String) : Value :=
  .object [("label", .string "a"),
    ("next", .object [("label", .string label)])]

/-
  A chain is refused for the empty label of its second link,
  and it is accepted with any other label there.
-/
theorem Schema.judgeWithin_chain_isValid_iff :
    (∃ o,
      chain.judgeWithin linkNamed 1 (Value.linkTo "") = some o ∧
        o.errors ≠ [] ∧ o.isValid = false ∧
        ¬ Accepts linkNamed chain (Value.linkTo "")) ∧
      ∃ o,
        chain.judgeWithin linkNamed 1 (Value.linkTo "b") =
            some o ∧
          o.errors = [] ∧ o.isValid = true ∧
          Accepts linkNamed chain (Value.linkTo "b") := by
  constructor
  · refine ⟨_, rfl, by decide, rfl, ?_⟩
    rw [← (judgeWithin_isValid_iff linkNamed 1 chain
      (Value.linkTo "") _ rfl).2]
    decide
  · refine ⟨_, rfl, rfl, rfl, ?_⟩
    exact (judgeWithin_isValid_iff linkNamed 1 chain
      (Value.linkTo "b") _ rfl).2.mp rfl

end Conform
