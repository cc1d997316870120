import Conform.Proofs.Schema.Combination

/-
  What a check has done if it has an outcome. There is one
  statement for each way in which the check of a node is put
  together, and it says all that the check can have done,
  so that proofs about outcomes need not look at checks.

  Main declarations:
    * `Settings.absence`
    * `Settings.guard_cases`
    * `Settings.settle`
    * `Settings.judgeUnion_eq_settle`
    * `Settings.judgeUnion_cases`
    * `Settings.delegate_cases`
    * `Settings.judgeMapped_cases`
    * `Settings.trailErrors?_cases`
    * `Settings.judgeLazy_cases`
    * `Shape.Guarded.judge_eq_guard`
-/

namespace Conform

namespace Settings

------------------------------------------------------------
-- Rules and Flags
------------------------------------------------------------

/- The message about an absent value, if it is refused. -/
def absence
    (s : Settings) : Value → List String
  | .undefined =>
      if s.required then
        [s.message.getD Problem.required.text]
      else []
  | .null =>
      if s.nullable then [] else [s.message.getD Problem.isNull.text]
  | _ => []

section

variable {s : Settings}
variable {v : Value}
variable {o : Outcome}

theorem complaints_isEmpty
    (h : s.Permits v) :
    (s.complaints v).isEmpty = true :=
  List.isEmpty_iff.mpr ((s.complaints_eq_nil_iff v).mpr h)

theorem complaints_not_isEmpty
    (h : ¬ s.Permits v) :
    (s.complaints v).isEmpty = false := by
  rw [List.isEmpty_eq_false_iff]
  exact fun hNil => h ((s.complaints_eq_nil_iff v).mp hNil)

/- The settings alone decide about absent values, by flags. -/
theorem presence?_cases
    (h : s.presence? v = some o) :
    v.isAbsent = true ∧ o = Outcome.ofErrors (s.absence v) := by
  cases v with
  | undefined =>
      simp only [presence?, Option.some.injEq] at h
      subst h
      refine ⟨rfl, ?_⟩
      unfold absence
      cases s.required <;> rfl
  | null =>
      simp only [presence?, Option.some.injEq] at h
      subst h
      refine ⟨rfl, ?_⟩
      unfold absence
      cases s.nullable <;> rfl
  | _ => cases h

theorem absence_eq_nil_of_admits
    (h : s.Admits v) :
    s.absence v = [] := by
  rcases h with ⟨rfl, hRequired⟩ | ⟨rfl, hNullable⟩
  · simp [absence, hRequired]
  · simp [absence, hNullable]

------------------------------------------------------------
-- Guarded Nodes
------------------------------------------------------------

theorem guard_cases
    {errors? : Value → Option (List String)}
    (h : s.guard errors? v = some o) :
    (v.isAbsent = true ∧
        o = Outcome.ofErrors (s.absence v)) ∨
      (v.isAbsent = false ∧
        ∃ errors, errors? v = some errors ∧
          o = Outcome.ofErrors (s.complaints v ++ errors)) := by
  unfold guard at h
  cases hAbsent : v.isAbsent with
  | true =>
      rcases s.presence?_of_absent hAbsent with
        ⟨own, hPresence, _⟩
      simp only [hPresence, Option.some.injEq] at h
      subst h
      exact Or.inl ⟨rfl, (presence?_cases hPresence).2⟩
  | false =>
      simp only [s.presence?_of_present hAbsent] at h
      rcases Option.map_eq_some_iff.mp h with
        ⟨errors, hErrors, rfl⟩
      exact Or.inr ⟨rfl, errors, hErrors, rfl⟩

------------------------------------------------------------
-- Unions
------------------------------------------------------------

end

section

variable (s : Settings)

/-
  The messages of the rules that a value breaks. No rule is
  shown an absent value.
-/
def objections
    (v : Value) : List String :=
  if v.isAbsent then [] else s.complaints v

/-
  What a union says about a value that no option accepts,
  given the errors of the options.
-/
def mismatch
    (v : Value)
    (errors : List String) : List String :=
  if v.isAbsent then s.absence v
  else s.complaints v ++ Problem.noOption.text :: errors

/- The outcome of a union, given the choice of an option. -/
def settle
    (v : Value) : Except (List String) Outcome → Outcome
  | .ok accepted =>
      if s.objections v = [] then accepted
      else Outcome.ofErrors (s.objections v)
  | .error errors => Outcome.ofErrors (s.mismatch v errors)

end

section

variable {s : Settings}
variable {v : Value}
variable {o : Outcome}

theorem judgeUnion_of_admits
    (h : s.Admits v)
    (options : List Judge) :
    s.judgeUnion options v = some Outcome.valid := by
  rcases s.presence?_of_absent h.isAbsent with
    ⟨own, hPresence, _, hValid⟩
  have hOwn := (presence?_cases hPresence).2
  rw [absence_eq_nil_of_admits h] at hOwn
  simp only [judgeUnion, hPresence]
  rw [if_pos (hValid.mpr h), hOwn]
  rfl

/-
  A value that the settings do not admit is offered to the
  options, and what they choose settles the outcome.
-/
theorem judgeUnion_eq_settle
    (h : ¬ s.Admits v)
    (options : List Judge) :
    s.judgeUnion options v =
      (choose? options v).map (s.settle v) := by
  unfold judgeUnion
  cases hAbsent : v.isAbsent with
  | true =>
      rcases s.presence?_of_absent hAbsent with
        ⟨own, hPresence, _, hValid⟩
      have hOwn := (presence?_cases hPresence).2
      simp only [hPresence]
      rw [if_neg fun hAdmitted => h (hValid.mp hAdmitted)]
      refine congrArg (fun f => (choose? options v).map f) ?_
      funext choice
      cases choice <;>
        simp [settle, objections, mismatch, hAbsent, hOwn]
  | false =>
      simp only [s.presence?_of_present hAbsent]
      refine congrArg (fun f => (choose? options v).map f) ?_
      funext choice
      cases choice <;>
        simp [settle, objections, mismatch, hAbsent]

/-
  The settings admit the value, or an absent or a present
  value is offered to the options, and one of them accepts
  it or none does.
-/
theorem judgeUnion_cases
    {options : List Judge}
    (h : s.judgeUnion options v = some o) :
    (s.Admits v ∧ o = Outcome.valid) ∨
      (¬ s.Admits v ∧ v.isAbsent = true ∧
        (choose? options v = some (.ok o) ∨
          ∃ errors, choose? options v = some (.error errors) ∧
            o = Outcome.ofErrors (s.absence v))) ∨
      (v.isAbsent = false ∧
        ((∃ accepted,
            choose? options v = some (.ok accepted) ∧
              ((s.Permits v ∧ o = accepted) ∨
                (¬ s.Permits v ∧
                  o = Outcome.ofErrors (s.complaints v)))) ∨
          ∃ errors, choose? options v = some (.error errors) ∧
            o = Outcome.ofErrors (s.complaints v ++
              Problem.noOption.text :: errors))) := by
  by_cases hAdmits : s.Admits v
  · rw [judgeUnion_of_admits hAdmits] at h
    exact Or.inl ⟨hAdmits, (Option.some.inj h).symm⟩
  · rw [judgeUnion_eq_settle hAdmits] at h
    apply Or.inr
    rcases Option.map_eq_some_iff.mp h with
      ⟨choice, hChoice, rfl⟩
    cases hAbsent : v.isAbsent with
    | true =>
        refine Or.inl ⟨hAdmits, rfl, ?_⟩
        cases choice with
        | ok accepted =>
            simp [settle, objections, hAbsent, hChoice]
        | error errors =>
            exact Or.inr ⟨errors, hChoice,
              by simp [settle, mismatch, hAbsent]⟩
    | false =>
        refine Or.inr ⟨rfl, ?_⟩
        cases choice with
        | ok accepted =>
            refine Or.inl ⟨accepted, hChoice, ?_⟩
            rw [settle, objections, hAbsent,
              if_neg Bool.false_ne_true]
            have hClear := s.complaints_eq_nil_iff v
            by_cases hRules : s.Permits v
            · exact Or.inl
                ⟨hRules, if_pos (hClear.mpr hRules)⟩
            · exact Or.inr
                ⟨hRules, if_neg fun h => hRules (hClear.mp h)⟩
        | error errors =>
            exact Or.inr ⟨errors, hChoice,
              by simp [settle, mismatch, hAbsent]⟩

end

section

variable {α : Type}
variable {judge : α → Judge}
variable {accepted : α → Value → Prop}
variable {v : Value}

/-
  The options agree on the outcome of the first of them that
  accepts the value.
-/
theorem choose?_of_first
    (h : ∀ a, (judge a).Decides (accepted a))
    {before after : List α}
    {a : α}
    (hBefore : ∀ b ∈ before, ¬ accepted b v)
    (hAccepted : accepted a v)
    {choice : Except (List String) Outcome}
    (hChoice : choose? ((before ++ a :: after).map judge) v =
      some choice) :
    ∃ o, judge a v = some o ∧ choice = .ok o := by
  induction before generalizing choice with
  | nil =>
      rw [List.nil_append, List.map_cons, choose?] at hChoice
      rcases Option.bind_eq_some_iff.mp hChoice with
        ⟨o, hOutcome, hRest⟩
      have hValid := (h a v o hOutcome).2.mpr hAccepted
      rw [if_pos hValid] at hRest
      exact ⟨o, hOutcome, (Option.some.inj hRest).symm⟩
  | cons b rest ih =>
      rw [List.cons_append, List.map_cons, choose?] at hChoice
      rcases Option.bind_eq_some_iff.mp hChoice with
        ⟨r, hRefused, hRest⟩
      have hInvalid : ¬ r.isValid = true := fun hValid =>
        hBefore b List.mem_cons_self
          ((h b v r hRefused).2.mp hValid)
      rw [if_neg hInvalid] at hRest
      rcases Option.bind_eq_some_iff.mp hRest with
        ⟨later, hLater, hChosen⟩
      rcases ih (fun c hc =>
          hBefore c (List.mem_cons_of_mem b hc)) hLater with
        ⟨o, hOutcome, rfl⟩
      exact ⟨o, hOutcome, (Option.some.inj hChosen).symm⟩

/- Where no option accepts the value, none is chosen. -/
theorem not_chosen_of_none
    (h : ∀ a, (judge a).Decides (accepted a))
    {members : List α}
    (hNone : ∀ a ∈ members, ¬ accepted a v)
    {o : Outcome} :
    choose? (members.map judge) v ≠ some (.ok o) := by
  intro hChoice
  rcases choose?_spec (fun a _ => h a) hChoice with
    ⟨_, _, _, _, a, ha, hAccepted⟩ | ⟨_, hError, _⟩
  · exact hNone a ha hAccepted
  · cases hError

/- Options that all refuse the value have all been asked. -/
theorem gather_of_choose?_error
    {members : List α}
    {errors : List String}
    (h : choose? (members.map judge) v =
      some (.error errors)) :
    gather (fun a => (judge a v).map Outcome.errors) members =
      some errors := by
  have hReports := (choose?_eq_error_iff.mp h).2
  clear h
  rcases hReports with ⟨reports, hReports, rfl⟩
  induction hReports with
  | nil => rfl
  | cons hFirst _ ih =>
      rw [gather, ih, hFirst, Option.map_some]
      rfl

end

------------------------------------------------------------
-- Wrappers
------------------------------------------------------------

section

variable {s : Settings}
variable {inner : Judge}
variable {v : Value}
variable {o : Outcome}

theorem delegate_cases
    (h : s.delegate inner v = some o) :
    ∃ found, inner v = some found ∧
      ((s.Permits v ∧ o = found) ∨
        (¬ s.Permits v ∧
          o = Outcome.ofErrors
            (s.complaints v ++ found.errors))) := by
  rcases Option.map_eq_some_iff.mp h with
    ⟨found, hFound, hOutcome⟩
  refine ⟨found, hFound, ?_⟩
  by_cases hRules : s.Permits v
  · simp only [complaints_isEmpty hRules, if_true] at hOutcome
    exact Or.inl ⟨hRules, hOutcome.symm⟩
  · simp only [complaints_not_isEmpty hRules,
      Bool.false_eq_true, if_false] at hOutcome
    exact Or.inr ⟨hRules, hOutcome.symm⟩

theorem judgeNullable_cases
    (h : s.judgeNullable inner v = some o) :
    (v.isAbsent = true ∧ o = Outcome.valid) ∨
      (v.isAbsent = false ∧ s.delegate inner v = some o) := by
  unfold judgeNullable at h
  cases hAbsent : v.isAbsent with
  | true =>
      rw [if_pos hAbsent] at h
      exact Or.inl ⟨rfl, (Option.some.inj h).symm⟩
  | false =>
      rw [hAbsent, if_neg Bool.false_ne_true] at h
      exact Or.inr ⟨rfl, h⟩

theorem judgeOptional_cases
    (h : s.judgeOptional inner v = some o) :
    (v.isUndefined = true ∧ o = Outcome.valid) ∨
      (v.isUndefined = false ∧
        s.delegate inner v = some o) := by
  unfold judgeOptional at h
  cases hUndefined : v.isUndefined with
  | true =>
      rw [if_pos hUndefined] at h
      exact Or.inl ⟨rfl, (Option.some.inj h).symm⟩
  | false =>
      rw [hUndefined, if_neg Bool.false_ne_true] at h
      exact Or.inr ⟨rfl, h⟩

theorem judgeMapped_cases
    {mapping : Mapping}
    (h : s.judgeMapped mapping inner v = some o) :
    (s.Admits v ∧ o = Outcome.valid.withValue v) ∨
      (¬ s.Admits v ∧ ∃ reason, mapping v = .error reason ∧
        o = Outcome.ofErrors
          [(Problem.mappingFailed reason).text]) ∨
      (¬ s.Admits v ∧ ∃ image found,
        mapping v = .ok image ∧ inner image = some found ∧
          o = (Outcome.ofErrors
            ((if image.isAbsent then [] else s.complaints image)
              ++ found.errors)).withValue image) := by
  unfold judgeMapped at h
  by_cases hAdmits : s.Admits v
  · rw [if_pos ((s.lets_iff v).mpr hAdmits)] at h
    exact Or.inl ⟨hAdmits, (Option.some.inj h).symm⟩
  · rw [if_neg fun hLets => hAdmits ((s.lets_iff v).mp hLets)]
      at h
    cases hImage : mapping v with
    | error reason =>
        rw [hImage] at h
        exact Or.inr (Or.inl
          ⟨hAdmits, reason, rfl, (Option.some.inj h).symm⟩)
    | ok image =>
        rw [hImage] at h
        rcases Option.map_eq_some_iff.mp h with
          ⟨found, hFound, hOutcome⟩
        exact Or.inr (Or.inr ⟨hAdmits, image, found, rfl, hFound,
          hOutcome.symm⟩)

------------------------------------------------------------
-- Lazy Nodes
------------------------------------------------------------

/-
  The errors of the trail of a present value are those of
  the value itself, unless it has none and there is a next
  value, whose trail has all the errors then.
-/
theorem trailErrors?_cases
    {errors? : Value → Option (List String)}
    {name : String}
    {errors : List String}
    (hPresent : v.isAbsent = false)
    (h : trailErrors? errors? name (v.trail name) =
      some errors) :
    ∃ first, errors? v = some first ∧
      ((errors = first ∧
          (first ≠ [] ∨ (v.get name).isAbsent = true)) ∨
        (first = [] ∧ (v.get name).isAbsent = false ∧
          ∃ others,
            trailErrors? errors? name
                ((v.get name).trail name) = some others ∧
              errors = (Step.property name).locate others)) := by
  rw [Value.trail_of_present name hPresent, trailErrors?] at h
  rcases Option.bind_eq_some_iff.mp h with
    ⟨first, hFirst, hRest⟩
  refine ⟨first, hFirst, ?_⟩
  by_cases hClear : first = []
  · rw [if_pos (List.isEmpty_iff.mpr hClear)] at hRest
    rcases Option.map_eq_some_iff.mp hRest with
      ⟨others, hOthers, hErrors⟩
    cases hNext : (v.get name).isAbsent with
    | true =>
        rw [Value.trail_of_absent name hNext] at hOthers
        cases hOthers
        refine Or.inl ⟨?_, Or.inr rfl⟩
        rw [hClear, ← hErrors]
        rfl
    | false =>
        exact Or.inr
          ⟨hClear, rfl, others, hOthers, hErrors.symm⟩
  · have hBroken : ¬ first.isEmpty = true :=
      fun hEmpty => hClear (List.isEmpty_iff.mp hEmpty)
    rw [if_neg hBroken] at hRest
    exact Or.inl ⟨(Option.some.inj hRest).symm, Or.inl hClear⟩

/-
  A lazy node stops at a value that is absent, in which there
  are errors, or that has nothing to follow, and otherwise
  it checks the property that it follows in the same way.
-/
theorem judgeLazy_cases
    {property : Option String}
    (h : s.judgeLazy inner property v = some o) :
    (v.isAbsent = true ∧
        o = if s.nullable then Outcome.valid
          else s.refuse .isAbsent) ∨
      (v.isAbsent = false ∧ ∃ found, inner v = some found ∧
        ((o = Outcome.ofErrors
              (s.complaints v ++ found.errors) ∧
            (s.complaints v ++ found.errors ≠ [] ∨
              ∀ name, property = some name →
                (v.get name).isAbsent = true)) ∨
          ∃ name rest, property = some name ∧
            (v.get name).isAbsent = false ∧
            s.complaints v ++ found.errors = [] ∧
            s.judgeLazy inner property (v.get name) =
              some rest ∧
            o = Outcome.ofErrors
              ((Step.property name).locate rest.errors))) := by
  cases hAbsent : v.isAbsent with
  | true =>
      rw [judgeLazy, if_pos hAbsent] at h
      exact Or.inl ⟨rfl, (Option.some.inj h).symm⟩
  | false =>
      rw [judgeLazy, hAbsent, if_neg Bool.false_ne_true] at h
      refine Or.inr ⟨rfl, ?_⟩
      cases property with
      | none =>
          rcases Option.map_eq_some_iff.mp h with
            ⟨errors, hErrors, rfl⟩
          rcases Option.map_eq_some_iff.mp hErrors with
            ⟨found, hFound, rfl⟩
          exact ⟨found, hFound, Or.inl ⟨rfl, Or.inr nofun⟩⟩
      | some name =>
          rcases Option.map_eq_some_iff.mp h with
            ⟨errors, hErrors, rfl⟩
          rcases trailErrors?_cases hAbsent hErrors with
            ⟨first, hFirst, hCases⟩
          rcases Option.map_eq_some_iff.mp hFirst with
            ⟨found, hFound, rfl⟩
          refine ⟨found, hFound, ?_⟩
          rcases hCases with
            ⟨rfl, hStop⟩ |
            ⟨hClear, hNext, others, hOthers, rfl⟩
          · refine Or.inl ⟨rfl, hStop.imp_right ?_⟩
            rintro hEnd _ ⟨⟩
            exact hEnd
          · refine Or.inr ⟨name, Outcome.ofErrors others, rfl,
              hNext, hClear, ?_, rfl⟩
            rw [judgeLazy, hNext, if_neg Bool.false_ne_true]
            exact Option.map_eq_some_iff.mpr
              ⟨others, hOthers, rfl⟩

end

end Settings

------------------------------------------------------------
-- Guarded Shapes
------------------------------------------------------------

/- The check of a guarded shape looks at present values only. -/
theorem Shape.Guarded.judge_eq_guard
    {shape : Shape}
    (h : shape.Guarded)
    (s : Settings)
    (find : String → Judge) :
    ∃ errors? : Value → Option (List String),
      (Schema.node s shape).judge find = s.guard errors? := by
  cases h with
  | leaf kind => exact ⟨_, by rw [Schema.judge]⟩
  | object properties => exact ⟨_, by rw [Schema.judge]⟩
  | array items least most =>
      cases items with
      | none => exact ⟨_, by rw [Schema.judge]⟩
      | some item => exact ⟨_, by rw [Schema.judge]⟩
  | tuple elements => exact ⟨_, by rw [Schema.judge]⟩
  | record keys contents => exact ⟨_, by rw [Schema.judge]⟩

end Conform
