import Conform.Proofs.Schema.Acceptance

/-
  What a check decides. Every outcome is coherent: it is
  valid exactly if it has no errors. The settings of a node
  decide about absent values, and a leaf finds no problem
  exactly in the values of its form.

  Main declarations:
    * `Outcome.Coherent`
    * `Judge.Decides` and `Clears`
    * `Settings.decides_guard`
    * `Leaf.problems_eq_nil_iff`
-/

namespace Conform

------------------------------------------------------------
-- Coherent Outcomes
------------------------------------------------------------

/- An outcome that is valid exactly if it has no errors. -/
def Outcome.Coherent
    (o : Outcome) : Prop :=
  o.isValid = true ↔ o.errors = []

theorem Outcome.coherent_valid : Outcome.valid.Coherent := by
  simp [Coherent, valid]

theorem Outcome.coherent_ofErrors
    (errors : List String) :
    (Outcome.ofErrors errors).Coherent := by
  simp [Coherent, ofErrors]

theorem Outcome.isValid_ofErrors
    (errors : List String) :
    (Outcome.ofErrors errors).isValid = true ↔ errors = [] := by
  simp [ofErrors]

/- A value does not change whether an outcome is coherent. -/
theorem Outcome.Coherent.withValue
    {o : Outcome}
    (h : o.Coherent)
    (v : Value) :
    (o.withValue v).Coherent :=
  h

/-
  A check that, where it ends, has a coherent outcome and
  accepts the values with a given property.
-/
def Judge.Decides
    (judge : Judge)
    (accepted : Value → Prop) : Prop :=
  ∀ v o, judge v = some o →
    o.Coherent ∧ (o.isValid = true ↔ accepted v)

/-
  A search for errors that, where it ends, finds none
  exactly in the values with a given property.
-/
def Clears
    (errors? : Value → Option (List String))
    (accepted : Value → Prop)
    (v : Value) : Prop :=
  ∀ errors, errors? v = some errors →
    (errors = [] ↔ accepted v)

/- An outcome made of errors is coherent and decided by them. -/
theorem Outcome.decides_ofErrors
    {errors : List String}
    {p : Prop}
    (h : errors = [] ↔ p) :
    (Outcome.ofErrors errors).Coherent ∧
      ((Outcome.ofErrors errors).isValid = true ↔ p) :=
  ⟨coherent_ofErrors errors,
    (isValid_ofErrors errors).trans h⟩

theorem Judge.Decides.errors_eq_nil_iff
    {judge : Judge}
    {accepted : Value → Prop}
    {v : Value}
    {o : Outcome}
    (h : judge.Decides accepted)
    (hJudge : judge v = some o) :
    o.errors = [] ↔ accepted v := by
  rcases h v o hJudge with ⟨hCoherent, hValid⟩
  exact hCoherent.symm.trans hValid

/- A step to a part neither adds errors nor drops any. -/
theorem Step.locate_eq_nil_iff
    (step : Step)
    (errors : List String) :
    step.locate errors = [] ↔ errors = [] := by
  simp [locate]

theorem Judge.Decides.errorsAt
    {judge : Judge}
    {accepted : Value → Prop}
    (h : judge.Decides accepted)
    (step : Step)
    (v : Value) :
    Clears (judge.errorsAt step) accepted v := by
  intro errors hErrors
  rcases Option.map_eq_some_iff.mp hErrors with
    ⟨o, hJudge, hLocate⟩
  rw [← hLocate, Step.locate_eq_nil_iff]
  exact h.errors_eq_nil_iff hJudge

------------------------------------------------------------
-- Settings
------------------------------------------------------------

namespace Settings

theorem complaints_eq_nil_iff
    (s : Settings)
    (v : Value) :
    s.complaints v = [] ↔ s.Permits v := by
  simp [complaints, Permits]

/- Which messages there are depends on the rules alone. -/
theorem complaints_eq_of_rules
    {s t : Settings}
    (h : t.rules = s.rules)
    (v : Value) :
    t.complaints v = s.complaints v := by
  unfold complaints
  rw [h]

theorem Admits.isAbsent
    {s : Settings}
    {v : Value}
    (h : s.Admits v) :
    v.isAbsent = true := by
  rcases h with ⟨hUndefined, _⟩ | ⟨hNull, _⟩
  · rw [hUndefined]
    rfl
  · rw [hNull]
    rfl

theorem lets_iff
    (s : Settings)
    (v : Value) :
    s.lets v = true ↔ s.Admits v := by
  cases v <;> simp [lets, Admits]

theorem coherent_refuse
    (s : Settings)
    (p : Problem) :
    (s.refuse p).Coherent :=
  Outcome.coherent_ofErrors _

theorem isValid_refuse
    (s : Settings)
    (p : Problem) :
    (s.refuse p).isValid = false := rfl

/- The settings alone decide about absent values. -/
theorem presence?_of_absent
    (s : Settings)
    {v : Value}
    (h : v.isAbsent = true) :
    ∃ o, s.presence? v = some o ∧ o.Coherent ∧
      (o.isValid = true ↔ s.Admits v) := by
  cases v with
  | undefined =>
      refine ⟨_, rfl, ?_⟩
      cases hRequired : s.required with
      | false =>
          exact ⟨Outcome.coherent_valid,
            by simp [Admits, hRequired, Outcome.valid]⟩
      | true =>
          exact ⟨s.coherent_refuse .required,
            by simp [Admits, hRequired, isValid_refuse]⟩
  | null =>
      refine ⟨_, rfl, ?_⟩
      cases hNullable : s.nullable with
      | false =>
          exact ⟨s.coherent_refuse .isNull,
            by simp [Admits, hNullable, isValid_refuse]⟩
      | true =>
          exact ⟨Outcome.coherent_valid,
            by simp [Admits, hNullable, Outcome.valid]⟩
  | _ => simp [Value.isAbsent] at h

/- The settings alone do not decide about present values. -/
theorem presence?_of_present
    (s : Settings)
    {v : Value}
    (h : v.isAbsent = false) :
    s.presence? v = none := by
  cases v with
  | undefined => simp [Value.isAbsent] at h
  | null => simp [Value.isAbsent] at h
  | _ => rfl

/- Of a present value the complaints come before the errors. -/
theorem guard_of_present
    (s : Settings)
    (errors? : Value → Option (List String))
    {v : Value}
    (h : v.isAbsent = false) :
    s.guard errors? v =
      (errors? v).map fun errors =>
        Outcome.ofErrors (s.complaints v ++ errors) := by
  rw [guard, s.presence?_of_present h]

/-
  A guarded check accepts the absent values that the
  settings admit, and the present ones that obey the rules
  and in which no error is found.
-/
theorem decides_guard
    {s : Settings}
    {errors? : Value → Option (List String)}
    {shaped : Value → Prop}
    (h : ∀ v, Clears errors? shaped v) :
    (s.guard errors?).Decides fun v =>
      s.Admits v ∨
        (v.isAbsent = false ∧ s.Permits v ∧ shaped v) := by
  intro v o hJudge
  unfold guard at hJudge
  cases hAbsent : v.isAbsent with
  | true =>
      rcases s.presence?_of_absent hAbsent with
        ⟨o', hPresence, hCoherent, hValid⟩
      rw [hPresence] at hJudge
      have hOutcome : o' = o := Option.some.inj hJudge
      subst hOutcome
      exact ⟨hCoherent, by simp [hValid, hAbsent]⟩
  | false =>
      have hAdmits : ¬ s.Admits v := by
        intro hAdmits
        simp [hAdmits.isAbsent] at hAbsent
      rw [s.presence?_of_present hAbsent] at hJudge
      rcases Option.map_eq_some_iff.mp hJudge with
        ⟨errors, hErrors, hOutcome⟩
      rw [← hOutcome]
      apply Outcome.decides_ofErrors
      rw [List.append_eq_nil_iff, s.complaints_eq_nil_iff,
        h v errors hErrors]
      simp [hAdmits, hAbsent]

end Settings

------------------------------------------------------------
-- Leaves
------------------------------------------------------------

namespace Number

theorem isNaN_iff
    (x : Number) :
    x.isNaN = true ↔ x = .nan := by
  cases x <;> simp [isNaN]

theorem isWhole_iff
    (x : Number) :
    x.isWhole = true ↔ x.IsInteger := by
  cases x with
  | nan => simp [isWhole, IsInteger]
  | infinity negative => simp [isWhole, IsInteger]
  | finite negative size =>
      rw [isWhole, decide_eq_true_iff, Magnitude.IsWhole]
      constructor
      · rintro ⟨k, hk⟩
        exact ⟨negative, size, k, rfl, hk⟩
      · rintro ⟨_, _, k, hEq, hk⟩
        cases hEq
        exact ⟨k, hk⟩

end Number

namespace Leaf

theorem boundProblems_eq_nil_iff
    {α : Type}
    (bound : Option α)
    (breaks : α → Bool)
    (problem : α → Problem) :
    boundProblems bound breaks problem = [] ↔
      ∀ b, bound = some b → breaks b = false := by
  cases bound with
  | none => simp [boundProblems]
  | some b => cases h : breaks b <;> simp [boundProblems, h]

theorem instant?_eq_some_iff
    (acceptsText : Bool)
    (v : Value)
    (t : Instant) :
    instant? acceptsText v = some t ↔
      Dates acceptsText v t := by
  constructor
  · intro h
    cases v with
    | date u =>
        have hEq : u = t := Option.some.inj h
        rw [hEq]
        exact Dates.date t
    | string text =>
        cases acceptsText with
        | false => simp [instant?] at h
        | true =>
            exact Dates.text rfl (by simpa [instant?] using h)
    | _ => simp [instant?] at h
  · intro h
    cases h with
    | date => rfl
    | text hAccepts hText => simp [instant?, hAccepts, hText]

/- A leaf finds no problem in the values of its form. -/
theorem problems_eq_nil_iff
    (kind : Leaf)
    (v : Value) :
    kind.problems v = [] ↔ kind.Holds v := by
  cases kind with
  | string least most =>
      cases v with
      | string text =>
          simp [problems, Holds, boundProblems_eq_nil_iff]
      | _ => simp [problems, Holds]
  | number least most integer =>
      cases v with
      | number x =>
          cases hNaN : x.isNaN with
          | true =>
              have hEq : x = .nan := (x.isNaN_iff).mp hNaN
              simp [problems, Holds, hEq, Number.isNaN]
          | false =>
              have hNe : x ≠ .nan := by
                intro hEq
                simp [hEq, Number.isNaN] at hNaN
              cases integer <;>
                simp [problems, Holds, hNaN, hNe,
                  boundProblems_eq_nil_iff, Number.isWhole_iff]
      | _ => simp [problems, Holds]
  | boolean => cases v <;> simp [problems, Holds]
  | date earliest latest acceptsText =>
      cases hInstant : instant? acceptsText v with
      | none =>
          have hNone : ∀ t, ¬ Dates acceptsText v t := by
            intro t hDates
            rw [← instant?_eq_some_iff, hInstant] at hDates
            cases hDates
          simp [problems, Holds, hInstant, hNone]
      | some t =>
          have hDates : ∀ u, Dates acceptsText v u ↔ t = u := by
            intro u
            rw [← instant?_eq_some_iff, hInstant,
              Option.some.injEq]
          simp [problems, Holds, hInstant, hDates,
            boundProblems_eq_nil_iff]
  | enumeration allowed =>
      simp [problems, Holds, List.contains_iff_exists_mem_beq]
  | literal expected => simp [problems, Holds]
  | any => simp [problems, Holds]

end Leaf

end Conform
