import Conform.Schema.Judge
import Mathlib.Data.List.Forall2

/-
  The choice of an option. The options are asked one after
  the other up to the first that accepts the value, and its
  outcome is chosen. If all of them refuse, none is chosen,
  and their errors are put together.

  Main declarations:
    * `Judge.Passes` and `Judge.Refuses`
    * `Settings.choose?_eq_ok_iff`
    * `Settings.choose?_eq_error_iff`
    * `Settings.exists_passes_iff_of_choose?`
-/

namespace Conform

/- A check that ends and accepts the value. -/
def Judge.Passes
    (judge : Judge)
    (v : Value) : Prop :=
  ∃ o, judge v = some o ∧ o.isValid = true

/- A check that ends and refuses the value. -/
def Judge.Refuses
    (judge : Judge)
    (v : Value) : Prop :=
  ∃ o, judge v = some o ∧ o.isValid = false

theorem Judge.Refuses.not_passes
    {judge : Judge}
    {v : Value}
    (h : judge.Refuses v) :
    ¬ judge.Passes v := by
  rcases h with ⟨r, hRefused, hInvalid⟩
  rintro ⟨o, hOutcome, hValid⟩
  rw [hRefused] at hOutcome
  cases hOutcome
  rw [hInvalid] at hValid
  cases hValid

namespace Settings

------------------------------------------------------------
-- The Next Option
------------------------------------------------------------

section

variable {judge : Judge}
variable {rest : List Judge}
variable {v : Value}

theorem choose?_cons_of_none
    (h : judge v = none) :
    choose? (judge :: rest) v = none := by
  rw [choose?, h]
  rfl

/- An option that accepts is chosen. -/
theorem choose?_cons_of_valid
    {o : Outcome}
    (h : judge v = some o)
    (hValid : o.isValid = true) :
    choose? (judge :: rest) v = some (.ok o) := by
  rw [choose?, h]
  simp [hValid]

/- After an option that refuses the next ones are asked. -/
theorem choose?_cons_of_invalid
    {o : Outcome}
    (h : judge v = some o)
    (hInvalid : o.isValid = false) :
    choose? (judge :: rest) v =
      (choose? rest v).map (Except.mapError (o.errors ++ ·)) := by
  rw [choose?, h]
  cases hRest : choose? rest v with
  | none => simp [hInvalid]
  | some choice => cases choice <;> simp [hInvalid, Except.mapError]

end

------------------------------------------------------------
-- All Options
------------------------------------------------------------

section

variable {α : Type}
variable {judge : α → Judge}
variable {v : Value}

/- The option that is chosen is the first that accepts. -/
theorem choose?_eq_ok_iff
    {members : List α}
    {o : Outcome} :
    choose? (members.map judge) v = some (.ok o) ↔
      ∃ before a after, members = before ++ a :: after ∧
        (∀ b ∈ before, (judge b).Refuses v) ∧
        judge a v = some o ∧ o.isValid = true := by
  constructor
  · intro h
    induction members with
    | nil => cases h
    | cons a rest ih =>
        rw [List.map_cons] at h
        cases hFirst : judge a v with
        | none =>
            rw [choose?_cons_of_none hFirst] at h
            cases h
        | some r =>
            cases hValid : r.isValid with
            | true =>
                rw [choose?_cons_of_valid hFirst hValid] at h
                cases h
                exact ⟨[], a, rest, rfl, by simp, hFirst,
                  hValid⟩
            | false =>
                rw [choose?_cons_of_invalid hFirst hValid] at h
                rcases Option.map_eq_some_iff.mp h with
                  ⟨choice, hChoice, hEq⟩
                cases choice with
                | error errors => cases hEq
                | ok found =>
                    cases hEq
                    rcases ih hChoice with
                      ⟨before, b, after, rfl, hBefore, hJudge⟩
                    exact ⟨a :: before, b, after, rfl,
                      List.forall_mem_cons.mpr
                        ⟨⟨r, hFirst, hValid⟩, hBefore⟩,
                      hJudge⟩
  · rintro
      ⟨before, a, after, rfl, hBefore, hJudge, hValid⟩
    induction before with
    | nil => exact choose?_cons_of_valid hJudge hValid
    | cons b rest ih =>
        rcases List.forall_mem_cons.mp hBefore with
          ⟨⟨r, hRefused, hInvalid⟩, hRest⟩
        rw [List.cons_append, List.map_cons,
          choose?_cons_of_invalid hRefused hInvalid, ih hRest]
        rfl

/-
  No option is chosen if all of them refuse, and then all of
  their errors are there, one option after the other.
-/
theorem choose?_eq_error_iff
    {members : List α}
    {errors : List String} :
    choose? (members.map judge) v = some (.error errors) ↔
      (∀ a ∈ members, (judge a).Refuses v) ∧
        ∃ reports,
          List.Forall₂ (fun a r => judge a v = some r) members
            reports ∧
          errors = reports.flatMap Outcome.errors := by
  constructor
  · intro h
    induction members generalizing errors with
    | nil =>
        cases h
        exact ⟨by simp, [], .nil, rfl⟩
    | cons a rest ih =>
        rw [List.map_cons] at h
        cases hFirst : judge a v with
        | none =>
            rw [choose?_cons_of_none hFirst] at h
            cases h
        | some r =>
            cases hValid : r.isValid with
            | true =>
                rw [choose?_cons_of_valid hFirst hValid] at h
                cases h
            | false =>
                rw [choose?_cons_of_invalid hFirst hValid] at h
                rcases Option.map_eq_some_iff.mp h with
                  ⟨choice, hChoice, hEq⟩
                cases choice with
                | ok found => cases hEq
                | error others =>
                    cases hEq
                    rcases ih hChoice with
                      ⟨hRefuse, reports, hReports, rfl⟩
                    exact ⟨List.forall_mem_cons.mpr
                        ⟨⟨r, hFirst, hValid⟩, hRefuse⟩,
                      r :: reports, .cons hFirst hReports, rfl⟩
  · rintro ⟨hRefuse, reports, hReports, rfl⟩
    induction hReports with
    | nil => rfl
    | cons hFirst _ ih =>
        rcases List.forall_mem_cons.mp hRefuse with
          ⟨⟨r, hRefused, hInvalid⟩, hRest⟩
        rw [hFirst] at hRefused
        cases hRefused
        rw [List.map_cons,
          choose?_cons_of_invalid hFirst hInvalid, ih hRest]
        rfl

/- What is chosen accepts the value. -/
theorem isValid_of_choose?
    {options : List Judge}
    {o : Outcome}
    (h : choose? options v = some (.ok o)) :
    o.isValid = true := by
  rw [← List.map_id options] at h
  rcases choose?_eq_ok_iff.mp h with
    ⟨_, _, _, _, _, _, hValid⟩
  exact hValid

/- Options after the one that is chosen make no difference. -/
theorem choose?_append_of_ok
    {members : List α}
    {o : Outcome}
    (h : choose? (members.map judge) v = some (.ok o))
    (more : List α) :
    choose? ((members ++ more).map judge) v =
      some (.ok o) := by
  rcases choose?_eq_ok_iff.mp h with
    ⟨before, a, after, rfl, hFirst⟩
  refine choose?_eq_ok_iff.mpr
    ⟨before, a, after ++ more, ?_, hFirst⟩
  rw [List.append_assoc, List.cons_append]

/- An option is chosen if one of them accepts, and only then. -/
theorem exists_passes_iff_of_choose?
    {members : List α}
    {choice : Except (List String) Outcome}
    (h : choose? (members.map judge) v = some choice) :
    (∃ a ∈ members, (judge a).Passes v) ↔
      ∃ o, choice = .ok o := by
  cases choice with
  | ok o =>
      rcases choose?_eq_ok_iff.mp h with
        ⟨before, a, after, rfl, _, hJudge, hValid⟩
      exact iff_of_true ⟨a, by simp, o, hJudge, hValid⟩
        ⟨o, rfl⟩
  | error errors =>
      have hRefuse := (choose?_eq_error_iff.mp h).1
      apply iff_of_false
      · rintro ⟨a, ha, hPasses⟩
        exact (hRefuse a ha).not_passes hPasses
      · rintro ⟨o, hEq⟩
        cases hEq

end

end Settings

end Conform
