import Conform.Proofs.Schema.Inversion
import Conform.Proofs.Schema.Totality
import Conform.Proofs.Schema.Verdict
import Mathlib.Data.List.Forall2

/-
  The laws of unions. The options are asked one after the
  other up to the first that accepts, for absent and for
  present values alike, and its outcome is the outcome of
  the union unless the value breaks a rule of the union. The
  verdict does not depend on the order of the options or on
  how often each occurs, and a union among the options may
  be replaced by its own options.

  Main declarations:
    * `Settings.mismatch_ne_nil`
    * `Settings.accepted?`
    * `Settings.accepted?_append`
    * `Schema.UnionLaws`
    * `Schema.unionLaws`
-/

namespace Conform

namespace Settings

------------------------------------------------------------
-- The Outcome of a Union
------------------------------------------------------------

section

variable {s : Settings}
variable {v : Value}

theorem objections_eq_nil_iff :
    s.objections v = [] ↔
      (v.isAbsent = false → s.Permits v) := by
  unfold objections
  cases v.isAbsent <;> simp [complaints_eq_nil_iff]

theorem absence_undefined
    (h : ¬ s.Admits .undefined) :
    s.absence .undefined =
      [s.message.getD Problem.required.text] := by
  have hRequired : s.required = true := by
    simpa [Admits] using h
  exact if_pos hRequired

theorem absence_null
    (h : ¬ s.Admits .null) :
    s.absence .null =
      [s.message.getD Problem.isNull.text] := by
  have hNullable : s.nullable = false := by
    simpa [Admits] using h
  simp [absence, hNullable]

theorem mismatch_ne_nil
    (h : ¬ s.Admits v)
    (errors : List String) :
    s.mismatch v errors ≠ [] := by
  cases v with
  | undefined =>
      simp [mismatch, Value.isAbsent, absence_undefined h]
  | null => simp [mismatch, Value.isAbsent, absence_null h]
  | _ => simp [mismatch, Value.isAbsent]

/- A union that no option matches refuses the value. -/
theorem isValid_settle_error
    (h : ¬ s.Admits v)
    (errors : List String) :
    (s.settle v (.error errors)).isValid = false := by
  rw [settle, Outcome.ofErrors, List.isEmpty_eq_false_iff]
  exact mismatch_ne_nil h errors

/- A union that accepts a value has the outcome of an option. -/
theorem eq_ok_of_isValid_settle
    (h : ¬ s.Admits v)
    {choice : Except (List String) Outcome}
    (hValid : (s.settle v choice).isValid = true) :
    choice = .ok (s.settle v choice) := by
  cases choice with
  | error errors =>
      rw [isValid_settle_error h] at hValid
      cases hValid
  | ok accepted =>
      by_cases hRules : s.objections v = []
      · rw [settle, if_pos hRules]
      · rw [settle, if_neg hRules,
          Outcome.isValid_ofErrors] at hValid
        exact absurd hValid hRules

end

------------------------------------------------------------
-- Unions among the Options
------------------------------------------------------------

section

variable {v : Value}

/-
  The outcome of the option that is chosen, if one is. The
  errors of options that refuse the value are left out.
-/
def accepted?
    (options : List Judge)
    (v : Value) : Option (Option Outcome) :=
  (choose? options v).map Except.toOption

theorem accepted?_cons
    (judge : Judge)
    (rest : List Judge) :
    accepted? (judge :: rest) v =
      (judge v).bind fun o =>
        if o.isValid then some (some o)
        else accepted? rest v := by
  unfold accepted?
  cases hFirst : judge v with
  | none =>
      rw [choose?_cons_of_none hFirst]
      rfl
  | some o =>
      cases hValid : o.isValid with
      | true =>
          rw [choose?_cons_of_valid hFirst hValid]
          simp [hValid, Except.toOption]
      | false =>
          rw [choose?_cons_of_invalid hFirst hValid,
            Option.map_map]
          simp only [Option.bind_some, hValid,
            Bool.false_eq_true, if_false]
          refine congrArg (fun f => (choose? rest v).map f) ?_
          funext choice
          cases choice <;> rfl

/- Later options are asked only if all earlier ones refuse. -/
theorem accepted?_append
    (first later : List Judge) :
    accepted? (first ++ later) v =
      (accepted? first v).bind fun found =>
        found.elim (accepted? later v) (some ∘ some) := by
  induction first with
  | nil => rfl
  | cons judge rest ih =>
      rw [List.cons_append, accepted?_cons, accepted?_cons, ih,
        Option.bind_assoc]
      refine congrArg ((judge v).bind ·) ?_
      funext o
      cases o.isValid <;> rfl

theorem not_admits_default : ¬ ({} : Settings).Admits v := by
  simp [Admits]

/-
  A union among the options does the same as its own options
  in its place, if its settings are those of a new node.
-/
theorem accepted?_union
    (inner rest : List Judge) :
    accepted? (({} : Settings).judgeUnion inner :: rest) v =
      accepted? (inner ++ rest) v := by
  have hInner : accepted? inner v =
      (choose? inner v).map Except.toOption := rfl
  rw [accepted?_cons, accepted?_append, hInner,
    judgeUnion_eq_settle not_admits_default]
  cases hChoice : choose? inner v with
  | none => rfl
  | some choice =>
      cases choice with
      | error errors =>
          have hInvalid :=
            isValid_settle_error (v := v) not_admits_default
              errors
          simp [hInvalid, Except.toOption]
      | ok accepted =>
          have hSettle :
              ({} : Settings).settle v (.ok accepted) =
                accepted :=
            if_pos (objections_eq_nil_iff.mpr fun _ _ hr =>
              absurd hr List.not_mem_nil)
          simp [hSettle, isValid_of_choose? hChoice,
            Except.toOption]

/-
  The verdict and the value of a union depend on the option
  that is chosen alone.
-/
theorem judgeUnion_agrees
    (s : Settings)
    {options options' : List Judge}
    (h : accepted? options v = accepted? options' v) :
    (s.judgeUnion options v).map
        (fun o => (o.isValid, o.value)) =
      (s.judgeUnion options' v).map
        fun o => (o.isValid, o.value) := by
  by_cases hAdmits : s.Admits v
  · rw [judgeUnion_of_admits hAdmits,
      judgeUnion_of_admits hAdmits]
  · have hSettle : ∀ choice,
        ((s.settle v choice).isValid,
          (s.settle v choice).value) =
          choice.toOption.elim (false, none) fun accepted =>
            ((s.settle v (.ok accepted)).isValid,
              (s.settle v (.ok accepted)).value) := by
      intro choice
      cases choice with
      | ok accepted => rfl
      | error errors =>
          rw [isValid_settle_error hAdmits]
          rfl
    have hAccepted : ∀ list,
        (s.judgeUnion list v).map
            (fun o => (o.isValid, o.value)) =
          (accepted? list v).map fun found =>
            found.elim (false, none) fun accepted =>
              ((s.settle v (.ok accepted)).isValid,
                (s.settle v (.ok accepted)).value) := by
      intro list
      rw [judgeUnion_eq_settle hAdmits, accepted?,
        Option.map_map, Option.map_map]
      exact congrArg (fun f => (choose? list v).map f)
        (funext hSettle)
    rw [hAccepted, hAccepted, h]

end

end Settings

------------------------------------------------------------
-- The Laws
------------------------------------------------------------

namespace Schema

/-
  The laws of a union for one value:
    * the same options in any order and number give the same
      verdict, and a verdict if each option has an outcome;
    * a union among the options with the settings of a new
      node may be replaced by its own options, with no
      effect on the verdict and the value;
    * if the value breaks no rule of the union and its own
      settings do not admit it, the union accepts with an
      outcome exactly if it is that of the first option that
      accepts;
    * what the union accepts has the same outcome with more
      options after the others;
    * an absent value is refused with one message, a present
      value that an option accepts with the messages of the
      broken rules, and any other with those, the message
      that no option matches and the errors of all options.
-/
structure UnionLaws
    (resolve : String → Option Schema)
    (unfoldings : Nat)
    (s : Settings)
    (options : List Schema)
    (v : Value) : Prop where
  reordered : ∀ (options' : List Schema) (unfoldings' : Nat)
      (o o' : Outcome),
    (∀ c, c ∈ options ↔ c ∈ options') →
      (node s (.union options)).judgeWithin resolve unfoldings
        v = some o →
      (node s (.union options')).judgeWithin resolve unfoldings'
        v = some o' →
      o.isValid = o'.isValid
  ends : ∀ options' : List Schema,
    (∀ c, c ∈ options ↔ c ∈ options') →
      (∀ c ∈ options, ∃ r,
        c.judgeWithin resolve unfoldings v = some r) →
      ∃ o, (node s (.union options')).judgeWithin resolve
        unfoldings v = some o
  flattened : ∀ before inner after : List Schema,
    options = before ++ node {} (.union inner) :: after →
      ((node s (.union options)).judgeWithin resolve unfoldings
          v).map (fun o => (o.isValid, o.value)) =
        ((node s (.union (before ++ inner ++
            after))).judgeWithin resolve unfoldings v).map
          fun o => (o.isValid, o.value)
  first : (v.isAbsent = false → s.Permits v) →
    ¬ s.Admits v → ∀ o : Outcome, o.isValid = true →
      ((node s (.union options)).judgeWithin resolve unfoldings
          v = some o ↔
        ∃ before c after, options = before ++ c :: after ∧
          (∀ b ∈ before,
            Judge.Refuses (b.judgeWithin resolve unfoldings)
              v) ∧
          c.judgeWithin resolve unfoldings v = some o)
  appended : ∀ (more : List Schema) (o : Outcome),
    (node s (.union options)).judgeWithin resolve unfoldings
        v = some o →
      o.isValid = true →
      (node s (.union (options ++ more))).judgeWithin resolve
        unfoldings v = some o
  refused : ∀ o : Outcome,
    (node s (.union options)).judgeWithin resolve unfoldings
        v = some o →
      o.isValid = false →
      (v = .undefined →
        o.errors =
          [s.message.getD Problem.required.text]) ∧
      (v = .null →
        o.errors = [s.message.getD Problem.isNull.text]) ∧
      (v.isAbsent = false →
        (∃ c ∈ options,
          Judge.Passes (c.judgeWithin resolve unfoldings) v) →
        o.errors = s.complaints v) ∧
      (v.isAbsent = false →
        (∀ c ∈ options,
          ¬ Judge.Passes (c.judgeWithin resolve unfoldings)
            v) →
        ∃ reports,
          List.Forall₂
            (fun c r => c.judgeWithin resolve unfoldings v =
              some r)
            options reports ∧
          o.errors = s.complaints v ++
            Problem.noOption.text ::
              reports.flatMap Outcome.errors)

section

variable (resolve : String → Option Schema)
variable (unfoldings : Nat)
variable (s : Settings)
variable (options : List Schema)
variable (v : Value)

theorem judgeWithin_union :
    (node s (.union options)).judgeWithin resolve unfoldings =
      s.judgeUnion
        (options.map fun c =>
          c.judgeWithin resolve unfoldings) := by
  rw [judgeWithin, judge, judges_eq_map]
  rfl

end

section

variable {resolve : String → Option Schema}
variable {unfoldings : Nat}
variable {s : Settings}
variable {options : List Schema}
variable {v : Value}
variable {o : Outcome}

/- Two unions of the same options have the same verdict. -/
theorem union_isValid_eq_of_mem_iff
    {options' : List Schema}
    (hSame : ∀ c, c ∈ options ↔ c ∈ options')
    {unfoldings' : Nat}
    {o' : Outcome}
    (h : (node s (.union options)).judgeWithin resolve
      unfoldings v = some o)
    (h' : (node s (.union options')).judgeWithin resolve
      unfoldings' v = some o') :
    o.isValid = o'.isValid := by
  have hVerdict := (decides_judge
    (decides_namedJudge resolve unfoldings) _ v o h).2
  have hVerdict' := (decides_judge
    (decides_namedJudge resolve unfoldings') _ v o' h').2
  rw [accepts_union_iff] at hVerdict hVerdict'
  simp only [hSame] at hVerdict
  exact Bool.eq_iff_iff.mpr (hVerdict.trans hVerdict'.symm)

/- Nested options are asked where the union among them stands. -/
theorem union_agrees_flattened
    (before inner after : List Schema) :
    ((node s (.union (before ++ node {} (.union inner) ::
        after))).judgeWithin resolve unfoldings v).map
        (fun o => (o.isValid, o.value)) =
      ((node s (.union (before ++ inner ++
          after))).judgeWithin resolve unfoldings v).map
        fun o => (o.isValid, o.value) := by
  rw [judgeWithin_union, judgeWithin_union]
  apply Settings.judgeUnion_agrees
  simp only [List.map_append, List.map_cons, List.append_assoc]
  rw [judgeWithin_union, Settings.accepted?_append,
    Settings.accepted?_append, Settings.accepted?_union]

/- An accepting union has the outcome of the first option. -/
theorem union_eq_some_iff_of_valid
    (hRules : v.isAbsent = false → s.Permits v)
    (hAdmits : ¬ s.Admits v)
    (hValid : o.isValid = true) :
    (node s (.union options)).judgeWithin resolve unfoldings
        v = some o ↔
      ∃ before c after, options = before ++ c :: after ∧
        (∀ b ∈ before,
          Judge.Refuses (b.judgeWithin resolve unfoldings)
            v) ∧
        c.judgeWithin resolve unfoldings v = some o := by
  have hSettle : ∀ accepted,
      s.settle v (.ok accepted) = accepted := fun _ =>
    if_pos (Settings.objections_eq_nil_iff.mpr hRules)
  have hChosen :
      s.judgeUnion
          (options.map fun c =>
            c.judgeWithin resolve unfoldings) v = some o ↔
        Settings.choose?
          (options.map fun c =>
            c.judgeWithin resolve unfoldings) v =
          some (.ok o) := by
    rw [Settings.judgeUnion_eq_settle hAdmits,
      Option.map_eq_some_iff]
    constructor
    · rintro ⟨choice, hChoice, rfl⟩
      rw [← Settings.eq_ok_of_isValid_settle hAdmits hValid]
      exact hChoice
    · exact fun hChoice => ⟨_, hChoice, hSettle o⟩
  rw [judgeWithin_union, hChosen, Settings.choose?_eq_ok_iff]
  simp only [hValid, and_true]

theorem union_append_of_valid
    (h : (node s (.union options)).judgeWithin resolve
      unfoldings v = some o)
    (hValid : o.isValid = true)
    (more : List Schema) :
    (node s (.union (options ++ more))).judgeWithin resolve
      unfoldings v = some o := by
  rw [judgeWithin_union] at h ⊢
  by_cases hAdmits : s.Admits v
  · rw [Settings.judgeUnion_of_admits hAdmits] at h ⊢
    exact h
  · rw [Settings.judgeUnion_eq_settle hAdmits] at h ⊢
    rcases Option.map_eq_some_iff.mp h with
      ⟨choice, hChoice, rfl⟩
    have hOk := Settings.eq_ok_of_isValid_settle hAdmits hValid
    rw [hOk] at hChoice
    rw [Settings.choose?_append_of_ok hChoice more,
      Option.map_some, ← hOk]

/- An absent value is refused with the message for it. -/
theorem union_errors_of_absent
    (h : (node s (.union options)).judgeWithin resolve
      unfoldings v = some o)
    (hInvalid : o.isValid = false)
    (hAbsent : v.isAbsent = true) :
    ¬ s.Admits v ∧ o.errors = s.absence v := by
  rw [judgeWithin_union] at h
  rcases Settings.judgeUnion_cases h with
    ⟨_, rfl⟩ | ⟨hAdmits, _, hChoice | ⟨_, _, rfl⟩⟩ |
    ⟨hPresent, _⟩
  · cases hInvalid
  · rw [Settings.isValid_of_choose? hChoice] at hInvalid
    cases hInvalid
  · exact ⟨hAdmits, rfl⟩
  · rw [hAbsent] at hPresent
    cases hPresent

/-
  A present value is refused with the messages of the broken
  rules, and with those of all options if none accepts it.
-/
theorem union_errors_of_present
    (h : (node s (.union options)).judgeWithin resolve
      unfoldings v = some o)
    (hInvalid : o.isValid = false)
    (hPresent : v.isAbsent = false) :
    ((∃ c ∈ options,
          Judge.Passes (c.judgeWithin resolve unfoldings) v) ∧
        o.errors = s.complaints v) ∨
      ((¬ ∃ c ∈ options,
          Judge.Passes (c.judgeWithin resolve unfoldings) v) ∧
        ∃ reports,
          List.Forall₂
            (fun c r => c.judgeWithin resolve unfoldings v =
              some r)
            options reports ∧
          o.errors = s.complaints v ++
            Problem.noOption.text ::
              reports.flatMap Outcome.errors) := by
  rw [judgeWithin_union] at h
  rcases Settings.judgeUnion_cases h with
    ⟨hAdmits, _⟩ | ⟨_, hAbsent, _⟩ |
    ⟨_, ⟨accepted, hChoice, hRules⟩ | ⟨errors, hChoice, rfl⟩⟩
  · rw [hAdmits.isAbsent] at hPresent
    cases hPresent
  · rw [hAbsent] at hPresent
    cases hPresent
  · refine Or.inl
      ⟨(Settings.exists_passes_iff_of_choose? hChoice).mpr
        ⟨accepted, rfl⟩, ?_⟩
    rcases hRules with ⟨_, rfl⟩ | ⟨_, rfl⟩
    · rw [Settings.isValid_of_choose? hChoice] at hInvalid
      cases hInvalid
    · rfl
  · rcases Settings.choose?_eq_error_iff.mp hChoice with
      ⟨_, reports, hReports, rfl⟩
    refine Or.inr ⟨?_, reports, hReports, rfl⟩
    rw [Settings.exists_passes_iff_of_choose? hChoice]
    rintro ⟨accepted, hEq⟩
    cases hEq

end

/- Every union obeys the laws, for every value. -/
theorem unionLaws
    (resolve : String → Option Schema)
    (unfoldings : Nat)
    (s : Settings)
    (options : List Schema)
    (v : Value) :
    UnionLaws resolve unfoldings s options v where
  reordered _ _ _ _ hSame h h' :=
    union_isValid_eq_of_mem_iff hSame h h'
  ends options' hSame hEnds := by
    rw [judgeWithin_union]
    refine s.judgeUnion_ends fun judge hJudge => ?_
    rcases List.mem_map.mp hJudge with ⟨c, hc, rfl⟩
    exact hEnds c ((hSame c).mpr hc)
  flattened before inner after hOptions := by
    rw [hOptions]
    exact union_agrees_flattened before inner after
  first hRules hAdmits _ hValid :=
    union_eq_some_iff_of_valid hRules hAdmits hValid
  appended more _ h hValid :=
    union_append_of_valid h hValid more
  refused o h hInvalid := by
    refine ⟨?_, ?_, fun hPresent hPasses => ?_,
      fun hPresent hNone => ?_⟩
    · rintro rfl
      rcases union_errors_of_absent h hInvalid rfl with
        ⟨hAdmits, hErrors⟩
      rw [hErrors, Settings.absence_undefined hAdmits]
    · rintro rfl
      rcases union_errors_of_absent h hInvalid rfl with
        ⟨hAdmits, hErrors⟩
      rw [hErrors, Settings.absence_null hAdmits]
    · rcases union_errors_of_present h hInvalid hPresent with
        ⟨_, hErrors⟩ | ⟨hNot, _⟩
      · exact hErrors
      · exact absurd hPasses hNot
    · rcases union_errors_of_present h hInvalid hPresent with
        ⟨⟨c, hc, hPasses⟩, _⟩ | ⟨_, hReports⟩
      · exact absurd hPasses (hNone c hc)
      · exact hReports

/- Long words, and numbers or any words. -/
def wordOptions : List Schema :=
  [string.setMinLength 3, union [number, string]]

/- A rule that only seven keeps. -/
def onlySeven : Settings :=
  { rules := [⟨fun v => v == .number 7, "Seven is meant."⟩] }

/-
  A short word is accepted by the second option, which may
  be taken apart. A truth value is refused by all options,
  and null is refused with one message. Where only seven is
  meant, a word that some option accepts is refused with the
  message of the rule alone, and a truth value with that
  message before all others.
-/
theorem unionLaws_wordOptions :
    (∃ before c after, wordOptions = before ++ c :: after ∧
      (∀ b ∈ before,
        Judge.Refuses (b.judgeWithin (fun _ => none) 0)
          (.string "ab")) ∧
      c.judgeWithin (fun _ => none) 0 (.string "ab") =
        some Outcome.valid) ∧
    ((union [string.setMinLength 3, number, string]).verdict?
        (.string "ab")).map (fun o => (o.isValid, o.value)) =
      some (true, none) ∧
    (∃ o, (union wordOptions).verdict? (.bool true) = some o ∧
      o.errors =
        [ "Value does not match any of the allowed types.",
          "Value must be a string.",
          "Value does not match any of the allowed types.",
          "Value must be a number.",
          "Value must be a string." ]) ∧
    (∃ o, (union wordOptions).verdict? .null = some o ∧
      o.errors = ["Value cannot be null."]) ∧
    (∃ o, (node onlySeven (.union wordOptions)).verdict?
          (.string "ab") =
        some o ∧
      o.errors = ["Seven is meant."]) ∧
    (∃ o, (node onlySeven (.union wordOptions)).verdict?
          (.bool true) =
        some o ∧
      o.errors =
        [ "Seven is meant.",
          "Value does not match any of the allowed types.",
          "Value must be a string.",
          "Value does not match any of the allowed types.",
          "Value must be a number.",
          "Value must be a string." ]) ∧
    ((node onlySeven (.union wordOptions)).verdict?
        (.number 7)).map (fun o => (o.isValid, o.errors)) =
      some (true, []) := by
  have hWord :=
    unionLaws (fun _ => none) 0 {} wordOptions (.string "ab")
  have hNull := unionLaws (fun _ => none) 0 {} wordOptions .null
  have hSeven := unionLaws (fun _ => none) 0 onlySeven
    wordOptions (.string "ab")
  refine ⟨?_, ?_, ⟨_, rfl, by decide⟩, ⟨_, rfl, ?_⟩,
    ⟨_, rfl, ?_⟩, ⟨_, rfl, by decide +kernel⟩, by decide +kernel⟩
  · exact (hWord.first (fun _ _ hr => nomatch hr)
      Settings.not_admits_default Outcome.valid rfl).mp rfl
  · exact (hWord.flattened [string.setMinLength 3]
      [number, string] [] rfl).symm
  · exact (hNull.refused _ rfl rfl).2.1 rfl
  · have hPasses : ∃ c ∈ wordOptions,
        Judge.Passes (c.judgeWithin (fun _ => none) 0)
          (.string "ab") :=
      ⟨union [number, string], by simp [wordOptions], _, rfl,
        rfl⟩
    exact (hSeven.refused _ rfl rfl).2.2.1 rfl hPasses

end Schema

end Conform
