import Conform.Registry
import Conform.Proofs.Schema.Inversion
import Conform.Proofs.Schema.Verdict
import Mathlib.Logic.Relation

/-
  The value in an outcome. Only a mapped node puts a value
  into its outcome, and only wrappers and unions pass the
  outcome of another node on. So the value is what the first
  mapped node made of the checked value on the way from the
  root along the nodes that hand the value on.

  Main declarations:
    * `Schema.HandsOn`
    * `Schema.Gives` and `Schema.Withholds`
    * `Schema.HandsOn.judge_eq`
    * `Schema.handedOn_to_end`
    * `Schema.judgeWithin_value_iff`
-/

namespace Conform

------------------------------------------------------------
-- Handing a Value On
------------------------------------------------------------

namespace Schema

/-
  The node that another node hands a value on to, so that
  the outcome of the one is the outcome of the other:
    * a wrapper hands on a value that it does not let pass
      itself and that obeys its rules;
    * a union hands on to the first option that accepts the
      value, unless its settings admit the value or the
      value is present and breaks a rule.
-/
inductive HandsOn
    (resolve : String → Option Schema)
    (v : Value) : Schema → Schema → Prop
  | nullable {s : Settings} {inner : Schema}
      (hPresent : v.isAbsent = false)
      (hRules : s.Permits v) :
      HandsOn resolve v (.node s (.nullable inner)) inner
  | optional {s : Settings} {inner : Schema}
      (hDefined : v.isUndefined = false)
      (hRules : s.Permits v) :
      HandsOn resolve v (.node s (.optional inner)) inner
  | union {s : Settings} {before after : List Schema}
      {option : Schema}
      (hAdmits : ¬ s.Admits v)
      (hRules : v.isAbsent = false → s.Permits v)
      (hBefore : ∀ c ∈ before, ¬ Accepts resolve c v)
      (hAccepts : Accepts resolve option v) :
      HandsOn resolve v
        (.node s (.union (before ++ option :: after))) option

/-
  What a mapped node makes of a value: an absent value that
  its settings admit stays as it is, and any other value is
  mapped.
-/
inductive Gives
    (v : Value) : Schema → Value → Prop
  | unmapped {s : Settings} {mapping : Mapping}
      {inner : Schema}
      (hAdmits : s.Admits v) :
      Gives v (.node s (.mapped mapping inner)) v
  | mapped {s : Settings} {mapping : Mapping} {inner : Schema}
      {image : Value}
      (hAdmits : ¬ s.Admits v)
      (hImage : mapping v = .ok image) :
      Gives v (.node s (.mapped mapping inner)) image

/-
  The nodes whose outcome has no value:
    * leaves, objects, arrays, tuples, records, lazy nodes;
    * a wrapper that lets the value pass itself, and one
      whose rules the value breaks;
    * a union whose settings admit the value, one whose
      rules a present value breaks, and one of which no
      option accepts the value;
    * a mapped node whose mapping fails.
-/
inductive Withholds
    (resolve : String → Option Schema)
    (v : Value) : Schema → Prop
  | guarded {s : Settings} {shape : Shape}
      (hShape : shape.Guarded) :
      Withholds resolve v (.node s shape)
  | lazy {s : Settings} {child : Deferred}
      {property : Option String} :
      Withholds resolve v (.node s (.lazy child property))
  | nullableAbsent {s : Settings} {inner : Schema}
      (hAbsent : v.isAbsent = true) :
      Withholds resolve v (.node s (.nullable inner))
  | nullableBroken {s : Settings} {inner : Schema}
      (hRules : ¬ s.Permits v) :
      Withholds resolve v (.node s (.nullable inner))
  | optionalUndefined {s : Settings} {inner : Schema}
      (hUndefined : v.isUndefined = true) :
      Withholds resolve v (.node s (.optional inner))
  | optionalBroken {s : Settings} {inner : Schema}
      (hRules : ¬ s.Permits v) :
      Withholds resolve v (.node s (.optional inner))
  | unionAdmits {s : Settings} {options : List Schema}
      (hAdmits : s.Admits v) :
      Withholds resolve v (.node s (.union options))
  | unionBroken {s : Settings} {options : List Schema}
      (hPresent : v.isAbsent = false)
      (hRules : ¬ s.Permits v) :
      Withholds resolve v (.node s (.union options))
  | unionRefused {s : Settings} {options : List Schema}
      (hNone : ∀ option ∈ options,
        ¬ Accepts resolve option v) :
      Withholds resolve v (.node s (.union options))
  | failed {s : Settings} {mapping : Mapping} {inner : Schema}
      {reason : String}
      (hAdmits : ¬ s.Admits v)
      (hFails : mapping v = .error reason) :
      Withholds resolve v (.node s (.mapped mapping inner))

/- Some option is the first to accept a value, if one does. -/
theorem exists_first_accepting
    {resolve : String → Option Schema}
    {v : Value}
    {options : List Schema}
    (h : ∃ option ∈ options, Accepts resolve option v) :
    ∃ before option after,
      options = before ++ option :: after ∧
        (∀ c ∈ before, ¬ Accepts resolve c v) ∧
        Accepts resolve option v := by
  induction options with
  | nil =>
      rcases h with ⟨_, hMem, _⟩
      cases hMem
  | cons c rest ih =>
      by_cases hHead : Accepts resolve c v
      · exact ⟨[], c, rest, rfl,
          fun _ hMem => absurd hMem List.not_mem_nil, hHead⟩
      · rcases h with ⟨option, hMem, hAccepts⟩
        have hRest : option ∈ rest := by
          rcases List.mem_cons.mp hMem with rfl | hRest
          · exact absurd hAccepts hHead
          · exact hRest
        rcases ih ⟨option, hRest, hAccepts⟩ with
          ⟨before, first, after, rfl, hBefore, hFirst⟩
        refine ⟨c :: before, first, after, rfl, ?_, hFirst⟩
        exact List.forall_mem_cons.mpr ⟨hHead, hBefore⟩

/- Every node hands a value on, gives one or has none. -/
theorem handsOn_or_gives_or_withholds
    (resolve : String → Option Schema)
    (v : Value)
    (s : Schema) :
    (∃ t, HandsOn resolve v s t) ∨
      (∃ w, Gives v s w) ∨ Withholds resolve v s := by
  rcases s with ⟨s, shape⟩
  cases shape with
  | leaf kind =>
      exact Or.inr (Or.inr (.guarded (.leaf kind)))
  | object properties =>
      exact Or.inr (Or.inr (.guarded (.object properties)))
  | array items least most =>
      exact Or.inr (Or.inr (.guarded (.array items least most)))
  | tuple elements =>
      exact Or.inr (Or.inr (.guarded (.tuple elements)))
  | record keys contents =>
      exact Or.inr (Or.inr (.guarded (.record keys contents)))
  | lazy child property => exact Or.inr (Or.inr .lazy)
  | nullable inner =>
      cases hAbsent : v.isAbsent with
      | true => exact Or.inr (Or.inr (.nullableAbsent hAbsent))
      | false =>
          by_cases hRules : s.Permits v
          · exact Or.inl ⟨inner, .nullable hAbsent hRules⟩
          · exact Or.inr (Or.inr (.nullableBroken hRules))
  | optional inner =>
      cases hUndefined : v.isUndefined with
      | true =>
          exact Or.inr (Or.inr (.optionalUndefined hUndefined))
      | false =>
          by_cases hRules : s.Permits v
          · exact Or.inl ⟨inner, .optional hUndefined hRules⟩
          · exact Or.inr (Or.inr (.optionalBroken hRules))
  | mapped mapping inner =>
      by_cases hAdmits : s.Admits v
      · exact Or.inr (Or.inl ⟨v, .unmapped hAdmits⟩)
      · cases hImage : mapping v with
        | ok image =>
            exact Or.inr (Or.inl ⟨image,
              .mapped hAdmits hImage⟩)
        | error reason =>
            exact Or.inr (Or.inr (.failed hAdmits hImage))
  | union options =>
      by_cases hAdmits : s.Admits v
      · exact Or.inr (Or.inr (.unionAdmits hAdmits))
      by_cases hRules : v.isAbsent = false → s.Permits v
      · by_cases hSome :
            ∃ option ∈ options, Accepts resolve option v
        · rcases exists_first_accepting hSome with
            ⟨before, option, after, rfl, hBefore, hAccepts⟩
          exact Or.inl ⟨option,
            .union hAdmits hRules hBefore hAccepts⟩
        · refine Or.inr (Or.inr (.unionRefused ?_))
          exact fun option hMem hAccepts =>
            hSome ⟨option, hMem, hAccepts⟩
      · rcases Classical.not_imp.mp hRules with
          ⟨hPresent, hBroken⟩
        exact Or.inr (Or.inr (.unionBroken hPresent hBroken))

/- A node hands a value on to a node below it. -/
theorem HandsOn.sizeOf_lt
    {resolve : String → Option Schema}
    {v : Value}
    {s t : Schema}
    (h : HandsOn resolve v s t) :
    sizeOf t < sizeOf s := by
  cases h with
  | nullable => simp; omega
  | optional => simp; omega
  | @union settings before after option =>
      have hMem : t ∈ before ++ t :: after := by simp
      have hSize := List.sizeOf_lt_of_mem hMem
      simp only [node.sizeOf_spec, Shape.union.sizeOf_spec]
      omega

/-
  The way of a value ends at a mapped node that gives one or
  at a node that has none.
-/
theorem handedOn_to_end
    (resolve : String → Option Schema)
    (v : Value)
    (s : Schema) :
    (∃ source w,
      Relation.ReflTransGen (HandsOn resolve v) s source ∧
        Gives v source w) ∨
      ∃ stop,
        Relation.ReflTransGen (HandsOn resolve v) s stop ∧
          Withholds resolve v stop := by
  rcases handsOn_or_gives_or_withholds resolve v s with
    ⟨t, hStep⟩ | ⟨w, hGives⟩ | hStop
  · rcases handedOn_to_end resolve v t with
      ⟨source, w, hReach, hGives⟩ | ⟨stop, hReach, hStop⟩
    · exact Or.inl ⟨source, w, hReach.head hStep, hGives⟩
    · exact Or.inr ⟨stop, hReach.head hStep, hStop⟩
  · exact Or.inl ⟨s, w, .refl, hGives⟩
  · exact Or.inr ⟨s, .refl, hStop⟩
termination_by sizeOf s
decreasing_by exact hStep.sizeOf_lt

end Schema

------------------------------------------------------------
-- Outcomes
------------------------------------------------------------

namespace Settings

section

variable {s : Settings}
variable {v : Value}
variable {o : Outcome}

theorem value_of_guard
    {errors? : Value → Option (List String)}
    (h : s.guard errors? v = some o) :
    o.value = none := by
  rcases guard_cases h with ⟨_, rfl⟩ | ⟨_, _, _, rfl⟩
  · rfl
  · rfl

theorem value_of_judgeLazy
    {child : Judge}
    {property : Option String}
    (h : s.judgeLazy child property v = some o) :
    o.value = none := by
  rcases judgeLazy_cases h with
    ⟨_, rfl⟩ | ⟨_, _, _, ⟨rfl, _⟩ | ⟨_, _, _, _, _, _, rfl⟩⟩
  · cases s.nullable <;> rfl
  · rfl
  · rfl

/-
  A delegated check has the outcome of the inner node if the
  rules are obeyed, and no value if they are not.
-/
theorem judge_eq_of_delegate
    {inner : Judge}
    (hRules : s.Permits v)
    (h : s.delegate inner v = some o) :
    inner v = some o := by
  rcases delegate_cases h with
    ⟨found, hFound, ⟨_, rfl⟩ | ⟨hBroken, _⟩⟩
  · exact hFound
  · exact absurd hRules hBroken

theorem value_of_delegate
    {inner : Judge}
    (hRules : ¬ s.Permits v)
    (h : s.delegate inner v = some o) :
    o.value = none := by
  rcases delegate_cases h with
    ⟨_, _, ⟨hObeyed, _⟩ | ⟨_, rfl⟩⟩
  · exact absurd hObeyed hRules
  · rfl

end

end Settings

namespace Schema

section

variable {resolve : String → Option Schema}
variable {find : String → Judge}
variable {v : Value}
variable {o : Outcome}

/-
  The outcome of a node that hands a value on is the outcome
  of the node that it hands it on to.
-/
theorem HandsOn.judge_eq
    (hDecides : ∀ c : Schema,
      (c.judge find).Decides (Accepts resolve c))
    {s t : Schema}
    (h : HandsOn resolve v s t)
    (hJudge : s.judge find v = some o) :
    t.judge find v = some o := by
  cases h with
  | nullable hPresent hRules =>
      rw [judge] at hJudge
      rcases Settings.judgeNullable_cases hJudge with
        ⟨hAbsent, _⟩ | ⟨_, hDelegate⟩
      · simp [hAbsent] at hPresent
      · exact Settings.judge_eq_of_delegate hRules hDelegate
  | optional hDefined hRules =>
      rw [judge] at hJudge
      rcases Settings.judgeOptional_cases hJudge with
        ⟨hUndefined, _⟩ | ⟨_, hDelegate⟩
      · simp [hUndefined] at hDefined
      · exact Settings.judge_eq_of_delegate hRules hDelegate
  | @union settings before after option hAdmits hRules hBefore
      hAccepts =>
      rw [judge, judges_eq_map] at hJudge
      have hFirst : ∀ {choice : Except (List String) Outcome},
          Settings.choose?
              ((before ++ t :: after).map (judge find)) v =
            some choice →
          ∃ found, t.judge find v = some found ∧
            choice = .ok found :=
        Settings.choose?_of_first hDecides hBefore hAccepts
      rcases Settings.judgeUnion_cases hJudge with
        ⟨hAdmitted, _⟩ |
        ⟨_, _, hChoice | ⟨errors, hChoice, _⟩⟩ |
        ⟨hPresent, ⟨accepted, hChoice,
            ⟨_, rfl⟩ | ⟨hBroken, _⟩⟩ |
          ⟨errors, hChoice, _⟩⟩
      · exact absurd hAdmitted hAdmits
      · rcases hFirst hChoice with ⟨found, hFound, hOk⟩
        cases hOk
        exact hFound
      · rcases hFirst hChoice with ⟨_, _, hOk⟩
        cases hOk
      · rcases hFirst hChoice with ⟨found, hFound, hOk⟩
        cases hOk
        exact hFound
      · exact absurd (hRules hPresent) hBroken
      · rcases hFirst hChoice with ⟨_, _, hOk⟩
        cases hOk

/- The outcome at the end of the way of a value. -/
theorem judge_eq_of_handedOn
    (hDecides : ∀ c : Schema,
      (c.judge find).Decides (Accepts resolve c))
    {s t : Schema}
    (h : Relation.ReflTransGen (HandsOn resolve v) s t)
    (hJudge : s.judge find v = some o) :
    t.judge find v = some o := by
  induction h with
  | refl => exact hJudge
  | tail _ hStep ih => exact hStep.judge_eq hDecides ih

/- What a mapped node gives is the value of its outcome. -/
theorem Gives.value_eq
    {s : Schema}
    {w : Value}
    (h : Gives v s w)
    (hJudge : s.judge find v = some o) :
    o.value = some w := by
  cases h with
  | unmapped hAdmits =>
      rw [judge] at hJudge
      rcases Settings.judgeMapped_cases hJudge with
        ⟨_, rfl⟩ | ⟨hNot, _⟩ | ⟨hNot, _⟩
      · rfl
      · exact absurd hAdmits hNot
      · exact absurd hAdmits hNot
  | mapped hAdmits hImage =>
      rw [judge] at hJudge
      rcases Settings.judgeMapped_cases hJudge with
        ⟨hAdmitted, _⟩ | ⟨_, _, hFails, _⟩ |
        ⟨_, _, _, hOk, _, rfl⟩
      · exact absurd hAdmitted hAdmits
      · cases hImage.symm.trans hFails
      · cases hImage.symm.trans hOk
        rfl

theorem Withholds.value_eq
    (hDecides : ∀ c : Schema,
      (c.judge find).Decides (Accepts resolve c))
    {s : Schema}
    (h : Withholds resolve v s)
    (hJudge : s.judge find v = some o) :
    o.value = none := by
  cases h with
  | guarded hShape =>
      rcases hShape.judge_eq_guard _ find with
        ⟨errors?, hGuard⟩
      rw [hGuard] at hJudge
      exact Settings.value_of_guard hJudge
  | @lazy settings child property =>
      cases child with
      | known c =>
          rw [judge] at hJudge
          exact Settings.value_of_judgeLazy hJudge
      | named name =>
          rw [judge] at hJudge
          exact Settings.value_of_judgeLazy hJudge
  | nullableAbsent hAbsent =>
      rw [judge] at hJudge
      rcases Settings.judgeNullable_cases hJudge with
        ⟨_, rfl⟩ | ⟨hPresent, _⟩
      · rfl
      · simp [hAbsent] at hPresent
  | nullableBroken hRules =>
      rw [judge] at hJudge
      rcases Settings.judgeNullable_cases hJudge with
        ⟨_, rfl⟩ | ⟨_, hDelegate⟩
      · rfl
      · exact Settings.value_of_delegate hRules hDelegate
  | optionalUndefined hUndefined =>
      rw [judge] at hJudge
      rcases Settings.judgeOptional_cases hJudge with
        ⟨_, rfl⟩ | ⟨hDefined, _⟩
      · rfl
      · simp [hUndefined] at hDefined
  | optionalBroken hRules =>
      rw [judge] at hJudge
      rcases Settings.judgeOptional_cases hJudge with
        ⟨_, rfl⟩ | ⟨_, hDelegate⟩
      · rfl
      · exact Settings.value_of_delegate hRules hDelegate
  | unionAdmits hAdmits =>
      rw [judge, judges_eq_map] at hJudge
      rcases Settings.judgeUnion_cases hJudge with
        ⟨_, rfl⟩ | ⟨hNot, _⟩ | ⟨hPresent, _⟩
      · rfl
      · exact absurd hAdmits hNot
      · simp [hAdmits.isAbsent] at hPresent
  | unionBroken hPresent hRules =>
      rw [judge, judges_eq_map] at hJudge
      rcases Settings.judgeUnion_cases hJudge with
        ⟨_, rfl⟩ | ⟨_, hAbsent, _⟩ |
        ⟨_, ⟨_, _, ⟨hObeyed, _⟩ | ⟨_, rfl⟩⟩ | ⟨_, _, rfl⟩⟩
      · rfl
      · simp [hAbsent] at hPresent
      · exact absurd hObeyed hRules
      · rfl
      · rfl
  | unionRefused hNone =>
      rw [judge, judges_eq_map] at hJudge
      rcases Settings.judgeUnion_cases hJudge with
        ⟨_, rfl⟩ | ⟨_, _, hChoice | ⟨_, _, rfl⟩⟩ |
        ⟨_, ⟨_, hChoice, _⟩ | ⟨_, _, rfl⟩⟩
      · rfl
      · exact absurd hChoice
          (Settings.not_chosen_of_none hDecides hNone)
      · rfl
      · exact absurd hChoice
          (Settings.not_chosen_of_none hDecides hNone)
      · rfl
  | failed hAdmits hFails =>
      rw [judge] at hJudge
      rcases Settings.judgeMapped_cases hJudge with
        ⟨hAdmitted, _⟩ | ⟨_, _, _, rfl⟩ |
        ⟨_, _, _, hImage, _, _⟩
      · exact absurd hAdmitted hAdmits
      · rfl
      · cases hFails.symm.trans hImage

end

/-
  The value in an outcome is what a mapped node gives that
  the checked value is handed on to, and there is none if it
  is handed on to a node that has none. Where a union hands
  the value on, the outcome is valid; elsewhere the value is
  the same whether it is valid or not.
-/
theorem judgeWithin_value_iff
    (resolve : String → Option Schema)
    (unfoldings : Nat)
    (s : Schema)
    (v : Value)
    (o : Outcome)
    (hEnds : s.judgeWithin resolve unfoldings v = some o) :
    (∀ w, o.value = some w ↔ ∃ source,
      Relation.ReflTransGen (HandsOn resolve v) s source ∧
        Gives v source w) ∧
      (o.value = none ↔ ∃ stop,
        Relation.ReflTransGen (HandsOn resolve v) s stop ∧
          Withholds resolve v stop) ∧
      ∀ settings options next,
        Relation.ReflTransGen (HandsOn resolve v) s
            (.node settings (.union options)) →
          HandsOn resolve v (.node settings (.union options))
            next →
          o.isValid = true := by
  have hDecides : ∀ c : Schema,
      (c.judge (namedJudge resolve unfoldings)).Decides
        (Accepts resolve c) :=
    decides_judge (decides_namedJudge resolve unfoldings)
  have hSource : ∀ {source w},
      Relation.ReflTransGen (HandsOn resolve v) s source →
        Gives v source w → o.value = some w :=
    fun hReach hGives => hGives.value_eq
      (judge_eq_of_handedOn hDecides hReach hEnds)
  have hStop : ∀ {stop},
      Relation.ReflTransGen (HandsOn resolve v) s stop →
        Withholds resolve v stop → o.value = none :=
    fun hReach hWithholds => hWithholds.value_eq hDecides
      (judge_eq_of_handedOn hDecides hReach hEnds)
  refine ⟨fun w => ⟨fun hValue => ?_, ?_⟩, ⟨fun hNone => ?_, ?_⟩,
    ?_⟩
  · rcases handedOn_to_end resolve v s with
      ⟨source, w', hReach, hGives⟩ | ⟨stop, hReach, hWithholds⟩
    · have hSame := (hSource hReach hGives).symm.trans hValue
      cases hSame
      exact ⟨source, hReach, hGives⟩
    · rw [hStop hReach hWithholds] at hValue
      cases hValue
  · rintro ⟨source, hReach, hGives⟩
    exact hSource hReach hGives
  · rcases handedOn_to_end resolve v s with
      ⟨source, w, hReach, hGives⟩ | ⟨stop, hReach, hWithholds⟩
    · rw [hSource hReach hGives] at hNone
      cases hNone
    · exact ⟨stop, hReach, hWithholds⟩
  · rintro ⟨stop, hReach, hWithholds⟩
    exact hStop hReach hWithholds
  · intro settings options next hReach hStep
    have hNext := judge_eq_of_handedOn hDecides
      (hReach.tail hStep) hEnds
    rw [(hDecides next v o hNext).2]
    cases hStep with
    | union _ _ _ hAccepts => exact hAccepts

/- Text without the blanks around it, of three characters. -/
def trimmedText : Schema :=
  mapped (string.setMinLength 3) Mapping.trim

/-
  The trimmed text is the value of an outcome even where it
  is too short. A union of which no option accepts the text
  has no value.
-/
theorem judgeWithin_value_trimmed :
    (∃ o,
      (optional trimmedText).judgeWithin (fun _ => none) 0
          (.string " ab ") = some o ∧
        o.isValid = false ∧ o.value = some (.string "ab") ∧
        ∃ source,
          Relation.ReflTransGen
              (HandsOn (fun _ => none) (.string " ab "))
              (optional trimmedText) source ∧
            Gives (.string " ab ") source (.string "ab")) ∧
      ∃ o,
        (union [number, trimmedText]).judgeWithin
            (fun _ => none) 0 (.string " ab ") = some o ∧
          o.value = none ∧
          ∃ stop,
            Relation.ReflTransGen
                (HandsOn (fun _ => none) (.string " ab "))
                (union [number, trimmedText]) stop ∧
              Withholds (fun _ => none) (.string " ab ")
                stop := by
  constructor
  · refine ⟨_, rfl, rfl, rfl, ?_⟩
    exact ((judgeWithin_value_iff (fun _ => none) 0
      (optional trimmedText) (.string " ab ") _ rfl).1 _).mp rfl
  · refine ⟨_, rfl, rfl, ?_⟩
    exact (judgeWithin_value_iff (fun _ => none) 0
      (union [number, trimmedText]) (.string " ab ") _
      rfl).2.1.mp rfl

end Schema

end Conform
