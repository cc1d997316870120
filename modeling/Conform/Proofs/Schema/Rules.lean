import Conform.Registry
import Conform.Proofs.Schema.Following
import Conform.Proofs.Schema.Unions

/-
  What the rules of a node add to its errors. The messages
  of the rules that a present value breaks come first, in
  the order of the rules, and after them there are the
  errors of the node without its rules. Two kinds of node
  show their rules something else: a mapped node what it
  maps the value to, and a lazy node that follows a property
  each value of a chain.

  Main declarations:
    * `Settings.bare`
    * `Shape.ShowsValue`
    * `Schema.errors_eq_complaints_append`
    * `Settings.judgeLazy_of_errors`
    * `Schema.RuleLaws`
    * `Schema.ruleLaws`
-/

namespace Conform

namespace Settings

/- The settings without the rules. -/
def bare
    (s : Settings) : Settings :=
  { s with rules := [] }

theorem complaints_bare
    (s : Settings)
    (v : Value) :
    s.bare.complaints v = [] := rfl

------------------------------------------------------------
-- Checks with and without Rules
------------------------------------------------------------

section

variable (s : Settings)
variable {v : Value}

theorem errors_guard
    (hPresent : v.isAbsent = false)
    (errors? : Value → Option (List String)) :
    (s.guard errors? v).map Outcome.errors =
      (s.bare.guard errors? v).map fun o =>
        s.complaints v ++ o.errors := by
  rw [guard, guard, s.presence?_of_present hPresent,
    s.bare.presence?_of_present hPresent]
  simp only [Option.map_map, complaints_bare]
  rfl

/-
  An option that accepts the value has no errors, so that
  only the messages of the broken rules are left.
-/
theorem errors_judgeUnion
    (hPresent : v.isAbsent = false)
    {options : List Judge}
    (hCoherent : ∀ judge ∈ options, ∀ o, judge v = some o →
      o.Coherent) :
    (s.judgeUnion options v).map Outcome.errors =
      (s.bare.judgeUnion options v).map fun o =>
        s.complaints v ++ o.errors := by
  have hAdmits : ∀ t : Settings, ¬ t.Admits v := by
    intro t hAdmits
    rw [hAdmits.isAbsent] at hPresent
    cases hPresent
  rw [judgeUnion_eq_settle (hAdmits s),
    judgeUnion_eq_settle (hAdmits s.bare)]
  cases hChoice : choose? options v with
  | none => rfl
  | some choice =>
      refine congrArg some ?_
      cases choice with
      | error errors =>
          simp [settle, mismatch, hPresent, Outcome.ofErrors,
            complaints_bare]
      | ok accepted =>
          have hChosen := hChoice
          rw [← List.map_id options] at hChosen
          rcases choose?_eq_ok_iff.mp hChosen with
            ⟨before, judge, after, hOptions, _, hJudge, hValid⟩
          have hClear : accepted.errors = [] :=
            (hCoherent judge (by simp [hOptions]) accepted
              hJudge).mp hValid
          by_cases hBroken : s.complaints v = [] <;>
            simp [settle, objections, hPresent, hBroken,
              hClear, Outcome.ofErrors, complaints_bare]

theorem errors_delegate
    (inner : Judge) :
    (s.delegate inner v).map Outcome.errors =
      (s.bare.delegate inner v).map fun o =>
        s.complaints v ++ o.errors := by
  unfold delegate
  cases inner v with
  | none => rfl
  | some found =>
      by_cases hBroken : s.complaints v = [] <;>
        simp [hBroken, complaints_bare, Outcome.ofErrors]

theorem errors_judgeNullable
    (hPresent : v.isAbsent = false)
    (inner : Judge) :
    (s.judgeNullable inner v).map Outcome.errors =
      (s.bare.judgeNullable inner v).map fun o =>
        s.complaints v ++ o.errors := by
  rw [judgeNullable, judgeNullable, hPresent,
    if_neg Bool.false_ne_true, if_neg Bool.false_ne_true]
  exact s.errors_delegate inner

theorem errors_judgeOptional
    (hDefined : v.isUndefined = false)
    (inner : Judge) :
    (s.judgeOptional inner v).map Outcome.errors =
      (s.bare.judgeOptional inner v).map fun o =>
        s.complaints v ++ o.errors := by
  rw [judgeOptional, judgeOptional, hDefined,
    if_neg Bool.false_ne_true, if_neg Bool.false_ne_true]
  exact s.errors_delegate inner

/- A lazy node without a property checks one value alone. -/
theorem errors_judgeLazy
    (hPresent : v.isAbsent = false)
    (child : Judge) :
    (s.judgeLazy child none v).map Outcome.errors =
      (s.bare.judgeLazy child none v).map fun o =>
        s.complaints v ++ o.errors := by
  rw [judgeLazy, judgeLazy, hPresent,
    if_neg Bool.false_ne_true, if_neg Bool.false_ne_true]
  simp only [Option.map_map, complaints_bare]
  rfl

/- No present value is passed on unmapped. -/
theorem lets_of_present
    (hPresent : v.isAbsent = false) :
    s.lets v = false := by
  cases v with
  | undefined => cases hPresent
  | null => cases hPresent
  | _ => rfl

/-
  A lazy node stops at a value that has errors, whatever
  property it would follow.
-/
theorem judgeLazy_of_errors
    (hPresent : v.isAbsent = false)
    {child : Judge}
    {found : Outcome}
    (hFound : child v = some found)
    (hErrors : s.complaints v ++ found.errors ≠ [])
    (property : Option String) :
    s.judgeLazy child property v =
      some (Outcome.ofErrors
        (s.complaints v ++ found.errors)) := by
  cases property with
  | none =>
      rw [judgeLazy_none hPresent, judgeOne, hFound,
        Option.bind_some, if_neg hErrors]
  | some name =>
      rw [judgeLazy_reentry hPresent, judgeOne, hFound,
        Option.bind_some, if_neg hErrors]

end

end Settings

------------------------------------------------------------
-- Nodes with and without Rules
------------------------------------------------------------

/-
  The shapes that show their rules a present value itself
  and nothing else.
-/
def Shape.ShowsValue : Shape → Prop
  | .mapped _ _ => False
  | .lazy _ (some _) => False
  | _ => True

namespace Schema

theorem isUndefined_of_present
    {v : Value}
    (hPresent : v.isAbsent = false) :
    v.isUndefined = false := by
  cases v with
  | undefined => cases hPresent
  | _ => rfl

/-
  The errors of a node are the messages of the broken rules
  and then the errors of the node without its rules.
-/
theorem errors_eq_complaints_append
    (resolve : String → Option Schema)
    (unfoldings : Nat)
    (s : Settings)
    {shape : Shape}
    (hShape : shape.ShowsValue)
    {v : Value}
    (hPresent : v.isAbsent = false) :
    ((node s shape).judgeWithin resolve unfoldings v).map
        Outcome.errors =
      ((node s.bare shape).judgeWithin resolve unfoldings
        v).map fun o => s.complaints v ++ o.errors := by
  cases shape with
  | union options =>
      rw [judgeWithin_union, judgeWithin_union]
      refine s.errors_judgeUnion hPresent ?_
      intro judge hJudge o hOutcome
      rcases List.mem_map.mp hJudge with ⟨c, _, rfl⟩
      exact (decides_judge
        (decides_namedJudge resolve unfoldings) c v o
          hOutcome).1
  | leaf kind =>
      rw [judgeWithin, judgeWithin, judge, judge]
      exact s.errors_guard hPresent _
  | object properties =>
      rw [judgeWithin, judgeWithin, judge, judge]
      exact s.errors_guard hPresent _
  | array items least most =>
      cases items with
      | none =>
          rw [judgeWithin, judgeWithin, judge, judge]
          exact s.errors_guard hPresent _
      | some item =>
          rw [judgeWithin, judgeWithin, judge, judge]
          exact s.errors_guard hPresent _
  | tuple elements =>
      rw [judgeWithin, judgeWithin, judge, judge]
      exact s.errors_guard hPresent _
  | record keys contents =>
      rw [judgeWithin, judgeWithin, judge, judge]
      exact s.errors_guard hPresent _
  | nullable inner =>
      rw [judgeWithin, judgeWithin, judge, judge]
      exact s.errors_judgeNullable hPresent _
  | optional inner =>
      rw [judgeWithin, judgeWithin, judge, judge]
      exact s.errors_judgeOptional
        (isUndefined_of_present hPresent) _
  | mapped mapping inner => exact hShape.elim
  | lazy child property =>
      cases property with
      | none =>
          rw [judgeWithin, judgeWithin, judge_lazy, judge_lazy]
          exact s.errors_judgeLazy hPresent _
      | some name => exact hShape.elim

/- Rules are in the order in which they were added. -/
theorem foldl_addRule
    (rules : List Rule)
    (s : Settings)
    (shape : Shape) :
    rules.foldl (fun c r => c.addRule r) (node s shape) =
      node { s with rules := s.rules ++ rules } shape := by
  induction rules generalizing s with
  | nil => simp
  | cons r rest ih =>
      rw [List.foldl_cons, addRule, mapSettings, ih,
        List.append_assoc]
      rfl

/- A mapped node shows its rules the image of a value. -/
theorem judgeWithin_mapped_of_ok
    (resolve : String → Option Schema)
    (unfoldings : Nat)
    (s : Settings)
    {mapping : Mapping}
    {v image : Value}
    (hPresent : v.isAbsent = false)
    (hImage : mapping v = .ok image)
    (inner : Schema) :
    (node s (.mapped mapping inner)).judgeWithin resolve
        unfoldings v =
      (inner.judgeWithin resolve unfoldings image).map
        fun found =>
          (Outcome.ofErrors
            (s.objections image ++ found.errors)).withValue
              image := by
  rw [judgeWithin, judge, Settings.judgeMapped,
    s.lets_of_present hPresent, if_neg Bool.false_ne_true,
    hImage]
  rfl

/- A mapping that fails leaves nothing to show the rules. -/
theorem judgeWithin_mapped_of_error
    (resolve : String → Option Schema)
    (unfoldings : Nat)
    (s : Settings)
    {mapping : Mapping}
    {v : Value}
    {reason : String}
    (hPresent : v.isAbsent = false)
    (hFails : mapping v = .error reason)
    (inner : Schema) :
    (node s (.mapped mapping inner)).judgeWithin resolve
        unfoldings v =
      some (Outcome.ofErrors
        ["Transform failed: " ++ reason]) := by
  rw [judgeWithin, judge, Settings.judgeMapped,
    s.lets_of_present hPresent, if_neg Bool.false_ne_true,
    hFails]
  rfl

/-
  What the rules of a node do to its outcome of a value that
  is present, for each kind of node:
    * they are the rules that were added to the node, in the
      order in which they were added;
    * where they are shown the value itself, their messages
      come before the errors of the node without rules;
    * a mapped node shows them the image of the value, if it
      is present, and hands the image up;
    * where the mapping fails, this is the only error;
    * no rule is consulted if there is no present image;
    * a lazy node asks its child about the value;
    * it follows no property of a value that breaks a rule
      or that the child refuses.
-/
structure RuleLaws
    (resolve : String → Option Schema)
    (unfoldings : Nat)
    (s : Settings)
    (v : Value) : Prop where
  added :
    ∀ shape,
      s.rules.foldl (fun c r => c.addRule r)
          (node s.bare shape) =
        node s shape
  first :
    ∀ shape : Shape, shape.ShowsValue →
      ((node s shape).judgeWithin resolve unfoldings v).map
          Outcome.errors =
        ((node s.bare shape).judgeWithin resolve unfoldings
          v).map fun o => s.complaints v ++ o.errors
  mapped :
    ∀ mapping inner image, mapping v = .ok image →
      (node s (.mapped mapping inner)).judgeWithin resolve
          unfoldings v =
        (inner.judgeWithin resolve unfoldings image).map
          fun found =>
            (Outcome.ofErrors
              (s.objections image ++ found.errors)).withValue
                image
  failed :
    ∀ mapping inner reason, mapping v = .error reason →
      (node s (.mapped mapping inner)).judgeWithin resolve
          unfoldings v =
        some (Outcome.ofErrors
          ["Transform failed: " ++ reason])
  unconsulted :
    ∀ mapping inner,
      (∀ image, mapping v = .ok image →
        image.isAbsent = true) →
      ∀ rules,
        (node { s with rules := rules }
            (.mapped mapping inner)).judgeWithin resolve
            unfoldings v =
          (node s (.mapped mapping inner)).judgeWithin resolve
            unfoldings v
  asked :
    ∀ child property o,
      (node s (.lazy child property)).judgeWithin resolve
          unfoldings v = some o →
        ∃ found,
          child.judge (namedJudge resolve unfoldings) v =
            some found
  stopped :
    ∀ child found,
      child.judge (namedJudge resolve unfoldings) v =
        some found →
      (∃ r ∈ s.rules, r.holds v = false) ∨
        found.isValid = false →
      ∀ property,
        (node s (.lazy child property)).judgeWithin resolve
            unfoldings v =
          some (Outcome.ofErrors
            (s.complaints v ++ found.errors))

/- The rules of every node obey the laws. -/
theorem ruleLaws
    (resolve : String → Option Schema)
    (unfoldings : Nat)
    (s : Settings)
    (v : Value)
    (hPresent : v.isAbsent = false) :
    RuleLaws resolve unfoldings s v where
  added shape := by
    rw [foldl_addRule]
    rfl
  first _ hShape :=
    errors_eq_complaints_append resolve unfoldings s hShape
      hPresent
  mapped _ inner _ hImage :=
    judgeWithin_mapped_of_ok resolve unfoldings s hPresent
      hImage inner
  failed _ inner _ hFails :=
    judgeWithin_mapped_of_error resolve unfoldings s hPresent
      hFails inner
  unconsulted mapping inner hNoImage rules := by
    cases hImage : mapping v with
    | error reason =>
        rw [judgeWithin_mapped_of_error _ _ _ hPresent hImage,
          judgeWithin_mapped_of_error _ _ _ hPresent hImage]
    | ok image =>
        have hAbsent := hNoImage image hImage
        rw [judgeWithin_mapped_of_ok _ _ _ hPresent hImage,
          judgeWithin_mapped_of_ok _ _ _ hPresent hImage]
        simp only [Settings.objections, hAbsent, if_true]
  asked child property o h := by
    rw [judgeWithin, judge_lazy] at h
    rcases Settings.judgeLazy_cases h with
      ⟨hAbsent, _⟩ | ⟨_, found, hFound, _⟩
    · rw [hAbsent] at hPresent
      cases hPresent
    · exact ⟨found, hFound⟩
  stopped child found hFound hCause property := by
    rw [judgeWithin, judge_lazy]
    refine s.judgeLazy_of_errors hPresent hFound ?_ property
    rw [Ne, List.append_eq_nil_iff, s.complaints_eq_nil_iff]
    rintro ⟨hPermits, hClear⟩
    rcases hCause with ⟨r, hr, hBroken⟩ | hInvalid
    · rw [hPermits r hr] at hBroken
      cases hBroken
    · rw [(Deferred.coherent_judge hFound).mpr hClear]
        at hInvalid
      cases hInvalid

/- Text is not shouted, and it is not about dragons. -/
def calmRules : Settings :=
  { rules :=
      [ ⟨fun v => v != .string "AB", "Do not shout."⟩,
        ⟨fun v => v != .string "dragon", "No dragons."⟩,
        ⟨fun v => v != .string "AB", "Be calm."⟩ ] }

/-
  Text that is shouted and too short has the messages of two
  rules before that of its length, and so has such text with
  blanks around it, if they are removed. A lazy node follows
  nothing from it.
-/
theorem ruleLaws_calm :
    ((node calmRules (.leaf (.string (some 3) none))).verdict?
          (.string "AB")).map Outcome.errors =
        some
          [ "Do not shout.", "Be calm.",
            "String is too short. Minimum length is 3." ] ∧
      (node calmRules (.mapped Mapping.trim
            (string.setMinLength 3))).verdict?
          (.string " AB ") =
        some ((Outcome.ofErrors
          [ "Do not shout.", "Be calm.",
            "String is too short. Minimum length is 3."
          ]).withValue (.string "AB")) ∧
      (node calmRules (.lazy (.known number)
            (some "next"))).verdict? (.string "AB") =
        some (Outcome.ofErrors
          [ "Do not shout.", "Be calm.",
            "Value must be a number." ]) := by
  have hShouted :=
    ruleLaws (fun _ => none) 0 calmRules (.string "AB") rfl
  have hBlanks :=
    ruleLaws (fun _ => none) 0 calmRules (.string " AB ") rfl
  refine ⟨?_, ?_, ?_⟩
  · exact (hShouted.first (.leaf (.string (some 3) none))
      trivial).trans (by decide)
  · exact (hBlanks.mapped Mapping.trim
      (string.setMinLength 3) (.string "AB") rfl).trans rfl
  · exact hShouted.stopped (.known number)
      (Outcome.ofErrors ["Value must be a number."]) rfl
      (Or.inr rfl) (some "next")

end Schema

end Conform
