import Conform.Proofs.Schema.Choice
import Conform.Proofs.Schema.Decision

/-
  What the check of a node decides, given what the checks of
  the nodes below it decide. Composites look at the errors
  of the nodes below them and unions look at the verdict, so
  the two views have to agree at every node.

  Main declarations:
    * `clears_objectErrors?`
    * `clears_arrayErrors?`
    * `clears_tupleErrors?`
    * `clears_recordErrors?`
    * `Settings.decides_judgeUnion`
    * `Settings.decides_judgeMapped`
    * `Settings.decides_judgeLazy`
-/

namespace Conform

------------------------------------------------------------
-- Objects, Arrays, Tuples and Records
------------------------------------------------------------

theorem Value.isUndefined_iff
    (v : Value) :
    v.isUndefined = true ↔ v = .undefined := by
  cases v <;> simp [isUndefined]

/-
  A gathering is empty exactly if every member of the list
  contributes nothing to it.
-/
theorem gather_eq_nil_iff
    {α β : Type}
    {f : α → Option (List β)}
    (clear : α → Prop)
    {members : List α}
    {found : List β}
    (hMembers : ∀ a ∈ members, ∀ part, f a = some part →
      (part = [] ↔ clear a))
    (hGather : gather f members = some found) :
    found = [] ↔ ∀ a ∈ members, clear a := by
  induction members generalizing found with
  | nil =>
      cases hGather
      simp
  | cons a rest ih =>
      rw [gather] at hGather
      rcases Option.bind_eq_some_iff.mp hGather with
        ⟨first, hFirst, hRest⟩
      rcases Option.bind_eq_some_iff.mp hRest with
        ⟨others, hOthers, hFound⟩
      have hHead : first = [] ↔ clear a :=
        hMembers a List.mem_cons_self first hFirst
      have hTail : others = [] ↔ ∀ b ∈ rest, clear b :=
        ih (fun b hb => hMembers b (List.mem_cons_of_mem a hb))
          hOthers
      cases hFound
      rw [List.append_eq_nil_iff, hHead, hTail,
        List.forall_mem_cons]

theorem gather_map
    {α β γ : Type}
    (f : β → Option (List γ))
    (g : α → β)
    (members : List α) :
    gather f (members.map g) =
      gather (fun a => f (g a)) members := by
  induction members with
  | nil => rfl
  | cons a rest ih => simp only [List.map_cons, gather, ih]

/- What is gathered from the parts of a list is put together. -/
theorem gather_append
    {α β : Type}
    (f : α → Option (List β))
    (before after : List α) :
    gather f (before ++ after) =
      (gather f before).bind fun first =>
        (gather f after).map fun last => first ++ last := by
  induction before with
  | nil => simp [gather]
  | cons a rest ih =>
      rw [List.cons_append, gather, ih, gather]
      cases f a with
      | none => rfl
      | some found =>
          cases gather f rest with
          | none => rfl
          | some first =>
              cases gather f after with
              | none => rfl
              | some last => simp

/-
  A property of a value that is accepted, or that may be
  missing where it is undefined.
-/
def Slot.Fits
    (slot : Slot)
    (accepted : Value → Prop)
    (v : Value) : Prop :=
  (v.get slot.name = .undefined → slot.required = false) ∧
    (v.get slot.name ≠ .undefined →
      accepted (v.get slot.name))

theorem Slot.clears_errors?
    {slot : Slot}
    {accepted : Value → Prop}
    (h : slot.judge.Decides accepted)
    (v : Value) :
    Clears slot.errors? (slot.Fits accepted) v := by
  intro errors hErrors
  unfold errors? at hErrors
  cases hUndefined : (v.get slot.name).isUndefined with
  | true =>
      have hField : v.get slot.name = .undefined :=
        (Value.isUndefined_iff _).mp hUndefined
      simp only [hUndefined, if_true, Option.some.injEq]
        at hErrors
      subst hErrors
      cases hRequired : slot.required <;>
        simp [Fits, hField, hRequired, Step.locate_eq_nil_iff]
  | false =>
      have hField : v.get slot.name ≠ .undefined := by
        intro hField
        simp [hField, Value.isUndefined] at hUndefined
      simp only [hUndefined, Bool.false_eq_true, if_false]
        at hErrors
      have hClear := h.errorsAt (.property slot.name) _ errors
        hErrors
      simp [Fits, hField, hClear]

section

variable {α : Type}

theorem clears_objectErrors?
    {members : List α}
    {slot : α → Slot}
    {accepted : α → Value → Prop}
    (h : ∀ a ∈ members, (slot a).judge.Decides (accepted a))
    (v : Value) :
    Clears (objectErrors? (members.map slot))
      (fun v => ∃ fields, v = .object fields ∧
        ∀ a ∈ members, (slot a).Fits (accepted a) v) v := by
  intro errors hErrors
  cases v with
  | object fields =>
      rw [objectErrors?, gather_map] at hErrors
      have hGather := gather_eq_nil_iff
        (fun a => (slot a).Fits (accepted a) (.object fields))
        (fun a ha => Slot.clears_errors? (h a ha) _) hErrors
      simpa using hGather
  | _ =>
      cases hErrors
      simp

theorem itemErrors?_eq_nil_iff
    {members : List α}
    {judge : α → Judge}
    {accepted : α → Value → Prop}
    (h : ∀ a ∈ members, (judge a).Decides (accepted a))
    {items : List Value}
    {errors : List String}
    (hErrors : itemErrors? (members.map judge) items =
      some errors) :
    errors = [] ↔
      ∀ p ∈ members.zip items, accepted p.1 p.2 := by
  rw [itemErrors?, List.zip_map_left, List.zipIdx_map,
    gather_map] at hErrors
  have hGather := gather_eq_nil_iff
    (fun p : (α × Value) × Nat => accepted p.1.1 p.1.2)
    (fun p hp => by
      have hZip : p.1 ∈ members.zip items :=
        List.fst_mem_of_mem_zipIdx hp
      have hMember : p.1.1 ∈ members :=
        (List.of_mem_zip hZip).1
      exact (h p.1.1 hMember).errorsAt (.index p.2) p.1.2)
    hErrors
  rw [hGather]
  constructor
  · intro hAll p hp
    rcases List.mem_iff_getElem?.mp hp with ⟨i, hi⟩
    exact hAll (p, i) (List.mk_mem_zipIdx_iff_getElem?.mpr hi)
  · intro hAll p hp
    exact hAll p.1 (List.fst_mem_of_mem_zipIdx hp)

theorem clears_tupleErrors?
    {members : List α}
    {judge : α → Judge}
    {accepted : α → Value → Prop}
    (h : ∀ a ∈ members, (judge a).Decides (accepted a))
    (v : Value) :
    Clears (tupleErrors? (members.map judge))
      (fun v => ∃ items, v = .array items ∧
        items.length = members.length ∧
        ∀ p ∈ members.zip items, accepted p.1 p.2) v := by
  intro errors hErrors
  cases v with
  | array items =>
      rw [tupleErrors?, List.length_map] at hErrors
      by_cases hLength : items.length = members.length
      · rw [if_pos hLength] at hErrors
        have hItems := itemErrors?_eq_nil_iff h hErrors
        simpa [hLength] using hItems
      · rw [if_neg hLength] at hErrors
        cases hErrors
        simp [hLength]
  | _ =>
      cases hErrors
      simp

end

/- The items are clear if each of them is accepted. -/
theorem eachItemErrors?_eq_nil_iff
    {item : Option Judge}
    {accepted : Value → Prop}
    (h : ∀ judge, item = some judge → judge.Decides accepted)
    {items : List Value}
    {errors : List String}
    (hErrors : eachItemErrors? item items = some errors) :
    errors = [] ↔
      (item.isSome = true → ∀ w ∈ items, accepted w) := by
  cases item with
  | none =>
      cases hErrors
      simp
  | some judge =>
      have hItems : itemErrors?
          (items.map fun _ => judge) items = some errors := by
        rw [List.map_const']
        exact hErrors
      have hZip := itemErrors?_eq_nil_iff
        (fun _ _ => h judge rfl) hItems
      rw [hZip, List.zip, List.zipWith_self]
      simp

/-
  An array has no errors if its length keeps the bounds and
  its items, where they are checked, are all accepted.
-/
theorem clears_arrayErrors?
    {item : Option Judge}
    {accepted : Value → Prop}
    (h : ∀ judge, item = some judge → judge.Decides accepted)
    (least most : Option Nat)
    (v : Value) :
    Clears (arrayErrors? item least most)
      (fun v => ∃ items, v = .array items ∧
        (∀ m, least = some m → m ≤ items.length) ∧
        (∀ m, most = some m → items.length ≤ m) ∧
        (item.isSome = true → ∀ w ∈ items, accepted w)) v := by
  intro errors hErrors
  cases v with
  | array items =>
      rcases Option.map_eq_some_iff.mp hErrors with
        ⟨found, hFound, hAll⟩
      have hItems := eachItemErrors?_eq_nil_iff h hFound
      rw [← hAll]
      simp [hItems, Leaf.boundProblems_eq_nil_iff]
  | _ =>
      cases hErrors
      simp

theorem clears_recordErrors?
    {keys contents : Judge}
    {named filled : Value → Prop}
    (hKeys : keys.Decides named)
    (hContents : contents.Decides filled)
    (v : Value) :
    Clears (recordErrors? keys contents)
      (fun v => ∃ fields, v = .object fields ∧
        ∀ f ∈ fields, named (.string f.1) ∧ filled f.2) v := by
  intro errors hErrors
  cases v with
  | object fields =>
      have hGather := gather_eq_nil_iff
        (fun f : String × Value =>
          named (.string f.1) ∧ filled f.2)
        (fun f _ part hPart => by
          rcases Option.bind_eq_some_iff.mp hPart with
            ⟨first, hFirst, hRest⟩
          rcases Option.bind_eq_some_iff.mp hRest with
            ⟨second, hSecond, hAll⟩
          cases hAll
          rw [List.append_eq_nil_iff,
            hKeys.errorsAt _ _ first hFirst,
            hContents.errorsAt _ _ second hSecond])
        hErrors
      simpa using hGather
  | _ =>
      cases hErrors
      simp

------------------------------------------------------------
-- Unions
------------------------------------------------------------

namespace Settings

section

variable {α : Type}

/-
  The options of a union agree on a choice: an outcome comes
  from an option that accepts the value, and errors mean
  that no option does.
-/
theorem choose?_spec
    {members : List α}
    {judge : α → Judge}
    {accepted : α → Value → Prop}
    (h : ∀ a ∈ members, (judge a).Decides (accepted a))
    {v : Value}
    {choice : Except (List String) Outcome}
    (hChoice : choose? (members.map judge) v = some choice) :
    (∃ o, choice = .ok o ∧ o.Coherent ∧ o.isValid = true ∧
        ∃ a ∈ members, accepted a v) ∨
      (∃ errors, choice = .error errors ∧
        ∀ a ∈ members, ¬ accepted a v) := by
  cases choice with
  | ok o =>
      rcases choose?_eq_ok_iff.mp hChoice with
        ⟨before, a, after, rfl, _, hOutcome, hValid⟩
      have hMember : a ∈ before ++ a :: after := by simp
      rcases h a hMember v o hOutcome with
        ⟨hCoherent, hAccepts⟩
      exact Or.inl ⟨o, rfl, hCoherent, hValid, a, hMember,
        hAccepts.mp hValid⟩
  | error errors =>
      refine Or.inr ⟨errors, rfl, fun a ha hAccepted => ?_⟩
      rcases (choose?_eq_error_iff.mp hChoice).1 a ha with
        ⟨r, hRefused, hInvalid⟩
      rw [(h a ha v r hRefused).2.mpr hAccepted] at hInvalid
      cases hInvalid

/-
  A union accepts what its settings admit and what an option
  accepts. Only present values have to obey its rules.
-/
theorem decides_judgeUnion
    (s : Settings)
    {members : List α}
    {judge : α → Judge}
    {accepted : α → Value → Prop}
    (h : ∀ a ∈ members, (judge a).Decides (accepted a)) :
    (s.judgeUnion (members.map judge)).Decides fun v =>
      s.Admits v ∨
        ((v.isAbsent = false → s.Permits v) ∧
          ∃ a ∈ members, accepted a v) := by
  intro v o hJudge
  unfold judgeUnion at hJudge
  cases hAbsent : v.isAbsent with
  | true =>
      rcases s.presence?_of_absent hAbsent with
        ⟨own, hPresence, hCoherent, hValid⟩
      simp only [hPresence] at hJudge
      by_cases hOwn : own.isValid = true
      · rw [if_pos hOwn] at hJudge
        cases hJudge
        exact ⟨hCoherent, by simp [hOwn, hValid.mp hOwn]⟩
      · rw [if_neg hOwn] at hJudge
        have hAdmits : ¬ s.Admits v :=
          fun hAdmits => hOwn (hValid.mpr hAdmits)
        rcases Option.map_eq_some_iff.mp hJudge with
          ⟨choice, hChoice, hOutcome⟩
        rcases choose?_spec h hChoice with
          ⟨found, hOk, hFound, hFoundValid, hSome⟩ |
          ⟨errors, hError, hNone⟩
        · subst hOk hOutcome
          exact ⟨hFound, by simp [hFoundValid, hAbsent, hSome]⟩
        · subst hError hOutcome
          exact ⟨hCoherent,
            by simpa [hOwn, hAdmits, hAbsent] using hNone⟩
  | false =>
      have hAdmits : ¬ s.Admits v := by
        intro hAdmits
        simp [hAdmits.isAbsent] at hAbsent
      simp only [s.presence?_of_present hAbsent] at hJudge
      rcases Option.map_eq_some_iff.mp hJudge with
        ⟨choice, hChoice, hOutcome⟩
      rcases choose?_spec h hChoice with
        ⟨found, hOk, hFound, hFoundValid, hSome⟩ |
        ⟨errors, hError, hNone⟩
      · subst hOk
        by_cases hBroken : s.complaints v = []
        · have hPermits :=
            (s.complaints_eq_nil_iff v).mp hBroken
          simp only [hBroken, List.isEmpty_nil, if_true]
            at hOutcome
          subst hOutcome
          exact ⟨hFound,
            by simp [hFoundValid, hPermits, hSome]⟩
        · have hPermits : ¬ s.Permits v :=
            fun hPermits =>
              hBroken ((s.complaints_eq_nil_iff v).mpr hPermits)
          simp only [List.isEmpty_iff, hBroken, if_false]
            at hOutcome
          subst hOutcome
          apply Outcome.decides_ofErrors
          simp [hBroken, hAdmits, hAbsent, hPermits]
      · subst hError hOutcome
        apply Outcome.decides_ofErrors
        simpa [hAdmits] using fun _ => hNone

end

------------------------------------------------------------
-- Wrappers
------------------------------------------------------------

section

variable (s : Settings)
variable {inner : Judge}
variable {accepted : Value → Prop}

theorem decides_delegate
    (h : inner.Decides accepted) :
    (s.delegate inner).Decides fun v =>
      s.Permits v ∧ accepted v := by
  intro v o hJudge
  rcases Option.map_eq_some_iff.mp hJudge with
    ⟨found, hFound, hOutcome⟩
  rcases h v found hFound with ⟨hCoherent, hValid⟩
  by_cases hBroken : s.complaints v = []
  · have hPermits := (s.complaints_eq_nil_iff v).mp hBroken
    simp only [hBroken, List.isEmpty_nil, if_true] at hOutcome
    subst hOutcome
    exact ⟨hCoherent, by simp [hValid, hPermits]⟩
  · have hPermits : ¬ s.Permits v :=
      fun hPermits =>
        hBroken ((s.complaints_eq_nil_iff v).mpr hPermits)
    simp only [List.isEmpty_iff, hBroken, if_false] at hOutcome
    subst hOutcome
    apply Outcome.decides_ofErrors
    simp [hBroken, hPermits]

theorem decides_judgeNullable
    (h : inner.Decides accepted) :
    (s.judgeNullable inner).Decides fun v =>
      v.isAbsent = true ∨
        (v.isAbsent = false ∧ s.Permits v ∧ accepted v) := by
  intro v o hJudge
  unfold judgeNullable at hJudge
  cases hAbsent : v.isAbsent with
  | true =>
      simp only [hAbsent, if_true, Option.some.injEq] at hJudge
      subst hJudge
      exact ⟨Outcome.coherent_valid,
        by simp [Outcome.valid, hAbsent]⟩
  | false =>
      simp only [hAbsent, Bool.false_eq_true, if_false]
        at hJudge
      simpa [hAbsent] using s.decides_delegate h v o hJudge

theorem decides_judgeOptional
    (h : inner.Decides accepted) :
    (s.judgeOptional inner).Decides fun v =>
      v.isUndefined = true ∨
        (v.isUndefined = false ∧ s.Permits v ∧
          accepted v) := by
  intro v o hJudge
  unfold judgeOptional at hJudge
  cases hUndefined : v.isUndefined with
  | true =>
      simp only [hUndefined, if_true, Option.some.injEq]
        at hJudge
      subst hJudge
      exact ⟨Outcome.coherent_valid,
        by simp [Outcome.valid, hUndefined]⟩
  | false =>
      simp only [hUndefined, Bool.false_eq_true, if_false]
        at hJudge
      simpa [hUndefined] using s.decides_delegate h v o hJudge

/-
  A mapped node accepts what its settings admit, and values
  with an image that is accepted and obeys the rules unless
  it is absent.
-/
theorem decides_judgeMapped
    (mapping : Mapping)
    (h : inner.Decides accepted) :
    (s.judgeMapped mapping inner).Decides fun v =>
      s.Admits v ∨
        (¬ s.Admits v ∧ ∃ image, mapping v = .ok image ∧
          (image.isAbsent = false → s.Permits image) ∧
          accepted image) := by
  intro v o hJudge
  unfold judgeMapped at hJudge
  by_cases hLets : s.lets v = true
  · have hAdmits := (s.lets_iff v).mp hLets
    rw [if_pos hLets] at hJudge
    cases hJudge
    exact ⟨Outcome.coherent_valid.withValue v,
      by simp [Outcome.valid, Outcome.withValue, hAdmits]⟩
  · have hAdmits : ¬ s.Admits v :=
      fun hAdmits => hLets ((s.lets_iff v).mpr hAdmits)
    rw [if_neg hLets] at hJudge
    cases hImage : mapping v with
    | error reason =>
        simp only [hImage, Option.some.injEq] at hJudge
        subst hJudge
        apply Outcome.decides_ofErrors
        simp [hAdmits, hImage]
    | ok image =>
        simp only [hImage] at hJudge
        rcases Option.map_eq_some_iff.mp hJudge with
          ⟨found, hFound, hOutcome⟩
        have hErrors :
            (if image.isAbsent then []
              else s.complaints image) ++ found.errors = [] ↔
            (image.isAbsent = false → s.Permits image) ∧
              accepted image := by
          rw [List.append_eq_nil_iff,
            h.errors_eq_nil_iff hFound]
          cases image.isAbsent <;>
            simp [complaints_eq_nil_iff]
        rcases Outcome.decides_ofErrors hErrors with
          ⟨hCoherent, hValid⟩
        subst hOutcome
        refine ⟨hCoherent.withValue image, ?_⟩
        simpa [hAdmits, hImage, Outcome.withValue] using hValid

end

------------------------------------------------------------
-- Lazy Nodes
------------------------------------------------------------

/- The values that a lazy node checks in a present value. -/
def followed
    (property : Option String)
    (v : Value) : List Value :=
  match property with
  | none => [v]
  | some name => v.trail name

/- A trail has no errors if none of its values has any. -/
theorem trailErrors?_eq_nil_iff
    {errors? : Value → Option (List String)}
    {accepted : Value → Prop}
    (h : ∀ v, Clears errors? accepted v)
    (name : String)
    {values : List Value}
    {errors : List String}
    (hErrors : trailErrors? errors? name values = some errors) :
    errors = [] ↔ ∀ w ∈ values, accepted w := by
  induction values generalizing errors with
  | nil =>
      cases hErrors
      simp
  | cons v rest ih =>
      rw [trailErrors?] at hErrors
      rcases Option.bind_eq_some_iff.mp hErrors with
        ⟨first, hFirst, hRest⟩
      have hHead := h v first hFirst
      rw [List.forall_mem_cons, ← hHead]
      by_cases hClear : first = []
      · simp only [hClear, List.isEmpty_nil, if_true] at hRest
        rcases Option.map_eq_some_iff.mp hRest with
          ⟨others, hOthers, hLocate⟩
        rw [← hLocate, Step.locate_eq_nil_iff, ih hOthers]
        simp [hClear]
      · simp only [List.isEmpty_iff, hClear, if_false,
          Option.some.injEq] at hRest
        subst hRest
        simp [hClear]

/-
  A lazy node accepts absent values if it is nullable, and a
  present value if all values that it checks in it obey the
  rules and are accepted by the child.
-/
theorem decides_judgeLazy
    (s : Settings)
    {child : Judge}
    {accepted : Value → Prop}
    (h : child.Decides accepted)
    (property : Option String) :
    (s.judgeLazy child property).Decides fun v =>
      (v.isAbsent = true ∧ s.nullable = true) ∨
        (v.isAbsent = false ∧
          ∀ w ∈ followed property v,
            s.Permits w ∧ accepted w) := by
  intro v o hJudge
  have hClears : ∀ w, Clears
      (fun w => (child w).map fun outcome =>
        s.complaints w ++ outcome.errors)
      (fun w => s.Permits w ∧ accepted w) w := by
    intro w errors hErrors
    rcases Option.map_eq_some_iff.mp hErrors with
      ⟨found, hFound, hAll⟩
    rw [← hAll, List.append_eq_nil_iff,
      complaints_eq_nil_iff, h.errors_eq_nil_iff hFound]
  unfold judgeLazy at hJudge
  cases hAbsent : v.isAbsent with
  | true =>
      simp only [hAbsent, if_true, Option.some.injEq] at hJudge
      subst hJudge
      cases hNullable : s.nullable with
      | false =>
          exact ⟨s.coherent_refuse .isAbsent,
            by simp [isValid_refuse, hAbsent]⟩
      | true =>
          exact ⟨Outcome.coherent_valid,
            by simp [Outcome.valid, hAbsent]⟩
  | false =>
      simp only [hAbsent, Bool.false_eq_true, if_false]
        at hJudge
      cases property with
      | none =>
          rcases Option.map_eq_some_iff.mp hJudge with
            ⟨errors, hErrors, hOutcome⟩
          subst hOutcome
          apply Outcome.decides_ofErrors
          rw [hClears v errors hErrors]
          simp [followed, hAbsent]
      | some name =>
          rcases Option.map_eq_some_iff.mp hJudge with
            ⟨errors, hErrors, hOutcome⟩
          subst hOutcome
          apply Outcome.decides_ofErrors
          rw [trailErrors?_eq_nil_iff hClears name hErrors]
          simp [followed, hAbsent]

end Settings

end Conform
