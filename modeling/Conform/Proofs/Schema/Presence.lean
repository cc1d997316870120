import Conform.Proofs.Schema.Calls
import Conform.Proofs.Schema.Verdict

/-
  What a check reads of the settings of a node: what the
  rules say of the values that they are shown, and the flags
  and the message if the value is absent. Where all this is
  the same, the check is the same, whatever else the
  settings say. Of a present value it does not read the
  flags and the message, and of null it does not read
  whether a value is required.

  Main declarations:
    * `Shape.Shows`
    * `Settings.ReadAlike`
    * `Schema.judge_eq_of_readAlike`
    * `Schema.withPresence`
    * `Schema.judgeWithin_withPresence`
-/

namespace Conform

/- A trail consists of present values. -/
theorem Value.isAbsent_of_mem_trail
    {name : String}
    {v w : Value}
    (h : w ∈ v.trail name) :
    w.isAbsent = false := by
  generalize hTrail : v.trail name = values at h
  induction values generalizing v with
  | nil => cases h
  | cons first rest ih =>
      have hPresent : v.isAbsent = false := by
        by_contra hNot
        have hAbsent : v.isAbsent = true := by simpa using hNot
        rw [trail_of_absent name hAbsent] at hTrail
        cases hTrail
      rw [trail_of_present name hPresent] at hTrail
      rcases List.cons_eq_cons.mp hTrail with ⟨rfl, hRest⟩
      rcases List.mem_cons.mp h with rfl | hLater
      · exact hPresent
      · exact ih hRest hLater

/-
  The values that a node shows its rules. An optional node
  hands null on to the inner node, and its rules are shown
  null like any other value.
-/
def Shape.Shows : Shape → Value → Prop
  | .optional _, v => v.isUndefined = false
  | _, v => v.isAbsent = false

------------------------------------------------------------
-- Settings
------------------------------------------------------------

namespace Settings

/-
  Settings in which the check of a value reads the same: the
  complaints about the values that the rules are shown, for
  an absent value whether it may be null and the message,
  and for the undefined value whether one is required.
-/
structure ReadAlike
    (shown : Value → Prop)
    (v : Value)
    (s t : Settings) : Prop where
  complaints : ∀ w, shown w → s.complaints w = t.complaints w
  nullable : v.isAbsent = true → s.nullable = t.nullable
  message : v.isAbsent = true → s.message = t.message
  required : v.isUndefined = true → s.required = t.required

/- Of a present value nothing but the rules is read. -/
theorem readAlike_of_present
    {shown : Value → Prop}
    {s t : Settings}
    {v : Value}
    (hPresent : v.isAbsent = false)
    (hRules : s.rules = t.rules) :
    s.ReadAlike shown v t where
  complaints w _ := complaints_eq_of_rules hRules w
  nullable := by simp [hPresent]
  message := by simp [hPresent]
  required hUndefined := by
    rw [(Value.isUndefined_iff v).mp hUndefined] at hPresent
    cases hPresent

namespace ReadAlike

variable {s t : Settings}
variable {v : Value}

section

variable {shown : Value → Prop}
variable (h : s.ReadAlike shown v t)

include h

theorem presence?_eq :
    s.presence? v = t.presence? v := by
  cases v with
  | undefined =>
      simp only [presence?, refuse, h.required rfl,
        h.message rfl]
  | null =>
      simp only [presence?, refuse, h.nullable rfl,
        h.message rfl]
  | _ => rfl

theorem lets_eq :
    s.lets v = t.lets v := by
  cases v with
  | undefined => simp only [lets, h.required rfl]
  | null => simp only [lets, h.nullable rfl]
  | _ => rfl

theorem delegate_eq
    (hShown : shown v)
    (inner : Judge) :
    s.delegate inner v = t.delegate inner v := by
  rw [delegate, delegate, h.complaints v hShown]

end

section

variable (h : s.ReadAlike (fun w => w.isAbsent = false) v t)

include h

theorem guard_eq
    (errors? : Value → Option (List String)) :
    s.guard errors? v = t.guard errors? v := by
  rw [guard, guard, h.presence?_eq]
  cases hAbsent : v.isAbsent with
  | true =>
      rcases t.presence?_of_absent hAbsent with
        ⟨o, hPresence, _⟩
      rw [hPresence]
  | false => rw [h.complaints v hAbsent]

theorem judgeUnion_eq
    (options : List Judge) :
    s.judgeUnion options v = t.judgeUnion options v := by
  rw [judgeUnion, judgeUnion, h.presence?_eq]
  cases hAbsent : v.isAbsent with
  | true =>
      rcases t.presence?_of_absent hAbsent with
        ⟨o, hPresence, _⟩
      rw [hPresence]
  | false => rw [h.complaints v hAbsent]

theorem judgeNullable_eq
    (inner : Judge) :
    s.judgeNullable inner v = t.judgeNullable inner v := by
  rw [judgeNullable, judgeNullable]
  cases hAbsent : v.isAbsent with
  | true => rfl
  | false => rw [h.delegate_eq hAbsent]

/- The rules of a mapped node are shown present images only. -/
theorem judgeMapped_eq
    (mapping : Mapping)
    (inner : Judge) :
    s.judgeMapped mapping inner v =
      t.judgeMapped mapping inner v := by
  rw [judgeMapped, judgeMapped, h.lets_eq]
  cases mapping v with
  | error reason => rfl
  | ok image =>
      have hBroken :
          (if image.isAbsent then [] else s.complaints image) =
            if image.isAbsent then []
            else t.complaints image := by
        cases hAbsent : image.isAbsent with
        | true => rfl
        | false => rw [h.complaints image hAbsent]
      simp only [hBroken]

/-
  A lazy node checks other values with itself again, but all
  of them are present, so that it reads no flag there.
-/
theorem judgeLazy_eq
    (child : Judge)
    (property : Option String) :
    s.judgeLazy child property v =
      t.judgeLazy child property v := by
  have hErrors : ∀ w, w.isAbsent = false →
      ((child w).map fun o => s.complaints w ++ o.errors) =
        (child w).map fun o => t.complaints w ++ o.errors := by
    intro w hw
    rw [h.complaints w hw]
  rw [judgeLazy, judgeLazy]
  cases hAbsent : v.isAbsent with
  | true =>
      rw [if_pos rfl, if_pos rfl, refuse, refuse,
        h.nullable hAbsent, h.message hAbsent]
  | false =>
      rw [if_neg Bool.false_ne_true,
        if_neg Bool.false_ne_true]
      cases property with
      | none => simp only [hErrors v hAbsent]
      | some name =>
          simp only [trailErrors?_congr
            (fun w hw =>
              hErrors w (Value.isAbsent_of_mem_trail hw))
            name]

end

theorem judgeOptional_eq
    (h : s.ReadAlike (fun w => w.isUndefined = false) v t)
    (inner : Judge) :
    s.judgeOptional inner v = t.judgeOptional inner v := by
  rw [judgeOptional, judgeOptional]
  cases hUndefined : v.isUndefined with
  | true => rfl
  | false => rw [h.delegate_eq hUndefined]

end ReadAlike

end Settings

------------------------------------------------------------
-- Nodes
------------------------------------------------------------

/-
  Nodes of one shape whose settings are read alike check the
  value in the same way, whatever else the settings say.
-/
theorem Schema.judge_eq_of_readAlike
    {s t : Settings}
    {v : Value}
    (shape : Shape)
    (h : s.ReadAlike shape.Shows v t)
    (find : String → Judge) :
    (node s shape).judge find v =
      (node t shape).judge find v := by
  cases shape with
  | leaf kind => rw [judge, judge, h.guard_eq]
  | object properties => rw [judge, judge, h.guard_eq]
  | array items least most =>
      cases items with
      | none => rw [judge, judge, h.guard_eq]
      | some item => rw [judge, judge, h.guard_eq]
  | tuple elements => rw [judge, judge, h.guard_eq]
  | record keys contents => rw [judge, judge, h.guard_eq]
  | union options => rw [judge, judge, h.judgeUnion_eq]
  | nullable inner => rw [judge, judge, h.judgeNullable_eq]
  | optional inner => rw [judge, judge, h.judgeOptional_eq]
  | mapped mapping inner =>
      rw [judge, judge, h.judgeMapped_eq]
  | lazy child property =>
      cases child with
      | known c => rw [judge, judge, h.judgeLazy_eq]
      | named name => rw [judge, judge, h.judgeLazy_eq]

------------------------------------------------------------
-- Presence
------------------------------------------------------------

namespace Schema

/- The node with other flags and another message. -/
def withPresence
    (nullable required : Bool)
    (message : Option String) : Schema → Schema :=
  mapSettings fun s =>
    { s with
      nullable := nullable
      required := required
      message := message }

/-
  The flags and the message of a node have no bearing on the
  outcome of a present value. A `nullable` node shows its
  inner node present values only, so those of the inner node
  have none on any value, and an `optional` node shows it
  null besides, of which it does not matter whether the
  inner node is required.
-/
theorem judgeWithin_withPresence
    (resolve : String → Option Schema)
    (unfoldings : Nat)
    (c : Schema)
    (nullable required : Bool)
    (message : Option String) :
    (∀ v, v.isAbsent = false →
        (c.withPresence nullable required message).judgeWithin
            resolve unfoldings v =
          c.judgeWithin resolve unfoldings v) ∧
      (∀ s v,
        (node s (.nullable
            (c.withPresence nullable required
              message))).judgeWithin resolve unfoldings v =
          (node s (.nullable c)).judgeWithin resolve
            unfoldings v) ∧
      ∀ s v,
        (node s (.optional (c.setRequired required))).judgeWithin
            resolve unfoldings v =
          (node s (.optional c)).judgeWithin resolve
            unfoldings v := by
  rcases c with ⟨own, shape⟩
  have hPresent : ∀ v : Value, v.isAbsent = false →
      ((node own shape).withPresence nullable required
            message).judgeWithin resolve unfoldings v =
        (node own shape).judgeWithin resolve unfoldings v := by
    intro v hPresent
    rw [judgeWithin, judgeWithin, withPresence, mapSettings]
    refine judge_eq_of_readAlike shape ?_ _
    exact Settings.readAlike_of_present hPresent rfl
  refine ⟨hPresent, fun s v => ?_, fun s v => ?_⟩
  · rw [judgeWithin, judgeWithin, judge, judge,
      Settings.judgeNullable, Settings.judgeNullable]
    cases hAbsent : v.isAbsent with
    | true => rfl
    | false =>
        rw [if_neg Bool.false_ne_true,
          if_neg Bool.false_ne_true]
        exact s.delegate_congr (hPresent v hAbsent)
  · rw [judgeWithin, judgeWithin, judge, judge,
      Settings.judgeOptional, Settings.judgeOptional]
    cases hUndefined : v.isUndefined with
    | true => rfl
    | false =>
        rw [if_neg Bool.false_ne_true,
          if_neg Bool.false_ne_true]
        refine s.delegate_congr ?_
        rw [setRequired, mapSettings]
        refine judge_eq_of_readAlike shape ?_ _
        exact ⟨fun _ _ => rfl, fun _ => rfl, fun _ => rfl,
          fun hTrue => by simp [hUndefined] at hTrue⟩

/-
  A chain of links is checked in the same way if it may be
  null, but null itself is not, unless the chain stands in a
  `nullable` node.
-/
theorem judgeWithin_withPresence_chain :
    (chain.withPresence true false none).judgeWithin linkNamed 1
        (Value.linkTo "") =
      chain.judgeWithin linkNamed 1 (Value.linkTo "") ∧
    (chain.withPresence true false none).judgeWithin linkNamed 1
        .null ≠
      chain.judgeWithin linkNamed 1 .null ∧
    (nullable (chain.withPresence true false none)).judgeWithin
        linkNamed 1 .null =
      (nullable chain).judgeWithin linkNamed 1 .null := by
  rcases judgeWithin_withPresence linkNamed 1 chain true false
    none with ⟨hPresent, hNullable, _⟩
  refine ⟨hPresent (Value.linkTo "") rfl, fun hEq => ?_,
    hNullable _ .null⟩
  have hValid := congrArg (Option.map Outcome.isValid) hEq
  revert hValid
  decide

end Schema

end Conform
