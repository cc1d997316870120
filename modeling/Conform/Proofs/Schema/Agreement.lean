import Conform.Proofs.Schema.Presence
import Mathlib.Data.List.Forall2

/-
  Schemas that are the same but for the conditions of their
  rules. What a rule says of an absent value has no
  influence on any outcome, with one exception: the rules of
  an `optional` node do see null.

  Main declarations:
    * `Rule.AgreesOn`
    * `Settings.AgreesOn`
    * `Schema.Agrees`
    * `Schema.Agrees.judge_eq`
    * `Schema.judgeWithin_eq_of_agrees`
    * `Schema.not_verdict?_eq_of_agrees_present`
-/

namespace Conform

------------------------------------------------------------
-- Rules and Settings
------------------------------------------------------------

/-
  Rules with the same message that say the same of all
  values that they are shown.
-/
def Rule.AgreesOn
    (shown : Value → Prop)
    (r t : Rule) : Prop :=
  r.message = t.message ∧ ∀ v, shown v → r.holds v = t.holds v

/-
  Settings that are the same but for what their rules say of
  values that they are not shown.
-/
structure Settings.AgreesOn
    (shown : Value → Prop)
    (s t : Settings) : Prop where
  nullable : s.nullable = t.nullable
  required : s.required = t.required
  message : s.message = t.message
  rules : List.Forall₂ (Rule.AgreesOn shown) s.rules t.rules

namespace Settings.AgreesOn

variable {shown : Value → Prop}
variable {s t : Settings}

/- A value that the rules are shown breaks the same rules. -/
theorem complaints_eq
    (h : s.AgreesOn shown t)
    {v : Value}
    (hShown : shown v) :
    s.complaints v = t.complaints v := by
  have hRules : ∀ {rs ts : List Rule},
      List.Forall₂ (Rule.AgreesOn shown) rs ts →
        (rs.filter fun r => !r.holds v).map Rule.message =
          (ts.filter fun r => !r.holds v).map Rule.message := by
    intro rs ts hPairs
    induction hPairs with
    | nil => rfl
    | @cons r t rs ts hRule hRest ih =>
        have hHolds : r.holds v = t.holds v := hRule.2 v hShown
        by_cases hBroken : t.holds v = true <;>
          simp [hHolds, hBroken, hRule.1, ih]
  exact hRules h.rules

/- Settings that agree are read alike, for every value. -/
theorem readAlike
    (h : s.AgreesOn shown t)
    (v : Value) :
    s.ReadAlike shown v t where
  complaints _ hShown := h.complaints_eq hShown
  nullable _ := h.nullable
  message _ := h.message
  required _ := h.required

/-
  Nodes of one shape whose settings agree on the values that
  the rules are shown check every value in the same way.
-/
theorem judge_eq
    (shape : Shape)
    (h : s.AgreesOn shape.Shows t)
    (find : String → Judge) :
    (Schema.node s shape).judge find =
      (Schema.node t shape).judge find :=
  funext fun v =>
    Schema.judge_eq_of_readAlike shape (h.readAlike v) find

end Settings.AgreesOn

------------------------------------------------------------
-- Schemas
------------------------------------------------------------

/-
  Schemas that are the same but for the conditions of their
  rules, at any nodes. Rules in corresponding places have
  the same message and say the same of every present value.
  Those of optional nodes say the same of the values given.
-/
inductive Schema.Agrees
    (wrapped : Value → Prop) : Schema → Schema → Prop
  | leaf {s t : Settings} {kind : Leaf}
      (hSettings : s.AgreesOn (fun v => v.isAbsent = false) t) :
      Agrees wrapped (.node s (.leaf kind))
        (.node t (.leaf kind))
  | object {s t : Settings}
      {ps qs : List (String × Schema)}
      (hSettings : s.AgreesOn (fun v => v.isAbsent = false) t)
      (hLength : ps.length = qs.length)
      (hNames : ∀ p ∈ ps.zip qs, p.1.1 = p.2.1)
      (hProperties : ∀ p ∈ ps.zip qs,
        Agrees wrapped p.1.2 p.2.2) :
      Agrees wrapped (.node s (.object ps))
        (.node t (.object qs))
  | arrayOfAny {s t : Settings} {least most : Option Nat}
      (hSettings : s.AgreesOn (fun v => v.isAbsent = false) t) :
      Agrees wrapped (.node s (.array none least most))
        (.node t (.array none least most))
  | array {s t : Settings} {c d : Schema}
      {least most : Option Nat}
      (hSettings : s.AgreesOn (fun v => v.isAbsent = false) t)
      (hItem : Agrees wrapped c d) :
      Agrees wrapped (.node s (.array (some c) least most))
        (.node t (.array (some d) least most))
  | tuple {s t : Settings} {cs ds : List Schema}
      (hSettings : s.AgreesOn (fun v => v.isAbsent = false) t)
      (hLength : cs.length = ds.length)
      (hElements : ∀ p ∈ cs.zip ds, Agrees wrapped p.1 p.2) :
      Agrees wrapped (.node s (.tuple cs)) (.node t (.tuple ds))
  | record {s t : Settings} {k l c d : Schema}
      (hSettings : s.AgreesOn (fun v => v.isAbsent = false) t)
      (hKeys : Agrees wrapped k l)
      (hContents : Agrees wrapped c d) :
      Agrees wrapped (.node s (.record k c))
        (.node t (.record l d))
  | union {s t : Settings} {cs ds : List Schema}
      (hSettings : s.AgreesOn (fun v => v.isAbsent = false) t)
      (hLength : cs.length = ds.length)
      (hOptions : ∀ p ∈ cs.zip ds, Agrees wrapped p.1 p.2) :
      Agrees wrapped (.node s (.union cs)) (.node t (.union ds))
  | nullable {s t : Settings} {c d : Schema}
      (hSettings : s.AgreesOn (fun v => v.isAbsent = false) t)
      (hInner : Agrees wrapped c d) :
      Agrees wrapped (.node s (.nullable c))
        (.node t (.nullable d))
  | optional {s t : Settings} {c d : Schema}
      (hSettings : s.AgreesOn wrapped t)
      (hInner : Agrees wrapped c d) :
      Agrees wrapped (.node s (.optional c))
        (.node t (.optional d))
  | mapped {s t : Settings} {mapping : Mapping} {c d : Schema}
      (hSettings : s.AgreesOn (fun v => v.isAbsent = false) t)
      (hInner : Agrees wrapped c d) :
      Agrees wrapped (.node s (.mapped mapping c))
        (.node t (.mapped mapping d))
  | known {s t : Settings} {c d : Schema}
      {property : Option String}
      (hSettings : s.AgreesOn (fun v => v.isAbsent = false) t)
      (hChild : Agrees wrapped c d) :
      Agrees wrapped (.node s (.lazy (.known c) property))
        (.node t (.lazy (.known d) property))
  | named {s t : Settings} {name : String}
      {property : Option String}
      (hSettings :
        s.AgreesOn (fun v => v.isAbsent = false) t) :
      Agrees wrapped (.node s (.lazy (.named name) property))
        (.node t (.lazy (.named name) property))

/- The flag that an object looks at is the same. -/
theorem Schema.Agrees.required_eq
    {wrapped : Value → Prop}
    {s t : Schema}
    (h : s.Agrees wrapped t) :
    s.settings.required = t.settings.required := by
  cases h <;> exact Settings.AgreesOn.required ‹_›

theorem map_eq_map_of_zip
    {α β γ : Type}
    {f : α → γ}
    {g : β → γ}
    {as : List α}
    {bs : List β}
    (hLength : as.length = bs.length)
    (h : ∀ p ∈ as.zip bs, f p.1 = g p.2) :
    as.map f = bs.map g := by
  have hPairs : List.Forall₂ (fun a b => f a = g b) as bs :=
    List.forall₂_iff_zip.mpr
      ⟨hLength, fun hMember => h _ hMember⟩
  rw [← List.forall₂_eq_eq_eq, List.forall₂_map_left_iff,
    List.forall₂_map_right_iff]
  exact hPairs

/-
  Schemas that agree check every value in the same way. The
  induction is on the agreement, and in each node the rules
  are only shown values on which they agree.
-/
theorem Schema.Agrees.judge_eq
    {s t : Schema}
    (h : s.Agrees (fun v => v.isUndefined = false) t)
    (find : String → Judge) :
    s.judge find = t.judge find := by
  induction h with
  | leaf hSettings => exact hSettings.judge_eq (.leaf _) find
  | object hSettings hLength hNames hProperties ih =>
      have hSlots := map_eq_map_of_zip
        (f := fun p : String × Schema =>
          (⟨p.1, p.2.settings.required, p.2.judge find⟩ : Slot))
        (g := fun p : String × Schema =>
          (⟨p.1, p.2.settings.required, p.2.judge find⟩ : Slot))
        hLength
        (fun p hp => by
          rw [hNames p hp, (hProperties p hp).required_eq,
            ih p hp])
      rw [hSettings.judge_eq (.object _), judge, judge,
        slots_eq_map, slots_eq_map, hSlots]
  | arrayOfAny hSettings =>
      exact hSettings.judge_eq (.array none _ _) find
  | array hSettings _ ih =>
      rw [hSettings.judge_eq (.array (some _) _ _), judge,
        judge, ih]
  | tuple hSettings hLength _ ih =>
      rw [hSettings.judge_eq (.tuple _), judge, judge,
        judges_eq_map, judges_eq_map,
        map_eq_map_of_zip hLength ih]
  | record hSettings _ _ ihKeys ihContents =>
      rw [hSettings.judge_eq (.record _ _), judge, judge,
        ihKeys, ihContents]
  | union hSettings hLength _ ih =>
      rw [hSettings.judge_eq (.union _), judge, judge,
        judges_eq_map, judges_eq_map,
        map_eq_map_of_zip hLength ih]
  | nullable hSettings _ ih =>
      rw [hSettings.judge_eq (.nullable _), judge, judge, ih]
  | optional hSettings _ ih =>
      rw [hSettings.judge_eq (.optional _), judge, judge, ih]
  | mapped hSettings _ ih =>
      rw [hSettings.judge_eq (.mapped _ _), judge, judge, ih]
  | known hSettings _ ih =>
      rw [hSettings.judge_eq (.lazy (.known _) _), judge, judge,
        ih]
  | named hSettings =>
      exact hSettings.judge_eq (.lazy (.named _) _) find

/-
  Names that stand for schemas that agree are checked in the
  same way, with any number of unfoldings.
-/
theorem namedJudge_eq_of_agrees
    {resolve resolve' : String → Option Schema}
    (hNamed : ∀ name, Option.Rel
      (Schema.Agrees fun v => v.isUndefined = false)
      (resolve name) (resolve' name))
    (unfoldings : Nat) :
    namedJudge resolve unfoldings =
      namedJudge resolve' unfoldings := by
  induction unfoldings with
  | zero => rfl
  | succ n ih =>
      funext name v
      have hName := hNamed name
      unfold namedJudge
      rw [ih]
      generalize resolve name = c? at hName ⊢
      generalize resolve' name = d? at hName ⊢
      cases hName with
      | none => rfl
      | some hAgrees => simp only [hAgrees.judge_eq]

/-
  Schemas that are the same but for what their rules say of
  absent values, and of the undefined one where the node is
  optional, have the same outcome on every value.
-/
theorem Schema.judgeWithin_eq_of_agrees
    {resolve resolve' : String → Option Schema}
    (hNamed : ∀ name, Option.Rel
      (Schema.Agrees fun v => v.isUndefined = false)
      (resolve name) (resolve' name))
    {s t : Schema}
    (hAgrees : s.Agrees (fun v => v.isUndefined = false) t)
    (unfoldings : Nat)
    (v : Value) :
    s.judgeWithin resolve unfoldings v =
      t.judgeWithin resolve' unfoldings v := by
  unfold judgeWithin
  rw [hAgrees.judge_eq, namedJudge_eq_of_agrees hNamed]

------------------------------------------------------------
-- Rules That Differ on Absent Values
------------------------------------------------------------

/- A rule for text that says the given of absent values. -/
def Rule.text
    (ofAbsent : Bool) : Rule where
  holds := fun v =>
    match v with
    | .string _ => true
    | .undefined => ofAbsent
    | .null => ofAbsent
    | _ => false
  message := "text only"

theorem Rule.text_agreesOn :
    (Rule.text false).AgreesOn (fun v => v.isAbsent = false)
      (Rule.text true) := by
  refine ⟨rfl, fun v hPresent => ?_⟩
  cases v with
  | undefined => cases hPresent
  | null => cases hPresent
  | _ => rfl

/- Strings and null, with a rule for text. -/
def Schema.ruledText
    (ofAbsent : Bool) : Schema :=
  (Schema.string.setNullable true).addRule (.text ofAbsent)

theorem Schema.ruledText_agrees
    (wrapped : Value → Prop) :
    (ruledText false).Agrees wrapped (ruledText true) :=
  .leaf ⟨rfl, rfl, rfl, .cons Rule.text_agreesOn .nil⟩

/- What the name `label` stands for. -/
def Schema.labelNamed
    (ofAbsent : Bool)
    (name : String) : Option Schema :=
  if name = "label" then some (ruledText ofAbsent) else none

/- A label that is looked up and another one beside it. -/
def Schema.labels
    (ofAbsent : Bool) : Schema :=
  Schema.tuple [Schema.lazy (.named "label"),
    ruledText ofAbsent]

/- Null is a second label, whatever the rule says of it. -/
theorem Schema.judgeWithin_labels_eq :
    (labels false).judgeWithin (labelNamed false) 1
        (.array [.string "a", .null]) =
      (labels true).judgeWithin (labelNamed true) 1
        (.array [.string "a", .null]) ∧
    (labels false).judgeWithin (labelNamed false) 1
        (.array [.string "a", .null]) =
      some Outcome.valid := by
  refine ⟨judgeWithin_eq_of_agrees ?_ ?_ 1 _, rfl⟩
  · intro name
    unfold labelNamed
    split
    · exact .some (ruledText_agrees _)
    · exact .none
  · refine .tuple ⟨rfl, rfl, rfl, .nil⟩ rfl ?_
    intro p hp
    have hPairs : p = (Schema.lazy (.named "label"),
        Schema.lazy (.named "label")) ∨
        p = (ruledText false, ruledText true) := by
      simpa using hp
    rcases hPairs with rfl | rfl
    · exact .named ⟨rfl, rfl, rfl, .nil⟩
    · exact ruledText_agrees _

/- An optional node around null, with a rule for text. -/
def Schema.optionalText
    (ofAbsent : Bool) : Schema :=
  (Schema.optional (Schema.any.setNullable true)).addRule
    (.text ofAbsent)

/-
  Agreement on present values is not enough. The rule of an
  optional node is shown null, and what it says decides.
-/
theorem Schema.not_verdict?_eq_of_agrees_present :
    (optionalText false).Agrees (fun v => v.isAbsent = false)
        (optionalText true) ∧
      (optionalText false).verdict? .null =
        some (Outcome.ofErrors ["text only"]) ∧
      (optionalText true).verdict? .null =
        some Outcome.valid ∧
      (optionalText false).verdict? .null ≠
        (optionalText true).verdict? .null := by
  refine ⟨?_, rfl, rfl, ?_⟩
  · exact .optional
      ⟨rfl, rfl, rfl, .cons Rule.text_agreesOn .nil⟩
      (.leaf ⟨rfl, rfl, rfl, .nil⟩)
  · intro hEq
    have hValid := congrArg (Option.map Outcome.isValid) hEq
    revert hValid
    decide

end Conform
