import Conform.Proofs.Schema.Verdict
import Mathlib.Data.List.Forall2
import Mathlib.Logic.Relation

/-
  Relaxation of schemas. A schema that is relaxed at any
  nodes accepts every value that it accepted before: no node
  makes anything of a value that a node below it refuses
  but a refusal of its own.

  Main declarations:
    * `Loosens`
    * `Settings.Relaxes`, `Leaf.Relaxes`, `Schema.Relaxes`
    * `Schema.Eases`
    * `Schema.Relaxes.eases`
    * `SchemaTree.Relaxes`
    * `SchemaTree.Relaxes.accepts`
    * `SchemaTree.isValid_of_relaxes`
-/

namespace Conform

------------------------------------------------------------
-- Lists
------------------------------------------------------------

section

variable {α : Type}

/- Nothing is lost when an element is put in. -/
theorem subset_with
    (before after : List α)
    (a : α) :
    before ++ after ⊆ before ++ a :: after :=
  ((List.sublist_cons_self a after).append_left before).subset

/- What is in a list stays there if another one is replaced. -/
theorem eq_or_mem_replaced
    {before after : List α}
    {a c : α}
    (d : α)
    (h : a ∈ before ++ c :: after) :
    a = c ∨ a ∈ before ++ d :: after := by
  rcases List.mem_append.mp h with hBefore | hRest
  · exact Or.inr (List.mem_append_left _ hBefore)
  · rcases List.mem_cons.mp hRest with hSame | hAfter
    · exact Or.inl hSame
    · exact Or.inr (List.mem_append_right _
        (List.mem_cons_of_mem d hAfter))

end

------------------------------------------------------------
-- Bounds
------------------------------------------------------------

/-
  A bound that is taken away, or replaced by another one
  that lies on the given side of it.
-/
inductive Loosens
    {α : Type}
    (beyond : α → α → Prop) : Option α → Option α → Prop
  | remove (a : α) : Loosens beyond (some a) none
  | move {a b : α} (h : beyond b a) :
      Loosens beyond (some a) (some b)

/- What keeps a bound keeps a looser one. -/
theorem Loosens.keeps
    {α : Type}
    {beyond : α → α → Prop}
    {old new : Option α}
    {kept : α → Prop}
    (h : Loosens beyond old new)
    (hBeyond : ∀ {a b}, beyond b a → kept a → kept b)
    (hOld : ∀ a, old = some a → kept a) :
    ∀ b, new = some b → kept b := by
  intro b hNew
  cases h with
  | remove a => cases hNew
  | move hMove =>
      rw [← Option.some.inj hNew]
      exact hBeyond hMove (hOld _ rfl)

theorem Number.lt_trans
    {a b c : Number}
    (hab : a.lt b = true)
    (hbc : b.lt c = true) :
    a.lt c = true := by
  unfold lt at hab hbc ⊢
  cases ha : a.orderKey? with
  | none => simp [ha] at hab
  | some x =>
      cases hb : b.orderKey? with
      | none => simp [hb] at hbc
      | some y =>
          cases hc : c.orderKey? with
          | none => simp [hc] at hbc
          | some z =>
              simp only [ha, hb, hc, decide_eq_true_eq]
                at hab hbc ⊢
              omega

theorem Instant.lt_trans
    {a b c : Instant}
    (hab : a.lt b = true)
    (hbc : b.lt c = true) :
    a.lt c = true := by
  unfold lt at hab hbc ⊢
  simp only [Bool.or_eq_true, Bool.and_eq_true, beq_iff_eq,
    decide_eq_true_eq] at hab hbc ⊢
  omega

theorem eq_false_of_imp
    {p q : Bool}
    (h : p = true → q = true)
    (hFalse : q = false) :
    p = false := by
  by_contra hNot
  have hTrue : p = true := by simpa using hNot
  rw [h hTrue] at hFalse
  cases hFalse

------------------------------------------------------------
-- Settings
------------------------------------------------------------

namespace Settings

/-
  One relaxation of settings: null is allowed, a value is no
  longer required, or a rule is dropped.
-/
inductive Relaxes : Settings → Settings → Prop
  | nullable (s : Settings) :
      Relaxes s { s with nullable := true }
  | notRequired (s : Settings) :
      Relaxes s { s with required := false }
  | dropRule {s : Settings} {before after : List Rule}
      {r : Rule}
      (hRules : s.rules = before ++ r :: after) :
      Relaxes s { s with rules := before ++ after }

/-
  Settings that allow what others allow, and whose rules are
  among the rules of the others.
-/
structure Eases
    (s t : Settings) : Prop where
  nullable : s.nullable = true → t.nullable = true
  required : s.required = false → t.required = false
  rules : t.rules ⊆ s.rules

theorem Relaxes.eases
    {s t : Settings}
    (h : s.Relaxes t) :
    s.Eases t := by
  cases h with
  | nullable => exact ⟨fun _ => rfl, id, List.Subset.refl _⟩
  | notRequired => exact ⟨id, fun _ => rfl, List.Subset.refl _⟩
  | @dropRule before after r hRules =>
      refine ⟨id, id, ?_⟩
      rw [hRules]
      exact subset_with before after r

section

variable {s t : Settings}
variable (h : s.Eases t)

include h

theorem Eases.admits
    {v : Value}
    (hAdmits : s.Admits v) :
    t.Admits v := by
  rcases hAdmits with ⟨hUndefined, hFlag⟩ | ⟨hNull, hFlag⟩
  · exact Or.inl ⟨hUndefined, h.required hFlag⟩
  · exact Or.inr ⟨hNull, h.nullable hFlag⟩

theorem Eases.permits
    {v : Value}
    (hPermits : s.Permits v) :
    t.Permits v :=
  fun r hr => hPermits r (h.rules hr)

end

end Settings

------------------------------------------------------------
-- Leaves
------------------------------------------------------------

/-
  One relaxation of a leaf: a bound is loosened, whole
  numbers are no longer asked for, text is accepted for a
  date, or values are added to a list of allowed ones.
-/
inductive Leaf.Relaxes : Leaf → Leaf → Prop
  | minLength {least least' most : Option Nat}
      (h : Loosens (· < ·) least least') :
      Relaxes (.string least most) (.string least' most)
  | maxLength {least most most' : Option Nat}
      (h : Loosens (· > ·) most most') :
      Relaxes (.string least most) (.string least most')
  | least {least least' most : Option Number} {integer : Bool}
      (h : Loosens (fun b a => b.lt a = true) least least') :
      Relaxes (.number least most integer)
        (.number least' most integer)
  | most {least most most' : Option Number} {integer : Bool}
      (h : Loosens (fun b a => a.lt b = true) most most') :
      Relaxes (.number least most integer)
        (.number least most' integer)
  | anyNumber {least most : Option Number} :
      Relaxes (.number least most true)
        (.number least most false)
  | earliest {earliest earliest' latest : Option Instant}
      {acceptsText : Bool}
      (h : Loosens (fun b a => b.lt a = true)
        earliest earliest') :
      Relaxes (.date earliest latest acceptsText)
        (.date earliest' latest acceptsText)
  | latest {earliest latest latest' : Option Instant}
      {acceptsText : Bool}
      (h : Loosens (fun b a => a.lt b = true) latest latest') :
      Relaxes (.date earliest latest acceptsText)
        (.date earliest latest' acceptsText)
  | acceptText {earliest latest : Option Instant} :
      Relaxes (.date earliest latest false)
        (.date earliest latest true)
  | allow {allowed allowed' : List Value}
      (h : allowed ⊆ allowed') :
      Relaxes (.enumeration allowed) (.enumeration allowed')

/- What has the form of a leaf has that of a relaxed leaf. -/
theorem Leaf.Relaxes.holds
    {kind kind' : Leaf}
    (h : kind.Relaxes kind')
    {v : Value}
    (hHolds : kind.Holds v) :
    kind'.Holds v := by
  cases h with
  | minLength hLoosens =>
      rcases hHolds with ⟨text, rfl, hLeast, hMost⟩
      exact ⟨text, rfl,
        hLoosens.keeps (fun hMove hKept => by omega) hLeast,
        hMost⟩
  | maxLength hLoosens =>
      rcases hHolds with ⟨text, rfl, hLeast, hMost⟩
      exact ⟨text, rfl, hLeast,
        hLoosens.keeps (fun hMove hKept => by omega) hMost⟩
  | least hLoosens =>
      rcases hHolds with ⟨x, rfl, hNumber, hLeast, hRest⟩
      exact ⟨x, rfl, hNumber,
        hLoosens.keeps
          (fun hMove => eq_false_of_imp fun hBeyond =>
            Number.lt_trans hBeyond hMove)
          hLeast, hRest⟩
  | most hLoosens =>
      rcases hHolds with
        ⟨x, rfl, hNumber, hLeast, hMost, hInteger⟩
      exact ⟨x, rfl, hNumber, hLeast,
        hLoosens.keeps
          (fun hMove => eq_false_of_imp fun hBeyond =>
            Number.lt_trans hMove hBeyond)
          hMost, hInteger⟩
  | anyNumber =>
      rcases hHolds with ⟨x, rfl, hNumber, hLeast, hMost, _⟩
      exact ⟨x, rfl, hNumber, hLeast, hMost,
        fun hInteger => by cases hInteger⟩
  | earliest hLoosens =>
      rcases hHolds with ⟨t, hDates, hEarliest, hLatest⟩
      exact ⟨t, hDates,
        hLoosens.keeps
          (fun hMove => eq_false_of_imp fun hBeyond =>
            Instant.lt_trans hBeyond hMove)
          hEarliest, hLatest⟩
  | latest hLoosens =>
      rcases hHolds with ⟨t, hDates, hEarliest, hLatest⟩
      exact ⟨t, hDates, hEarliest,
        hLoosens.keeps
          (fun hMove => eq_false_of_imp fun hBeyond =>
            Instant.lt_trans hMove hBeyond)
          hLatest⟩
  | acceptText =>
      rcases hHolds with ⟨t, hDates, hBounds⟩
      cases hDates with
      | date t => exact ⟨t, .date t, hBounds⟩
      | text hAccepts _ => cases hAccepts
  | allow hSubset =>
      rcases hHolds with ⟨a, ha, hEqual⟩
      exact ⟨a, hSubset ha, hEqual⟩

------------------------------------------------------------
-- Schemas
------------------------------------------------------------

/-
  One relaxation of a schema, at one node at any depth:
    * the settings or the leaf of the node are relaxed, the
      bounds of an array are loosened or the check of its
      items is dropped, a declared property is dropped, an
      option is added to a union, or the node is wrapped by
      `nullable` or `optional`;
    * one of the nodes directly below is relaxed;
    * the child of a lazy node is given in another way, by
      a name or in place, without being changed. In this way
      one use of a name can be relaxed and not the others.
-/
inductive Schema.Relaxes
    (resolve : String → Option Schema) : Schema → Schema → Prop
  | settings {s t : Settings} {shape : Shape}
      (h : s.Relaxes t) :
      Relaxes resolve (.node s shape) (.node t shape)
  | leaf {s : Settings} {kind kind' : Leaf}
      (h : kind.Relaxes kind') :
      Relaxes resolve (.node s (.leaf kind))
        (.node s (.leaf kind'))
  | minLength {s : Settings} {items : Option Schema}
      {least least' most : Option Nat}
      (h : Loosens (· < ·) least least') :
      Relaxes resolve (.node s (.array items least most))
        (.node s (.array items least' most))
  | maxLength {s : Settings} {items : Option Schema}
      {least most most' : Option Nat}
      (h : Loosens (· > ·) most most') :
      Relaxes resolve (.node s (.array items least most))
        (.node s (.array items least most'))
  | dropItems {s : Settings} {c : Schema}
      {least most : Option Nat} :
      Relaxes resolve (.node s (.array (some c) least most))
        (.node s (.array none least most))
  | dropProperty {s : Settings}
      {before after : List (String × Schema)}
      {p : String × Schema} :
      Relaxes resolve
        (.node s (.object (before ++ p :: after)))
        (.node s (.object (before ++ after)))
  | addOption {s : Settings} {before after : List Schema}
      {option : Schema} :
      Relaxes resolve (.node s (.union (before ++ after)))
        (.node s (.union (before ++ option :: after)))
  | wrapNullable {c : Schema} :
      Relaxes resolve c (.nullable c)
  | wrapOptional {c : Schema} :
      Relaxes resolve c (.optional c)
  | property {s : Settings}
      {before after : List (String × Schema)}
      {name : String} {c d : Schema}
      (h : Relaxes resolve c d) :
      Relaxes resolve
        (.node s (.object (before ++ (name, c) :: after)))
        (.node s (.object (before ++ (name, d) :: after)))
  | items {s : Settings} {c d : Schema}
      {least most : Option Nat}
      (h : Relaxes resolve c d) :
      Relaxes resolve (.node s (.array (some c) least most))
        (.node s (.array (some d) least most))
  | element {s : Settings} {before after : List Schema}
      {c d : Schema}
      (h : Relaxes resolve c d) :
      Relaxes resolve (.node s (.tuple (before ++ c :: after)))
        (.node s (.tuple (before ++ d :: after)))
  | keys {s : Settings} {c d contents : Schema}
      (h : Relaxes resolve c d) :
      Relaxes resolve (.node s (.record c contents))
        (.node s (.record d contents))
  | contents {s : Settings} {keys c d : Schema}
      (h : Relaxes resolve c d) :
      Relaxes resolve (.node s (.record keys c))
        (.node s (.record keys d))
  | option {s : Settings} {before after : List Schema}
      {c d : Schema}
      (h : Relaxes resolve c d) :
      Relaxes resolve (.node s (.union (before ++ c :: after)))
        (.node s (.union (before ++ d :: after)))
  | nullable {s : Settings} {c d : Schema}
      (h : Relaxes resolve c d) :
      Relaxes resolve (.node s (.nullable c))
        (.node s (.nullable d))
  | optional {s : Settings} {c d : Schema}
      (h : Relaxes resolve c d) :
      Relaxes resolve (.node s (.optional c))
        (.node s (.optional d))
  | mapped {s : Settings} {mapping : Mapping} {c d : Schema}
      (h : Relaxes resolve c d) :
      Relaxes resolve (.node s (.mapped mapping c))
        (.node s (.mapped mapping d))
  | child {s : Settings} {c d : Schema}
      {name : Option String}
      (h : Relaxes resolve c d) :
      Relaxes resolve (.node s (.lazy (.known c) name))
        (.node s (.lazy (.known d) name))
  | redirect {s : Settings} {child child' : Deferred}
      {c : Schema} {name : Option String}
      (hChild : child.schema? resolve = some c)
      (hChild' : child'.schema? resolve = some c) :
      Relaxes resolve (.node s (.lazy child name))
        (.node s (.lazy child' name))

------------------------------------------------------------
-- What a Relaxation Keeps
------------------------------------------------------------

/-
  A schema that accepts what another one accepts, and that
  is not required where the other is not. An object looks at
  both.
-/
structure Schema.Eases
    (resolve : String → Option Schema)
    (c d : Schema) : Prop where
  accepts : ∀ v, Accepts resolve c v → Accepts resolve d v
  required :
    c.settings.required = false → d.settings.required = false

namespace Schema

variable {resolve : String → Option Schema}
variable {s : Settings}
variable {v : Value}

theorem Eases.refl
    (c : Schema) :
    c.Eases resolve c :=
  ⟨fun _ => id, id⟩

/- A node with eased settings accepts what it accepted. -/
theorem accepts_of_settings_eases
    {t : Settings}
    {shape : Shape}
    (h : s.Eases t)
    (hAccepts : Accepts resolve (.node s shape) v) :
    Accepts resolve (.node t shape) v := by
  cases shape with
  | leaf kind =>
      rw [accepts_leaf_iff] at hAccepts ⊢
      exact hAccepts.imp h.admits
        (And.imp_right (And.imp_left h.permits))
  | object properties =>
      rw [accepts_object_iff] at hAccepts ⊢
      exact hAccepts.imp h.admits
        (And.imp_right (And.imp_left h.permits))
  | array items least most =>
      rw [accepts_array_iff] at hAccepts ⊢
      exact hAccepts.imp h.admits
        (And.imp_right (And.imp_left h.permits))
  | tuple elements =>
      rw [accepts_tuple_iff] at hAccepts ⊢
      exact hAccepts.imp h.admits
        (And.imp_right (And.imp_left h.permits))
  | record keys contents =>
      rw [accepts_record_iff] at hAccepts ⊢
      exact hAccepts.imp h.admits
        (And.imp_right (And.imp_left h.permits))
  | union options =>
      rw [accepts_union_iff] at hAccepts ⊢
      exact hAccepts.imp h.admits
        (And.imp_left fun hRules hPresent =>
          h.permits (hRules hPresent))
  | nullable inner =>
      rw [accepts_nullable_iff] at hAccepts ⊢
      exact hAccepts.imp_right
        (And.imp_right (And.imp_left h.permits))
  | optional inner =>
      rw [accepts_optional_iff] at hAccepts ⊢
      exact hAccepts.imp_right
        (And.imp_right (And.imp_left h.permits))
  | mapped mapping inner =>
      -- An absent value that is let pass now was mapped
      -- before, and its image no longer matters.
      by_cases hAdmits : t.Admits v
      · exact Accepts.mappedAbsent hAdmits
      · rcases accepts_mapped_iff.mp hAccepts with
          hBefore | ⟨_, image, hImage, hRules, hInner⟩
        · exact absurd (h.admits hBefore) hAdmits
        · exact Accepts.mapped hAdmits hImage
            (fun hPresent => h.permits (hRules hPresent)) hInner
  | lazy child property =>
      rw [accepts_lazy_iff] at hAccepts ⊢
      exact hAccepts.imp (And.imp_right h.nullable)
        (And.imp_right fun hAll w hw =>
          (hAll w hw).imp_left h.permits)

theorem accepts_object_of_eases
    {ps qs : List (String × Schema)}
    (h : ∀ q ∈ qs, ∃ p ∈ ps,
      p.1 = q.1 ∧ p.2.Eases resolve q.2)
    (hAccepts : Accepts resolve (.node s (.object ps)) v) :
    Accepts resolve (.node s (.object qs)) v := by
  rcases accepts_object_iff.mp hAccepts with
    hAdmits | ⟨_, hRules, fields, rfl, hProperties⟩
  · exact Accepts.absent (.object qs) hAdmits
  · refine Accepts.object hRules ?_ ?_
    · intro q hq hMissing
      rcases h q hq with ⟨p, hp, hName, hEases⟩
      rw [← hName] at hMissing
      exact hEases.required ((hProperties p hp).1 hMissing)
    · intro q hq hPresent
      rcases h q hq with ⟨p, hp, hName, hEases⟩
      rw [← hName] at hPresent ⊢
      exact hEases.accepts _ ((hProperties p hp).2 hPresent)

theorem accepts_array_of_eases
    {items items' : Option Schema}
    {least least' most most' : Option Nat}
    (hLeast : ∀ n, (∀ m, least = some m → m ≤ n) →
      ∀ m, least' = some m → m ≤ n)
    (hMost : ∀ n, (∀ m, most = some m → n ≤ m) →
      ∀ m, most' = some m → n ≤ m)
    (hItems : ∀ d, items' = some d →
      ∃ c, items = some c ∧ c.Eases resolve d)
    (hAccepts :
      Accepts resolve (.node s (.array items least most)) v) :
    Accepts resolve (.node s (.array items' least' most'))
      v := by
  rcases accepts_array_iff.mp hAccepts with
    hAdmits | ⟨_, hRules, values, rfl, hLow, hHigh, hEach⟩
  · exact Accepts.absent (.array items' least' most') hAdmits
  · refine Accepts.array hRules (hLeast _ hLow)
      (hMost _ hHigh) ?_
    intro d hd w hw
    rcases hItems d hd with ⟨c, hc, hEases⟩
    exact hEases.accepts w (hEach c hc w hw)

/- Elements that are eased one by one accept the same items. -/
theorem accepts_tuple_of_eases
    {cs ds : List Schema}
    (h : List.Forall₂ (Eases resolve) cs ds)
    (hAccepts : Accepts resolve (.node s (.tuple cs)) v) :
    Accepts resolve (.node s (.tuple ds)) v := by
  have hPairs : ∀ {values : List Value},
      List.Forall₂ (Accepts resolve) cs values →
        List.Forall₂ (Accepts resolve) ds values := by
    clear hAccepts
    induction h with
    | nil => exact id
    | cons hHead _ ih =>
        intro values hValues
        cases hValues with
        | cons hFirst hRest =>
            exact .cons (hHead.accepts _ hFirst) (ih hRest)
  rcases accepts_tuple_iff.mp hAccepts with
    hAdmits | ⟨_, hRules, values, rfl, hLength, hElements⟩
  · exact Accepts.absent (.tuple ds) hAdmits
  · have hBefore : List.Forall₂ (Accepts resolve) cs values :=
      List.forall₂_iff_zip.mpr
        ⟨hLength.symm, fun hMember => hElements _ hMember⟩
    have hAfter := List.forall₂_iff_zip.mp (hPairs hBefore)
    exact Accepts.tuple hRules hAfter.1.symm
      (fun p hp => hAfter.2 hp)

theorem accepts_record_of_eases
    {keys keys' contents contents' : Schema}
    (hKeys : keys.Eases resolve keys')
    (hContents : contents.Eases resolve contents')
    (hAccepts :
      Accepts resolve (.node s (.record keys contents)) v) :
    Accepts resolve (.node s (.record keys' contents')) v := by
  rcases accepts_record_iff.mp hAccepts with
    hAdmits | ⟨_, hRules, fields, rfl, hFields⟩
  · exact Accepts.absent (.record keys' contents') hAdmits
  · exact Accepts.record hRules
      (fun f hf => hKeys.accepts _ (hFields f hf).1)
      (fun f hf => hContents.accepts _ (hFields f hf).2)

theorem accepts_union_of_eases
    {cs ds : List Schema}
    (h : ∀ c ∈ cs, ∃ d ∈ ds, c.Eases resolve d)
    (hAccepts : Accepts resolve (.node s (.union cs)) v) :
    Accepts resolve (.node s (.union ds)) v := by
  rcases accepts_union_iff.mp hAccepts with
    hAdmits | ⟨hRules, c, hc, hOption⟩
  · exact Accepts.unionAbsent hAdmits
  · rcases h c hc with ⟨d, hd, hEases⟩
    exact Accepts.union hRules hd (hEases.accepts v hOption)

/- A lazy node with an eased child accepts what it accepted. -/
theorem accepts_lazy_of_eases
    {child child' : Deferred}
    {property : Option String}
    (h : ∀ c, child.schema? resolve = some c →
      ∃ d, child'.schema? resolve = some d ∧
        c.Eases resolve d)
    (hAccepts :
      Accepts resolve (.node s (.lazy child property)) v) :
    Accepts resolve (.node s (.lazy child' property)) v := by
  rw [accepts_lazy_iff] at hAccepts ⊢
  refine hAccepts.imp_right (And.imp_right fun hAll w hw => ?_)
  rcases hAll w hw with ⟨hRules, c, hChild, hInner⟩
  rcases h c hChild with ⟨d, hChild', hEases⟩
  exact ⟨hRules, d, hChild', hEases.accepts w hInner⟩

/- Wrapping a node keeps what it accepts. -/
theorem accepts_wrapper
    {c : Schema}
    (hAccepts : Accepts resolve c v) :
    Accepts resolve (.nullable c) v ∧
      Accepts resolve (.optional c) v := by
  have hRules : ∀ t : Settings, t.rules = [] → t.Permits v := by
    intro t hNone r hr
    rw [hNone] at hr
    cases hr
  constructor
  · cases hAbsent : v.isAbsent with
    | true => exact Accepts.nullableAbsent hAbsent
    | false =>
        exact Accepts.nullable hAbsent (hRules _ rfl) hAccepts
  · cases hUndefined : v.isUndefined with
    | true =>
        rw [(Value.isUndefined_iff v).mp hUndefined]
        exact Accepts.optionalUndefined
    | false =>
        exact Accepts.optional hUndefined (hRules _ rfl)
          hAccepts

theorem forall₂_eases_of_replace
    {c d : Schema}
    (h : c.Eases resolve d)
    (before after : List Schema) :
    List.Forall₂ (Eases resolve) (before ++ c :: after)
      (before ++ d :: after) := by
  induction before with
  | nil =>
      exact .cons h (List.forall₂_same.mpr fun e _ => .refl e)
  | cons e rest ih => exact .cons (.refl e) ih

/-
  One relaxation eases a schema. The induction is on the
  place of the relaxation: the nodes above it are eased
  because they only ever ask what the nodes below accept,
  and objects whether they are required.
-/
theorem Relaxes.eases
    {c d : Schema}
    (h : c.Relaxes resolve d) :
    c.Eases resolve d := by
  induction h with
  | settings h =>
      exact ⟨fun _ => accepts_of_settings_eases h.eases,
        h.eases.required⟩
  | leaf h =>
      refine ⟨fun v hAccepts => ?_, id⟩
      rw [accepts_leaf_iff] at hAccepts ⊢
      exact hAccepts.imp_right
        (And.imp_right (And.imp_right h.holds))
  | minLength h =>
      refine ⟨fun v => accepts_array_of_eases ?_ ?_ ?_, id⟩
      · exact fun n => h.keeps fun hMove hKept => by omega
      · exact fun n => id
      · exact fun d hd => ⟨d, hd, .refl d⟩
  | maxLength h =>
      refine ⟨fun v => accepts_array_of_eases ?_ ?_ ?_, id⟩
      · exact fun n => id
      · exact fun n => h.keeps fun hMove hKept => by omega
      · exact fun d hd => ⟨d, hd, .refl d⟩
  | dropItems =>
      refine ⟨fun v => accepts_array_of_eases ?_ ?_ ?_, id⟩
      · exact fun n => id
      · exact fun n => id
      · exact fun d hd => nomatch hd
  | dropProperty =>
      refine ⟨fun v => accepts_object_of_eases ?_, id⟩
      intro q hq
      exact ⟨q, subset_with _ _ _ hq, rfl, .refl q.2⟩
  | addOption =>
      refine ⟨fun v => accepts_union_of_eases ?_, id⟩
      intro e he
      exact ⟨e, subset_with _ _ _ he, .refl e⟩
  | wrapNullable =>
      exact ⟨fun v hAccepts => (accepts_wrapper hAccepts).1,
        fun _ => rfl⟩
  | wrapOptional =>
      exact ⟨fun v hAccepts => (accepts_wrapper hAccepts).2,
        fun _ => rfl⟩
  | @property s before after name c d _ ih =>
      refine ⟨fun v => accepts_object_of_eases ?_, id⟩
      intro q hq
      rcases eq_or_mem_replaced (name, c) hq with rfl | hOther
      · exact ⟨(name, c), List.mem_append_cons_self, rfl, ih⟩
      · exact ⟨q, hOther, rfl, .refl q.2⟩
  | @items s c d least most _ ih =>
      refine ⟨fun v => accepts_array_of_eases ?_ ?_ ?_, id⟩
      · exact fun n => id
      · exact fun n => id
      · intro e he
        rw [← Option.some.inj he]
        exact ⟨c, rfl, ih⟩
  | element _ ih =>
      exact ⟨fun v => accepts_tuple_of_eases
        (forall₂_eases_of_replace ih _ _), id⟩
  | keys _ ih =>
      exact ⟨fun v => accepts_record_of_eases ih (.refl _), id⟩
  | contents _ ih =>
      exact ⟨fun v => accepts_record_of_eases (.refl _) ih, id⟩
  | @option s before after c d _ ih =>
      refine ⟨fun v => accepts_union_of_eases ?_, id⟩
      intro e he
      rcases eq_or_mem_replaced d he with rfl | hOther
      · exact ⟨d, List.mem_append_cons_self, ih⟩
      · exact ⟨e, hOther, .refl e⟩
  | nullable _ ih =>
      refine ⟨fun v hAccepts => ?_, id⟩
      rw [accepts_nullable_iff] at hAccepts ⊢
      exact hAccepts.imp_right
        (And.imp_right (And.imp_right (ih.accepts v)))
  | optional _ ih =>
      refine ⟨fun v hAccepts => ?_, id⟩
      rw [accepts_optional_iff] at hAccepts ⊢
      exact hAccepts.imp_right
        (And.imp_right (And.imp_right (ih.accepts v)))
  | mapped _ ih =>
      refine ⟨fun v hAccepts => ?_, id⟩
      rcases accepts_mapped_iff.mp hAccepts with
        hAdmits | ⟨hAdmits, image, hImage, hRules, hInner⟩
      · exact Accepts.mappedAbsent hAdmits
      · exact Accepts.mapped hAdmits hImage hRules
          (ih.accepts image hInner)
  | @child s c d name _ ih =>
      refine ⟨fun v => accepts_lazy_of_eases ?_, id⟩
      intro e he
      rw [← Option.some.inj he]
      exact ⟨d, rfl, ih⟩
  | @redirect s child child' c name hChild hChild' =>
      refine ⟨fun v => accepts_lazy_of_eases ?_, id⟩
      intro e he
      rw [hChild] at he
      rw [← Option.some.inj he]
      exact ⟨c, hChild', .refl c⟩

/-
  Where names stand for schemas that accept more, a schema
  accepts what it accepted. The induction is on how the
  value is accepted, since named schemas may be recursive.
-/
theorem accepts_of_named_eases
    {resolve' : String → Option Schema}
    (h : ∀ name c, resolve name = some c →
      ∃ d, resolve' name = some d ∧ c.Eases resolve' d)
    {c : Schema}
    (hAccepts : Accepts resolve c v) :
    Accepts resolve' c v := by
  induction hAccepts with
  | absent hShape hAdmits => exact .absent hShape hAdmits
  | leaf hPresent hRules hHolds =>
      exact .leaf hPresent hRules hHolds
  | object hRules hMissing _ ih =>
      exact .object hRules hMissing ih
  | array hRules hLeast hMost _ ih =>
      exact .array hRules hLeast hMost ih
  | tuple hRules hLength _ ih => exact .tuple hRules hLength ih
  | record hRules _ _ ihKeys ihContents =>
      exact .record hRules ihKeys ihContents
  | unionAbsent hAdmits => exact .unionAbsent hAdmits
  | union hRules hOption _ ih => exact .union hRules hOption ih
  | nullableAbsent hAbsent => exact .nullableAbsent hAbsent
  | nullable hPresent hRules _ ih =>
      exact .nullable hPresent hRules ih
  | optionalUndefined => exact .optionalUndefined
  | optional hDefined hRules _ ih =>
      exact .optional hDefined hRules ih
  | mappedAbsent hAdmits => exact .mappedAbsent hAdmits
  | mapped hAdmits hImage hRules _ ih =>
      exact .mapped hAdmits hImage hRules ih
  | lazyAbsent hAbsent hNullable =>
      exact .lazyAbsent hAbsent hNullable
  | @lazy s child c property v hPresent hRules hChild _ _
      ihChild ihFollow =>
      cases child with
      | known e =>
          exact .lazy hPresent hRules hChild ihChild ihFollow
      | named name =>
          rcases h name c hChild with ⟨d, hNamed, hEases⟩
          exact .lazy hPresent hRules hNamed
            (hEases.accepts v ihChild) ihFollow

end Schema

------------------------------------------------------------
-- Trees
------------------------------------------------------------

/- A schema together with what the names in it stand for. -/
structure SchemaTree where
  resolve : String → Option Schema
  root : Schema

namespace SchemaTree

/-
  One relaxation of a tree, at a node below the root or in
  what names stand for. Names may be given a meaning that
  had none.
-/
inductive Relaxes : SchemaTree → SchemaTree → Prop
  | root {resolve : String → Option Schema} {c d : Schema}
      (h : c.Relaxes resolve d) :
      Relaxes ⟨resolve, c⟩ ⟨resolve, d⟩
  | named {resolve resolve' : String → Option Schema}
      {root : Schema}
      (h : ∀ name c, resolve name = some c →
        ∃ d, resolve' name = some d ∧
          (d = c ∨ c.Relaxes resolve' d)) :
      Relaxes ⟨resolve, root⟩ ⟨resolve', root⟩

theorem Relaxes.accepts
    {t t' : SchemaTree}
    (h : t.Relaxes t')
    {v : Value}
    (hAccepts : Accepts t.resolve t.root v) :
    Accepts t'.resolve t'.root v := by
  cases h with
  | root h => exact h.eases.accepts v hAccepts
  | named h =>
      refine Schema.accepts_of_named_eases ?_ hAccepts
      intro name c hName
      rcases h name c hName with ⟨d, hNamed, rfl | hRelaxes⟩
      · exact ⟨d, hNamed, .refl d⟩
      · exact ⟨d, hNamed, hRelaxes.eases⟩

/- Any number of relaxations keep what a tree accepts. -/
theorem accepts_of_relaxes
    {t t' : SchemaTree}
    (h : Relation.ReflTransGen Relaxes t t')
    {v : Value}
    (hAccepts : Accepts t.resolve t.root v) :
    Accepts t'.resolve t'.root v := by
  induction h with
  | refl => exact hAccepts
  | tail _ hStep ih => exact hStep.accepts ih

/-
  A value that is valid stays valid when the schema or what
  it names is relaxed, any number of times and at any nodes,
  if both checks end.
-/
theorem isValid_of_relaxes
    {t t' : SchemaTree}
    (hRelaxes : Relation.ReflTransGen Relaxes t t')
    {v : Value}
    {n n' : Nat}
    {o o' : Outcome}
    (hEnds : t.root.judgeWithin t.resolve n v = some o)
    (hEnds' : t'.root.judgeWithin t'.resolve n' v = some o')
    (hValid : o.isValid = true) :
    o'.isValid = true := by
  have hBefore : Accepts t.resolve t.root v :=
    (Schema.decides_judge (decides_namedJudge t.resolve n)
      t.root v o hEnds).2.mp hValid
  exact (Schema.decides_judge
    (decides_namedJudge t'.resolve n') t'.root v o'
      hEnds').2.mpr (accepts_of_relaxes hRelaxes hBefore)

/- What `word` stands for: text with a least length or none. -/
def wordNamed
    (least : Option Nat)
    (name : String) : Option Schema :=
  if name = "word" then
    some (.node {} (.leaf (.string least none)))
  else none

/- Lists of words of two characters or more. -/
def longWords : SchemaTree where
  resolve := wordNamed (some 2)
  root := Schema.array.setItems (Schema.lazy (.named "word"))

/- Lists of words of any length, with gaps. -/
def anyWords : SchemaTree where
  resolve := wordNamed none
  root := Schema.array.setItems
    (Schema.nullable (Schema.lazy (.named "word")))

/- Long words are valid where words of any length are. -/
theorem isValid_anyWords_of_longWords :
    Relation.ReflTransGen Relaxes longWords anyWords ∧
      ∃ o o',
        longWords.root.judgeWithin longWords.resolve 1
            (.array [.string "ab", .string "abc"]) = some o ∧
          o.isValid = true ∧
          anyWords.root.judgeWithin anyWords.resolve 1
            (.array [.string "ab", .string "abc"]) = some o' ∧
          o'.isValid = true := by
  have hNamed : longWords.Relaxes
      ⟨wordNamed none, longWords.root⟩ := by
    refine .named fun name c hName => ?_
    unfold longWords wordNamed at hName
    split at hName
    · next hWord =>
        refine ⟨_, if_pos hWord, Or.inr ?_⟩
        rw [← Option.some.inj hName]
        exact .leaf (.minLength (.remove 2))
    · cases hName
  have hRoot : Relaxes ⟨wordNamed none, longWords.root⟩
      anyWords :=
    .root (.items .wrapNullable)
  have hRelaxes : Relation.ReflTransGen Relaxes
      longWords anyWords :=
    (Relation.ReflTransGen.single hNamed).tail hRoot
  have hBefore : longWords.root.judgeWithin longWords.resolve 1
      (.array [.string "ab", .string "abc"]) =
        some Outcome.valid := rfl
  have hAfter : anyWords.root.judgeWithin anyWords.resolve 1
      (.array [.string "ab", .string "abc"]) =
        some Outcome.valid := rfl
  exact ⟨hRelaxes, _, _, hBefore, rfl, hAfter,
    isValid_of_relaxes hRelaxes hBefore hAfter rfl⟩

end SchemaTree

end Conform
