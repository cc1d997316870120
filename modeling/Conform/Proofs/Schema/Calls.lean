import Conform.Proofs.Schema.Combination
import Conform.Proofs.Schema.Induction
import Conform.Proofs.Value.Induction

/-
  What a check looks up. The check of a value against a
  schema uses the checks against named schemas only where it
  comes to a lazy node that names its child, and only for
  the values that it comes there with. It is listed here
  which these can be, whatever property the lazy nodes
  follow. What else the named schemas do has no bearing on
  the check.

  Main declarations:
    * `Schema.calls`
    * `Schema.judge_eq_of_calls`
-/

namespace Conform

------------------------------------------------------------
-- Calls
------------------------------------------------------------

mutual

/-
  The names that the check of a value may look up, each with
  the value that is then to be checked. A lazy node is taken
  to hand on everything that any trail of its value leads
  to.
-/
def Schema.calls : Schema → Value → List (String × Value)
  | .node _ (.leaf _), _ => []
  | .node _ (.object properties), v =>
      propertyCalls properties v
  | .node _ (.array none _ _), _ => []
  | .node _ (.array (some item) _ _), v =>
      v.items.flatMap item.calls
  | .node _ (.tuple elements), v =>
      elementCalls elements v.items
  | .node _ (.record keys contents), v =>
      v.fields.flatMap fun f =>
        keys.calls (.string f.1) ++ contents.calls f.2
  | .node _ (.union options), v => optionCalls options v
  | .node _ (.nullable inner), v => inner.calls v
  | .node _ (.optional inner), v => inner.calls v
  | .node _ (.mapped mapping inner), v =>
      (mapping v).toOption.toList.flatMap inner.calls
  | .node _ (.lazy (.known child) _), v =>
      v.nested.flatMap child.calls
  | .node _ (.lazy (.named name) _), v =>
      v.nested.map fun w => (name, w)

/- The calls of the properties that a value has. -/
def propertyCalls :
    List (String × Schema) → Value → List (String × Value)
  | [], _ => []
  | (name, s) :: rest, v =>
      (v.fields.lookup name).toList.flatMap s.calls ++
        propertyCalls rest v

/- The calls of elements, each with its own value. -/
def elementCalls :
    List Schema → List Value → List (String × Value)
  | [], _ => []
  | _, [] => []
  | s :: rest, v :: others =>
      s.calls v ++ elementCalls rest others

/- The calls of options, all with the same value. -/
def optionCalls :
    List Schema → Value → List (String × Value)
  | [], _ => []
  | s :: rest, v => s.calls v ++ optionCalls rest v

end

section

variable {c : String × Value}

theorem mem_propertyCalls_iff
    {properties : List (String × Schema)}
    {v : Value} :
    c ∈ propertyCalls properties v ↔
      ∃ p ∈ properties, ∃ w,
        v.fields.lookup p.1 = some w ∧ c ∈ p.2.calls w := by
  induction properties with
  | nil => simp [propertyCalls]
  | cons p rest ih => simp [propertyCalls, ih]

theorem mem_elementCalls_iff
    {elements : List Schema}
    {values : List Value} :
    c ∈ elementCalls elements values ↔
      ∃ p ∈ elements.zip values, c ∈ p.1.calls p.2 := by
  induction elements generalizing values with
  | nil => simp [elementCalls]
  | cons s rest ih =>
      cases values with
      | nil => simp [elementCalls]
      | cons v others => simp [elementCalls, ih]

theorem mem_optionCalls_iff
    {options : List Schema}
    {v : Value} :
    c ∈ optionCalls options v ↔
      ∃ s ∈ options, c ∈ s.calls v := by
  induction options with
  | nil => simp [optionCalls]
  | cons s rest ih => simp [optionCalls, ih]

end

section

variable {f : Schema → Schema}
variable {v : Value}

/- Schemas with the same calls, each in the place of another. -/
theorem propertyCalls_map
    {properties : List (String × Schema)}
    (h : ∀ p ∈ properties, ∀ w,
      (f p.2).calls w = p.2.calls w) :
    propertyCalls (properties.map fun p => (p.1, f p.2)) v =
      propertyCalls properties v := by
  induction properties with
  | nil => rfl
  | cons p rest ih =>
      have hHead : (f p.2).calls = p.2.calls :=
        funext (h p List.mem_cons_self)
      have hTail := ih fun q hq =>
        h q (List.mem_cons_of_mem p hq)
      rw [List.map_cons, propertyCalls, propertyCalls, hHead,
        hTail]

theorem elementCalls_map
    {elements : List Schema}
    {values : List Value}
    (h : ∀ s ∈ elements, ∀ w, (f s).calls w = s.calls w) :
    elementCalls (elements.map f) values =
      elementCalls elements values := by
  induction elements generalizing values with
  | nil => rfl
  | cons s rest ih =>
      cases values with
      | nil => rfl
      | cons w others =>
          have hTail :
              elementCalls (rest.map f) others =
                elementCalls rest others :=
            ih fun t ht => h t (List.mem_cons_of_mem s ht)
          rw [List.map_cons, elementCalls, elementCalls,
            h s List.mem_cons_self, hTail]

theorem optionCalls_map
    {options : List Schema}
    (h : ∀ s ∈ options, (f s).calls v = s.calls v) :
    optionCalls (options.map f) v = optionCalls options v := by
  induction options with
  | nil => rfl
  | cons s rest ih =>
      have hTail := ih fun t ht =>
        h t (List.mem_cons_of_mem s ht)
      rw [List.map_cons, optionCalls, optionCalls,
        h s List.mem_cons_self, hTail]

end

------------------------------------------------------------
-- Checks of the Same Parts
------------------------------------------------------------

theorem gather_congr
    {α β : Type}
    {f g : α → Option (List β)}
    {members : List α}
    (h : ∀ a ∈ members, f a = g a) :
    gather f members = gather g members := by
  induction members with
  | nil => rfl
  | cons a rest ih =>
      have hHead : f a = g a := h a List.mem_cons_self
      have hTail := ih fun b hb =>
        h b (List.mem_cons_of_mem a hb)
      rw [gather, gather, hHead, hTail]

theorem Judge.errorsAt_congr
    {judge judge' : Judge}
    {v : Value}
    (h : judge v = judge' v)
    (step : Step) :
    judge.errorsAt step v = judge'.errorsAt step v := by
  rw [errorsAt, errorsAt, h]

section

variable {α : Type}
variable {members : List α}
variable {judge judge' : α → Judge}

/-
  A property is looked at only where the value has it, so
  only there do the checks have to agree.
-/
theorem objectErrors?_congr
    {name : α → String}
    {required : α → Bool}
    {v : Value}
    (h : ∀ a ∈ members, ∀ w,
      v.fields.lookup (name a) = some w →
        judge a w = judge' a w) :
    objectErrors?
        (members.map fun a => ⟨name a, required a, judge a⟩) v =
      objectErrors?
        (members.map fun a => ⟨name a, required a, judge' a⟩)
        v := by
  cases v with
  | object fields =>
      rw [objectErrors?, objectErrors?, gather_map, gather_map]
      refine gather_congr fun a ha => ?_
      unfold Slot.errors?
      dsimp only [Value.get]
      cases hLookup : fields.lookup (name a) with
      | none => rfl
      | some w =>
          rw [Option.getD_some,
            Judge.errorsAt_congr (h a ha w hLookup)]
  | _ => rfl

theorem itemErrors?_congr
    {items : List Value}
    (h : ∀ p ∈ members.zip items,
      judge p.1 p.2 = judge' p.1 p.2) :
    itemErrors? (members.map judge) items =
      itemErrors? (members.map judge') items := by
  rw [itemErrors?, itemErrors?, List.zip_map_left,
    List.zip_map_left, List.zipIdx_map, List.zipIdx_map,
    gather_map, gather_map]
  exact gather_congr fun p hp =>
    Judge.errorsAt_congr (h p.1 (List.fst_mem_of_mem_zipIdx hp))
      (.index p.2)

theorem tupleErrors?_congr
    {v : Value}
    (h : ∀ p ∈ members.zip v.items,
      judge p.1 p.2 = judge' p.1 p.2) :
    tupleErrors? (members.map judge) v =
      tupleErrors? (members.map judge') v := by
  cases v with
  | array items =>
      have hItems : itemErrors? (members.map judge) items =
          itemErrors? (members.map judge') items :=
        itemErrors?_congr h
      rw [tupleErrors?, tupleErrors?, hItems, List.length_map,
        List.length_map]
  | _ => rfl

end

section

variable {judge judge' : Judge}
variable {v : Value}

theorem arrayErrors?_congr
    (h : ∀ w ∈ v.items, judge w = judge' w)
    (least most : Option Nat) :
    arrayErrors? (some judge) least most v =
      arrayErrors? (some judge') least most v := by
  cases v with
  | array items =>
      have hEach : eachItemErrors? (some judge) items =
          eachItemErrors? (some judge') items := by
        rw [eachItemErrors?, eachItemErrors?, ← List.map_const',
          ← List.map_const']
        refine itemErrors?_congr fun p hp => ?_
        exact h p.2 (List.of_mem_zip hp).2
      rw [arrayErrors?, arrayErrors?, hEach]
  | _ => rfl

theorem recordErrors?_congr
    {keys keys' : Judge}
    (hKeys : ∀ f ∈ v.fields,
      keys (.string f.1) = keys' (.string f.1))
    (hContents : ∀ f ∈ v.fields, judge f.2 = judge' f.2) :
    recordErrors? keys judge v =
      recordErrors? keys' judge' v := by
  cases v with
  | object fields =>
      rw [recordErrors?, recordErrors?]
      refine gather_congr fun f hf => ?_
      rw [Judge.errorsAt_congr (hKeys f hf),
        Judge.errorsAt_congr (hContents f hf)]
  | _ => rfl

namespace Settings

variable (s : Settings)

theorem guard_congr
    {errors? errors?' : Value → Option (List String)}
    (h : errors? v = errors?' v) :
    s.guard errors? v = s.guard errors?' v := by
  rw [guard, guard, h]

theorem choose?_congr
    {α : Type}
    {options : List α}
    {judge judge' : α → Judge}
    (h : ∀ a ∈ options, judge a v = judge' a v) :
    choose? (options.map judge) v =
      choose? (options.map judge') v := by
  induction options with
  | nil => rfl
  | cons a rest ih =>
      have hHead : judge a v = judge' a v :=
        h a List.mem_cons_self
      have hTail := ih fun b hb =>
        h b (List.mem_cons_of_mem a hb)
      rw [List.map_cons, List.map_cons, choose?, choose?, hHead,
        hTail]

theorem judgeUnion_congr
    {options options' : List Judge}
    (h : choose? options v = choose? options' v) :
    s.judgeUnion options v = s.judgeUnion options' v := by
  rw [judgeUnion, judgeUnion, h]

theorem delegate_congr
    (h : judge v = judge' v) :
    s.delegate judge v = s.delegate judge' v := by
  rw [delegate, delegate, h]

theorem judgeNullable_congr
    (h : judge v = judge' v) :
    s.judgeNullable judge v = s.judgeNullable judge' v := by
  rw [judgeNullable, judgeNullable, s.delegate_congr h]

theorem judgeOptional_congr
    (h : judge v = judge' v) :
    s.judgeOptional judge v = s.judgeOptional judge' v := by
  rw [judgeOptional, judgeOptional, s.delegate_congr h]

/- The inner node is shown the image alone. -/
theorem judgeMapped_congr
    {mapping : Mapping}
    (h : ∀ image, mapping v = .ok image →
      judge image = judge' image) :
    s.judgeMapped mapping judge v =
      s.judgeMapped mapping judge' v := by
  rw [judgeMapped, judgeMapped]
  cases hImage : mapping v with
  | error reason => rfl
  | ok image =>
      dsimp only
      rw [h image hImage]

theorem trailErrors?_congr
    {errors? errors?' : Value → Option (List String)}
    {values : List Value}
    (h : ∀ w ∈ values, errors? w = errors?' w)
    (name : String) :
    trailErrors? errors? name values =
      trailErrors? errors?' name values := by
  induction values with
  | nil => rfl
  | cons v rest ih =>
      have hHead : errors? v = errors?' v :=
        h v List.mem_cons_self
      have hTail := ih fun w hw =>
        h w (List.mem_cons_of_mem v hw)
      unfold trailErrors?
      rw [hHead, hTail]

/- The child is shown values that are nested in the value. -/
theorem judgeLazy_congr
    (h : ∀ w ∈ v.nested, judge w = judge' w)
    (property : Option String) :
    s.judgeLazy judge property v =
      s.judgeLazy judge' property v := by
  unfold judgeLazy
  cases hAbsent : v.isAbsent with
  | true => rfl
  | false =>
      cases property with
      | none => simp only [h v (Value.mem_nested_self hAbsent)]
      | some name =>
          refine congrArg (Option.map Outcome.ofErrors) ?_
          refine trailErrors?_congr (fun w hw => ?_) name
          rw [h w (Value.mem_nested_of_mem_trail hw)]

end Settings

end

------------------------------------------------------------
-- Locality
------------------------------------------------------------

namespace Schema

/-
  Two ways to check against named schemas make no difference
  to the check of a value if they agree on its calls. The
  induction is on the schema, and each node hands on the
  calls of what it shows to the nodes below it.
-/
theorem judge_eq_of_calls
    {find find' : String → Judge}
    {s : Schema}
    {v : Value}
    (h : ∀ c ∈ s.calls v, find c.1 c.2 = find' c.1 c.2) :
    s.judge find v = s.judge find' v := by
  induction s generalizing v with
  | leaf settings kind => rw [judge, judge]
  | object settings properties ih =>
      rw [judge, judge, slots_eq_map, slots_eq_map]
      refine settings.guard_congr
        (objectErrors?_congr fun p hp w hLookup => ?_)
      refine ih p hp fun c hc => h c ?_
      rw [calls, mem_propertyCalls_iff]
      exact ⟨p, hp, w, hLookup, hc⟩
  | array settings items least most ih =>
      cases items with
      | none => rw [judge, judge]
      | some item =>
          rw [judge, judge]
          refine settings.guard_congr
            (arrayErrors?_congr (fun w hw => ?_) least most)
          refine ih item rfl fun c hc => h c ?_
          rw [calls]
          exact List.mem_flatMap.mpr ⟨w, hw, hc⟩
  | tuple settings elements ih =>
      rw [judge, judge, judges_eq_map, judges_eq_map]
      refine settings.guard_congr
        (tupleErrors?_congr fun p hp => ?_)
      refine ih p.1 (List.of_mem_zip hp).1 fun c hc => h c ?_
      rw [calls, mem_elementCalls_iff]
      exact ⟨p, hp, hc⟩
  | record settings keys contents ihKeys ihContents =>
      rw [judge, judge]
      refine settings.guard_congr
        (recordErrors?_congr (fun f hf => ?_) fun f hf => ?_)
      · refine ihKeys fun c hc => h c ?_
        rw [calls]
        exact List.mem_flatMap.mpr
          ⟨f, hf, List.mem_append_left _ hc⟩
      · refine ihContents fun c hc => h c ?_
        rw [calls]
        exact List.mem_flatMap.mpr
          ⟨f, hf, List.mem_append_right _ hc⟩
  | union settings options ih =>
      rw [judge, judge, judges_eq_map, judges_eq_map]
      refine settings.judgeUnion_congr
        (Settings.choose?_congr fun option hOption => ?_)
      refine ih option hOption fun c hc => h c ?_
      rw [calls, mem_optionCalls_iff]
      exact ⟨option, hOption, hc⟩
  | nullable settings inner ih =>
      rw [judge, judge]
      rw [calls] at h
      exact settings.judgeNullable_congr (ih h)
  | optional settings inner ih =>
      rw [judge, judge]
      rw [calls] at h
      exact settings.judgeOptional_congr (ih h)
  | mapped settings mapping inner ih =>
      rw [judge, judge]
      refine settings.judgeMapped_congr fun image hImage => ?_
      refine ih fun c hc => h c ?_
      rw [calls, hImage]
      exact List.mem_flatMap.mpr
        ⟨image, List.mem_singleton_self image, hc⟩
  | known settings child property ih =>
      rw [judge, judge]
      refine settings.judgeLazy_congr (fun w hw => ?_) property
      refine ih fun c hc => h c ?_
      rw [calls]
      exact List.mem_flatMap.mpr ⟨w, hw, hc⟩
  | named settings name property =>
      rw [judge, judge]
      refine settings.judgeLazy_congr (fun w hw => ?_) property
      refine h (name, w) ?_
      rw [calls]
      exact List.mem_map.mpr ⟨w, hw, rfl⟩

end Schema

end Conform
