import Conform.Proofs.Schema.Calls

/-
  How schemas refer to named schemas. A node hands values on
  to its children: parts of its value, an image of it, or
  the value itself. What a way down does to the size of a
  value can be read off the steps that it consists of. Every
  call of a check is that of a lazy node further down which
  names its child.

  Main declarations:
    * `Passage`
    * `Schema.children`
    * `Schema.Way` and `Schema.Refers`
    * `Schema.refers_of_mem_calls`
    * `Schema.unfollowed`
-/

namespace Conform

------------------------------------------------------------
-- Passages
------------------------------------------------------------

/-
  What becomes of a value on its way to a node further down:
  whether only a part of it arrives, and whether an image
  under a mapping does.
-/
structure Passage where
  inward : Bool
  mapped : Bool

namespace Passage

/- The value itself is handed on. -/
def straight : Passage :=
  ⟨false, false⟩

/- A part of the value is handed on. -/
def part : Passage :=
  ⟨true, false⟩

/- An image of the value is handed on. -/
def image : Passage :=
  ⟨false, true⟩

/- One passage after another. -/
def andThen
    (p q : Passage) : Passage :=
  ⟨p.inward || q.inward, p.mapped || q.mapped⟩

/-
  Values that a passage may lead from and to, by their
  sizes. Nothing is known of the size of an image.
-/
def Allows
    (p : Passage)
    (v w : Value) : Prop :=
  p.mapped = false →
    sizeOf w ≤ sizeOf v ∧
      (p.inward = true → sizeOf w < sizeOf v)

theorem straight_allows
    {v w : Value}
    (h : sizeOf w ≤ sizeOf v) :
    straight.Allows v w :=
  fun _ => ⟨h, fun hInward => nomatch hInward⟩

theorem part_allows
    {v w : Value}
    (h : sizeOf w < sizeOf v) :
    part.Allows v w :=
  fun _ => ⟨Nat.le_of_lt h, fun _ => h⟩

theorem image_allows
    {v w : Value} :
    image.Allows v w :=
  fun hMapped => nomatch hMapped

theorem Allows.andThen
    {p q : Passage}
    {u v w : Value}
    (hFirst : p.Allows u v)
    (hSecond : q.Allows v w) :
    (p.andThen q).Allows u w := by
  intro hMapped
  rcases Bool.or_eq_false_iff.mp hMapped with ⟨hp, hq⟩
  rcases hFirst hp with ⟨hLe, hLt⟩
  rcases hSecond hq with ⟨hLe', hLt'⟩
  refine ⟨Nat.le_trans hLe' hLe, fun hInward => ?_⟩
  rcases Bool.or_eq_true_iff.mp hInward with hIn | hIn
  · exact Nat.lt_of_le_of_lt hLe' (hLt hIn)
  · exact Nat.lt_of_lt_of_le (hLt' hIn) hLe

end Passage

------------------------------------------------------------
-- Children
------------------------------------------------------------

namespace Schema

/-
  The nodes directly below a node, with what becomes of a
  value that is handed to them. Whatever property a lazy
  node follows, it counts as handing on the value itself:
  what is nested in a value is not larger.
-/
def children : Schema → List (Passage × Schema)
  | .node _ (.leaf _) => []
  | .node _ (.object properties) =>
      properties.map fun p => (.part, p.2)
  | .node _ (.array items _ _) =>
      items.toList.map fun s => (.part, s)
  | .node _ (.tuple elements) =>
      elements.map fun s => (.part, s)
  | .node _ (.record keys contents) =>
      [(.part, keys), (.part, contents)]
  | .node _ (.union options) =>
      options.map fun s => (.straight, s)
  | .node _ (.nullable inner) => [(.straight, inner)]
  | .node _ (.optional inner) => [(.straight, inner)]
  | .node _ (.mapped _ inner) => [(.image, inner)]
  | .node _ (.lazy (.known child) _) => [(.straight, child)]
  | .node _ (.lazy (.named _) _) => []

/-
  A statement holds of every schema if it holds of each node
  whose children it holds of.
-/
theorem children_induct
    {motive : Schema → Prop}
    (step : ∀ s, (∀ c ∈ s.children, motive c.2) → motive s)
    (s : Schema) :
    motive s := by
  induction s with
  | leaf settings kind =>
      exact step _ fun c hc => absurd hc List.not_mem_nil
  | object settings properties ih =>
      refine step _ fun c hc => ?_
      rcases List.mem_map.mp hc with ⟨p, hp, rfl⟩
      exact ih p hp
  | array settings items least most ih =>
      refine step _ fun c hc => ?_
      rcases List.mem_map.mp hc with ⟨item, hItem, rfl⟩
      exact ih item (Option.mem_toList.mp hItem)
  | tuple settings elements ih =>
      refine step _ fun c hc => ?_
      rcases List.mem_map.mp hc with ⟨element, hElement, rfl⟩
      exact ih element hElement
  | record settings keys contents ihKeys ihContents =>
      refine step _ fun c hc => ?_
      rcases List.mem_cons.mp hc with rfl | hc
      · exact ihKeys
      · rw [List.mem_singleton.mp hc]
        exact ihContents
  | union settings options ih =>
      refine step _ fun c hc => ?_
      rcases List.mem_map.mp hc with ⟨option, hOption, rfl⟩
      exact ih option hOption
  | nullable settings inner ih =>
      refine step _ fun c hc => ?_
      rw [List.mem_singleton.mp hc]
      exact ih
  | optional settings inner ih =>
      refine step _ fun c hc => ?_
      rw [List.mem_singleton.mp hc]
      exact ih
  | mapped settings mapping inner ih =>
      refine step _ fun c hc => ?_
      rw [List.mem_singleton.mp hc]
      exact ih
  | known settings child property ih =>
      refine step _ fun c hc => ?_
      rw [List.mem_singleton.mp hc]
      exact ih
  | named settings name property =>
      exact step _ fun c hc => absurd hc List.not_mem_nil

/-
  A call of a check is either that of the topmost node, or
  one of a child with what the node hands to it.
-/
theorem mem_calls_cases
    {s : Schema}
    {v : Value}
    {c : String × Value}
    (h : c ∈ s.calls v) :
    (∃ settings property,
        s = .node settings (.lazy (.named c.1) property) ∧
          sizeOf c.2 ≤ sizeOf v) ∨
      ∃ child ∈ s.children, ∃ w,
        child.1.Allows v w ∧ c ∈ child.2.calls w := by
  rcases s with ⟨settings, shape⟩
  cases shape with
  | leaf kind => simp [calls] at h
  | object properties =>
      rw [calls, mem_propertyCalls_iff] at h
      rcases h with ⟨p, hp, w, hLookup, hCall⟩
      have hField := Value.sizeOf_lt_of_mem_fields
        (Fields.mem_of_lookup hLookup)
      exact Or.inr ⟨(.part, p.2),
        List.mem_map.mpr ⟨p, hp, rfl⟩, w,
        Passage.part_allows hField.1, hCall⟩
  | array items least most =>
      cases items with
      | none => simp [calls] at h
      | some item =>
          rw [calls, List.mem_flatMap] at h
          rcases h with ⟨w, hw, hCall⟩
          exact Or.inr ⟨(.part, item),
            List.mem_singleton_self _, w,
            Passage.part_allows
              (Value.sizeOf_lt_of_mem_items hw), hCall⟩
  | tuple elements =>
      rw [calls, mem_elementCalls_iff] at h
      rcases h with ⟨p, hp, hCall⟩
      rcases List.of_mem_zip hp with ⟨hElement, hItem⟩
      exact Or.inr ⟨(.part, p.1),
        List.mem_map.mpr ⟨p.1, hElement, rfl⟩, p.2,
        Passage.part_allows
          (Value.sizeOf_lt_of_mem_items hItem), hCall⟩
  | record keys contents =>
      rw [calls, List.mem_flatMap] at h
      rcases h with ⟨f, hf, hCall⟩
      have hField := Value.sizeOf_lt_of_mem_fields hf
      rcases List.mem_append.mp hCall with hKey | hContent
      · exact Or.inr ⟨(.part, keys), List.mem_cons_self, _,
          Passage.part_allows hField.2, hKey⟩
      · exact Or.inr ⟨(.part, contents),
          List.mem_cons_of_mem _ (List.mem_singleton_self _), _,
          Passage.part_allows hField.1, hContent⟩
  | union options =>
      rw [calls, mem_optionCalls_iff] at h
      rcases h with ⟨option, hOption, hCall⟩
      exact Or.inr ⟨(.straight, option),
        List.mem_map.mpr ⟨option, hOption, rfl⟩, v,
        Passage.straight_allows (Nat.le_refl _), hCall⟩
  | nullable inner =>
      rw [calls] at h
      exact Or.inr ⟨(.straight, inner),
        List.mem_singleton_self _, v,
        Passage.straight_allows (Nat.le_refl _), h⟩
  | optional inner =>
      rw [calls] at h
      exact Or.inr ⟨(.straight, inner),
        List.mem_singleton_self _, v,
        Passage.straight_allows (Nat.le_refl _), h⟩
  | mapped mapping inner =>
      rw [calls, List.mem_flatMap] at h
      rcases h with ⟨image, _, hCall⟩
      exact Or.inr ⟨(.image, inner),
        List.mem_singleton_self _, image,
        Passage.image_allows, hCall⟩
  | lazy child property =>
      cases child with
      | known child =>
          rw [calls, List.mem_flatMap] at h
          rcases h with ⟨w, hNested, hCall⟩
          exact Or.inr ⟨(.straight, child),
            List.mem_singleton_self _, w,
            Passage.straight_allows
              (Value.sizeOf_le_of_mem_nested hNested), hCall⟩
      | named name =>
          rw [calls, List.mem_map] at h
          rcases h with ⟨w, hNested, rfl⟩
          exact Or.inl ⟨settings, property, rfl,
            Value.sizeOf_le_of_mem_nested hNested⟩

------------------------------------------------------------
-- Ways and References
------------------------------------------------------------

/-
  The ways down from a node, each with what becomes of a
  value on it.
-/
inductive Way : Schema → Passage → Schema → Prop
  | here {s : Schema} : Way s .straight s
  | down {s t : Schema} {c : Passage × Schema} {p : Passage}
      (hChild : c ∈ s.children)
      (hRest : Way c.2 p t) :
      Way s (c.1.andThen p) t

/- A schema refers to the names of the lazy nodes in it. -/
def Refers
    (s : Schema)
    (name : String)
    (p : Passage) : Prop :=
  ∃ settings property,
    s.Way p (.node settings (.lazy (.named name) property))

/-
  A schema refers to a name by its topmost node or by one of
  the children of it.
-/
theorem refers_iff
    {s : Schema}
    {name : String}
    {p : Passage} :
    s.Refers name p ↔
      (p = .straight ∧ ∃ settings property,
        s = .node settings (.lazy (.named name) property)) ∨
      ∃ c ∈ s.children, ∃ q,
        c.2.Refers name q ∧ p = c.1.andThen q := by
  constructor
  · rintro ⟨settings, property, hWay⟩
    cases hWay with
    | here => exact Or.inl ⟨rfl, settings, property, rfl⟩
    | down hChild hRest =>
        exact Or.inr
          ⟨_, hChild, _, ⟨settings, property, hRest⟩, rfl⟩
  · rintro (⟨rfl, settings, property, rfl⟩ |
      ⟨c, hChild, q, ⟨settings, property, hWay⟩, rfl⟩)
    · exact ⟨settings, property, .here⟩
    · exact ⟨settings, property, .down hChild hWay⟩

theorem refers_named_iff
    {settings : Settings}
    {name other : String}
    {property : Option String}
    {p : Passage} :
    (node settings (.lazy (.named name) property)).Refers
        other p ↔
      other = name ∧ p = .straight := by
  constructor
  · intro h
    rcases refers_iff.mp h with
      ⟨hStraight, _, _, hNode⟩ | ⟨c, hChild, _⟩
    · cases hNode
      exact ⟨rfl, hStraight⟩
    · exact absurd hChild List.not_mem_nil
  · rintro ⟨rfl, rfl⟩
    exact ⟨settings, property, .here⟩

/- A node with one child refers to what the child does. -/
theorem refers_iff_of_only_child
    {s : Schema}
    {c : Passage × Schema}
    {name : String}
    {p : Passage}
    (h : s.children = [c]) :
    s.Refers name p ↔
      ∃ q, c.2.Refers name q ∧ p = c.1.andThen q := by
  rw [refers_iff, h]
  simp only [List.mem_singleton, exists_eq_left]
  refine or_iff_right ?_
  rintro ⟨_, settings, property, rfl⟩
  cases h

/- What a child refers to, its parent does. -/
theorem Refers.of_child
    {s : Schema}
    {c : Passage × Schema}
    {name : String}
    {p : Passage}
    (hChild : c ∈ s.children)
    (h : c.2.Refers name p) :
    s.Refers name (c.1.andThen p) :=
  refers_iff.mpr (Or.inr ⟨c, hChild, p, h, rfl⟩)

/- What a node further down refers to, the schema does. -/
theorem Way.exists_refers
    {s t : Schema}
    {p q : Passage}
    {name : String}
    (h : s.Way p t)
    (hRefers : t.Refers name q) :
    ∃ r, s.Refers name r := by
  induction h with
  | here => exact ⟨q, hRefers⟩
  | down hChild _ ih =>
      rcases ih hRefers with ⟨r, hRest⟩
      exact ⟨_, hRest.of_child hChild⟩

/-
  Every name that a check looks up is referred to, and the
  value that it is looked up for is one that the passage to
  the lazy node allows. One step of the induction leads from
  a node to the child that makes the call.
-/
theorem refers_of_mem_calls
    {s : Schema}
    {v : Value}
    {c : String × Value}
    (h : c ∈ s.calls v) :
    ∃ p, s.Refers c.1 p ∧ p.Allows v c.2 := by
  induction s using children_induct generalizing v with
  | step s ih =>
      rcases mem_calls_cases h with
        ⟨settings, property, rfl, hSize⟩ |
        ⟨child, hChild, w, hAllows, hCall⟩
      · exact ⟨.straight, ⟨settings, property, .here⟩,
          Passage.straight_allows hSize⟩
      · rcases ih child hChild hCall with
          ⟨p, hRefers, hRest⟩
        exact ⟨child.1.andThen p, hRefers.of_child hChild,
          hAllows.andThen hRest⟩

end Schema

------------------------------------------------------------
-- Schemas up to Property Names
------------------------------------------------------------

mutual

/- The schema without the properties that are followed. -/
def Schema.unfollowed : Schema → Schema
  | .node s (.leaf kind) => .node s (.leaf kind)
  | .node s (.object properties) =>
      .node s (.object (unfollowedEntries properties))
  | .node s (.array none least most) =>
      .node s (.array none least most)
  | .node s (.array (some item) least most) =>
      .node s (.array (some item.unfollowed) least most)
  | .node s (.tuple elements) =>
      .node s (.tuple (unfollowedAll elements))
  | .node s (.record keys contents) =>
      .node s (.record keys.unfollowed contents.unfollowed)
  | .node s (.union options) =>
      .node s (.union (unfollowedAll options))
  | .node s (.nullable inner) =>
      .node s (.nullable inner.unfollowed)
  | .node s (.optional inner) =>
      .node s (.optional inner.unfollowed)
  | .node s (.mapped mapping inner) =>
      .node s (.mapped mapping inner.unfollowed)
  | .node s (.lazy (.known child) _) =>
      .node s (.lazy (.known child.unfollowed) none)
  | .node s (.lazy (.named name) _) =>
      .node s (.lazy (.named name) none)

def unfollowedAll : List Schema → List Schema
  | [] => []
  | s :: rest => s.unfollowed :: unfollowedAll rest

def unfollowedEntries :
    List (String × Schema) → List (String × Schema)
  | [] => []
  | (name, s) :: rest =>
      (name, s.unfollowed) :: unfollowedEntries rest

end

theorem unfollowedAll_eq_map
    (schemas : List Schema) :
    unfollowedAll schemas = schemas.map Schema.unfollowed := by
  induction schemas with
  | nil => simp [unfollowedAll]
  | cons s rest ih => simp [unfollowedAll, ih]

theorem unfollowedEntries_eq_map
    (entries : List (String × Schema)) :
    unfollowedEntries entries =
      entries.map fun e => (e.1, e.2.unfollowed) := by
  induction entries with
  | nil => simp [unfollowedEntries]
  | cons e rest ih => simp [unfollowedEntries, ih]

theorem lookup_unfollowedEntries
    (entries : List (String × Schema))
    (name : String) :
    (unfollowedEntries entries).lookup name =
      (entries.lookup name).map Schema.unfollowed := by
  induction entries with
  | nil => rfl
  | cons e rest ih =>
      rcases e with ⟨n, s⟩
      rw [unfollowedEntries, List.lookup_cons,
        List.lookup_cons, ih]
      cases name == n <;> rfl

namespace Schema

theorem children_unfollowed
    (s : Schema) :
    s.unfollowed.children =
      s.children.map fun c => (c.1, c.2.unfollowed) := by
  rcases s with ⟨settings, shape⟩
  cases shape with
  | object properties =>
      simp [unfollowed, children, unfollowedEntries_eq_map]
  | array items least most =>
      cases items <;> simp [unfollowed, children]
  | lazy child property =>
      cases child <;> simp [unfollowed, children]
  | _ => simp [unfollowed, children, unfollowedAll_eq_map]

/- The calls do not depend on the properties followed. -/
theorem calls_unfollowed
    (s : Schema)
    (v : Value) :
    s.unfollowed.calls v = s.calls v := by
  induction s generalizing v with
  | leaf settings kind => rw [unfollowed]
  | object settings properties ih =>
      rw [unfollowed, calls, calls, unfollowedEntries_eq_map]
      exact propertyCalls_map ih
  | array settings items least most ih =>
      cases items with
      | none => rw [unfollowed]
      | some item =>
          have hItem : item.unfollowed.calls = item.calls :=
            funext (ih item rfl)
          rw [unfollowed, calls, calls, hItem]
  | tuple settings elements ih =>
      rw [unfollowed, calls, calls, unfollowedAll_eq_map]
      exact elementCalls_map ih
  | record settings keys contents ihKeys ihContents =>
      rw [unfollowed, calls, calls]
      simp only [ihKeys, ihContents]
  | union settings options ih =>
      rw [unfollowed, calls, calls, unfollowedAll_eq_map]
      exact optionCalls_map fun s hs => ih s hs v
  | nullable settings inner ih =>
      rw [unfollowed, calls, calls, ih]
  | optional settings inner ih =>
      rw [unfollowed, calls, calls, ih]
  | mapped settings mapping inner ih =>
      rw [unfollowed, calls, calls, funext ih]
  | known settings child property ih =>
      rw [unfollowed, calls, calls, funext ih]
  | named settings name property =>
      rw [unfollowed, calls, calls]

/-
  Where two schemas are the same up to the properties that
  their lazy nodes follow, so are the nodes that the same
  ways lead to.
-/
theorem Way.exists_unfollowed_eq
    {s s' t : Schema}
    {p : Passage}
    (h : s.Way p t)
    (hSame : s'.unfollowed = s.unfollowed) :
    ∃ t', s'.Way p t' ∧ t'.unfollowed = t.unfollowed := by
  induction h generalizing s' with
  | here => exact ⟨s', .here, hSame⟩
  | @down s t c p hChild _ ih =>
      have hMem : (c.1, c.2.unfollowed) ∈
          s'.unfollowed.children := by
        rw [hSame, children_unfollowed]
        exact List.mem_map.mpr ⟨c, hChild, rfl⟩
      rw [children_unfollowed] at hMem
      rcases List.mem_map.mp hMem with ⟨c', hChild', hEq⟩
      rcases Prod.mk.inj hEq with ⟨hPassage, hSchema⟩
      rcases ih hSchema with ⟨t', hRest, hNode⟩
      rw [← hPassage]
      exact ⟨t', .down hChild' hRest, hNode⟩

end Schema

end Conform
