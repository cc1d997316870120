import Conform.Proofs.Definition.Meaning
import Conform.Proofs.Schema.Totality
import Mathlib.Data.Prod.Lex
import Mathlib.Data.Set.Card
import Mathlib.Data.Set.Finite.List
import Mathlib.Order.CompletePartialOrder

/-
  Recursion through a table of named schemas. It is guarded
  if every cycle of lazy references takes the value apart
  and none maps it. Then every check ends: from one named
  schema to the next, either one fewer mapping lies ahead,
  or the value gets smaller, or fewer names can be reached
  without taking it apart. The number of unfoldings that a
  value needs does not depend on the properties that lazy
  nodes follow.

  Main declarations:
    * `Reaches` and `Guarded`
    * `rank` and `rank_lt`
    * `Settled`
    * `Guarded.settles`
    * `Schema.validate_ends_of_guarded`
-/

namespace Conform

------------------------------------------------------------
-- Tables
------------------------------------------------------------

/- A node that a table has in one of its schemas. -/
def Schema.NodeOf
    (s : Schema)
    (table : List (String × Schema)) : Prop :=
  ∃ e ∈ table, ∃ p, e.2.Way p s

/-
  A name leads to another one through one or more lazy
  references, each in the schema of the one before.
-/
inductive Reaches
    (table : List (String × Schema)) :
    String → String → Passage → Prop
  | one {name next : String} {s : Schema} {p : Passage}
      (hEntry : table.lookup name = some s)
      (hRefers : s.Refers next p) :
      Reaches table name next p
  | more {name next last : String} {s : Schema}
      {p q : Passage}
      (hEntry : table.lookup name = some s)
      (hRefers : s.Refers next p)
      (hRest : Reaches table next last q) :
      Reaches table name last (p.andThen q)

/-
  A table in which all references are to names of it and
  every cycle of references takes the value apart, by a
  property, an item, an element or a field, and does not
  lead through a mapping.
-/
structure Guarded
    (table : List (String × Schema)) : Prop where
  defined : ∀ e ∈ table, ∀ name p,
    e.2.Refers name p → ∃ s, table.lookup name = some s
  inward : ∀ name p,
    Reaches table name name p → p.inward = true
  unmapped : ∀ name p,
    Reaches table name name p → p.mapped = false

theorem Passage.andThen_assoc
    (p q r : Passage) :
    (p.andThen q).andThen r = p.andThen (q.andThen r) := by
  simp [andThen, Bool.or_assoc]

namespace Reaches

variable {table : List (String × Schema)}
variable {name next last : String}
variable {p q : Passage}

theorem trans
    (h : Reaches table name next p)
    (hRest : Reaches table next last q) :
    Reaches table name last (p.andThen q) := by
  induction h with
  | one hEntry hRefers => exact .more hEntry hRefers hRest
  | more hEntry hRefers _ ih =>
      rw [Passage.andThen_assoc]
      exact .more hEntry hRefers (ih hRest)

/- What is reached is in the table. -/
theorem exists_entry
    (hGuarded : Guarded table)
    (h : Reaches table name next p) :
    ∃ s, table.lookup next = some s := by
  induction h with
  | one hEntry hRefers =>
      exact hGuarded.defined _ (Fields.mem_of_lookup hEntry)
        _ _ hRefers
  | more _ _ _ ih => exact ih

end Reaches

------------------------------------------------------------
-- Names Ahead
------------------------------------------------------------

/- The names that can be reached in some way. -/
def ahead
    (table : List (String × Schema))
    (keep : Passage → Prop)
    (name : String) : Set String :=
  { last | ∃ p, Reaches table name last p ∧ keep p }

section

variable {table : List (String × Schema)}
variable {keep : Passage → Prop}
variable {name next : String}
variable {p : Passage}

theorem finite_ahead
    (h : Guarded table) :
    (ahead table keep name).Finite := by
  refine (List.finite_toSet (table.map Prod.fst)).subset ?_
  rintro last ⟨p, hReaches, _⟩
  rcases hReaches.exists_entry h with ⟨s, hEntry⟩
  exact List.mem_map.mpr
    ⟨_, Fields.mem_of_lookup hEntry, rfl⟩

theorem ahead_subset
    (hReaches : Reaches table name next p)
    (hKeep : ∀ q, keep q → keep (p.andThen q)) :
    ahead table keep next ⊆ ahead table keep name := by
  rintro last ⟨q, hRest, hq⟩
  exact ⟨_, hReaches.trans hRest, hKeep q hq⟩

/-
  Along a way that counts itself, fewer names are ahead if
  no cycle counts: the next name is not ahead of itself.
-/
theorem ahead_ssubset
    (hReaches : Reaches table name next p)
    (hKeep : ∀ q, keep q → keep (p.andThen q))
    (hp : keep p)
    (hAcyclic : ∀ q, Reaches table next next q → ¬ keep q) :
    ahead table keep next ⊂ ahead table keep name := by
  refine (Set.ssubset_iff_of_subset
    (ahead_subset hReaches hKeep)).mpr
      ⟨next, ⟨p, hReaches, hp⟩, ?_⟩
  rintro ⟨q, hCycle, hq⟩
  exact hAcyclic q hCycle hq

end

/-
  What gets less from one named schema to the next: first
  the names ahead through a mapping, then the size of the
  value, and then the names ahead that the value reaches
  whole.
-/
noncomputable def rank
    (table : List (String × Schema))
    (name : String)
    (v : Value) : ℕ ×ₗ ℕ ×ₗ ℕ :=
  toLex ((ahead table (fun p => p.mapped = true) name).ncard,
    toLex (sizeOf v,
      (ahead table (fun p => p.inward = false) name).ncard))

theorem rank_lt
    {table : List (String × Schema)}
    {name next : String}
    {p : Passage}
    {v w : Value}
    (h : Guarded table)
    (hReaches : Reaches table name next p)
    (hAllows : p.Allows v w) :
    rank table next w < rank table name v := by
  have hMappings : ∀ q : Passage,
      q.mapped = true → (p.andThen q).mapped = true := by
    intro q hq
    simp [Passage.andThen, hq]
  refine Prod.Lex.lt_iff'.mpr
    ⟨Set.ncard_le_ncard (ahead_subset hReaches hMappings)
      (finite_ahead h), fun hSame => ?_⟩
  cases hMapped : p.mapped with
  | true =>
      have hFewer := Set.ncard_lt_ncard
        (ahead_ssubset hReaches hMappings hMapped
          fun q hCycle hq => by
            rw [h.unmapped next q hCycle] at hq
            cases hq)
        (finite_ahead h)
      exact absurd hSame (Nat.ne_of_lt hFewer)
  | false =>
      rcases hAllows hMapped with ⟨hSize, hLess⟩
      cases hInward : p.inward with
      | true => exact Prod.Lex.lt_iff.mpr (Or.inl (hLess hInward))
      | false =>
          have hWhole : ∀ q : Passage,
              q.inward = false →
                (p.andThen q).inward = false := by
            intro q hq
            simp [Passage.andThen, hInward, hq]
          have hFewer := Set.ncard_lt_ncard
            (ahead_ssubset hReaches hWhole hInward
              fun q hCycle hq => by
                rw [h.inward next q hCycle] at hq
                cases hq)
            (finite_ahead h)
          exact Prod.Lex.lt_iff'.mpr ⟨hSize, fun _ => hFewer⟩

------------------------------------------------------------
-- Unfoldings
------------------------------------------------------------

/-
  The check of a value against a named schema needs at most
  a number of unfoldings inside one another.
-/
def Settled
    (table : List (String × Schema)) :
    Nat → String → Value → Prop
  | 0, _, _ => False
  | n + 1, name, v =>
      ∃ s, table.lookup name = some s ∧
        ∀ c ∈ s.calls v, Settled table n c.1 c.2

namespace Settled

variable {table table' : List (String × Schema)}
variable {name : String}
variable {v : Value}
variable {n m : Nat}

theorem mono
    (h : Settled table n name v)
    (hLe : n ≤ m) :
    Settled table m name v := by
  induction n generalizing name v m with
  | zero => exact h.elim
  | succ n ih =>
      rcases h with ⟨s, hEntry, hCalls⟩
      cases m with
      | zero => exact absurd hLe (Nat.not_succ_le_zero n)
      | succ m =>
          exact ⟨s, hEntry, fun c hc =>
            ih (hCalls c hc) (Nat.le_of_succ_le_succ hLe)⟩

/- The properties that lazy nodes follow do not matter. -/
theorem of_unfollowed_eq
    (h : Settled table n name v)
    (hSame : unfollowedEntries table' =
      unfollowedEntries table) :
    Settled table' n name v := by
  induction n generalizing name v with
  | zero => exact h
  | succ n ih =>
      rcases h with ⟨s, hEntry, hCalls⟩
      have hLookup :
          (table'.lookup name).map Schema.unfollowed =
            (table.lookup name).map Schema.unfollowed := by
        rw [← lookup_unfollowedEntries,
          ← lookup_unfollowedEntries, hSame]
      rw [hEntry, Option.map_some,
        Option.map_eq_some_iff] at hLookup
      rcases hLookup with ⟨s', hEntry', hSchema⟩
      refine ⟨s', hEntry', fun c hc => ih (hCalls c ?_)⟩
      rwa [← Schema.calls_unfollowed, ← hSchema,
        Schema.calls_unfollowed]

end Settled

/-
  A check whose calls are settled ends, and with the same
  outcome however many more unfoldings are allowed.
-/
theorem Schema.judge_stable
    {find : Nat → String → Judge}
    {s : Schema}
    {v : Value}
    {n : Nat}
    (h : ∀ c ∈ s.calls v,
      ∃ o, ∀ m ≥ n, find m c.1 c.2 = some o) :
    ∃ o, ∀ m ≥ n, s.judge (find m) v = some o := by
  have hEnds : ∃ o, s.judge (find n) v = some o := by
    refine judge_ends fun c hc => ?_
    rcases h c hc with ⟨o, hStable⟩
    exact ⟨o, hStable n (Nat.le_refl n)⟩
  rcases hEnds with ⟨o, hOutcome⟩
  refine ⟨o, fun m hm => ?_⟩
  rw [← hOutcome]
  refine judge_eq_of_calls fun c hc => ?_
  rcases h c hc with ⟨o, hStable⟩
  rw [hStable m hm, hStable n (Nat.le_refl n)]

theorem Settled.namedJudge_stable
    {table : List (String × Schema)}
    {name : String}
    {v : Value}
    {n : Nat}
    (h : Settled table n name v) :
    ∃ o, ∀ m ≥ n,
      namedJudge (fun name => table.lookup name) m name v =
        some o := by
  induction n generalizing name v with
  | zero => exact h.elim
  | succ n ih =>
      rcases h with ⟨s, hEntry, hCalls⟩
      rcases Schema.judge_stable fun c hc => ih (hCalls c hc)
        with ⟨o, hStable⟩
      refine ⟨o, fun m hm => ?_⟩
      cases m with
      | zero => exact absurd hm (Nat.not_succ_le_zero n)
      | succ m =>
          rw [namedJudge, hEntry]
          exact hStable m (Nat.le_of_succ_le_succ hm)

/- Finitely many things have a common bound if each has one. -/
theorem exists_common_bound
    {α : Type}
    (Within : Nat → α → Prop)
    (hMono : ∀ n m a, Within n a → n ≤ m → Within m a)
    {members : List α}
    (h : ∀ a ∈ members, ∃ n, Within n a) :
    ∃ n, ∀ a ∈ members, Within n a := by
  induction members with
  | nil => exact ⟨0, fun a ha => absurd ha List.not_mem_nil⟩
  | cons a rest ih =>
      rcases h a List.mem_cons_self with ⟨n, hHead⟩
      rcases ih fun b hb => h b (List.mem_cons_of_mem a hb)
        with ⟨m, hTail⟩
      refine ⟨max n m, fun b hb => ?_⟩
      rcases List.mem_cons.mp hb with rfl | hb
      · exact hMono n _ b hHead (Nat.le_max_left n m)
      · exact hMono m _ b (hTail b hb) (Nat.le_max_right n m)

theorem Settled.exists_bound
    {table : List (String × Schema)}
    {calls : List (String × Value)}
    (h : ∀ c ∈ calls, ∃ n, Settled table n c.1 c.2) :
    ∃ n, ∀ c ∈ calls, Settled table n c.1 c.2 :=
  exists_common_bound
    (fun n (c : String × Value) => Settled table n c.1 c.2)
    (fun _ _ _ hSettled hLe => hSettled.mono hLe) h

namespace Guarded

variable {table : List (String × Schema)}

/-
  In a guarded table every check of a value against a named
  schema needs finitely many unfoldings. The recursion goes
  from a name and a value to the calls of its schema, whose
  rank is less.
-/
theorem settles
    (h : Guarded table)
    {name : String}
    {s : Schema}
    (hEntry : table.lookup name = some s)
    (v : Value) :
    ∃ n, Settled table n name v := by
  have hCalls : ∀ c ∈ s.calls v,
      ∃ n, Settled table n c.1 c.2 := by
    intro c hc
    rcases Schema.refers_of_mem_calls hc with
      ⟨p, hRefers, hAllows⟩
    have hReaches : Reaches table name c.1 p :=
      .one hEntry hRefers
    rcases hReaches.exists_entry h with ⟨t, hNext⟩
    have hRank := rank_lt h hReaches hAllows
    exact h.settles hNext c.2
  rcases Settled.exists_bound hCalls with ⟨n, hBound⟩
  exact ⟨n + 1, s, hEntry, hBound⟩
termination_by rank table name v
decreasing_by exact hRank

/- So does that against a node of the table. -/
theorem settles_calls
    (h : Guarded table)
    {s : Schema}
    (hNode : s.NodeOf table)
    {v : Value}
    {c : String × Value}
    (hCall : c ∈ s.calls v) :
    ∃ n, Settled table n c.1 c.2 := by
  rcases hNode with ⟨e, he, p, hWay⟩
  rcases Schema.refers_of_mem_calls hCall with
    ⟨q, hRefers, _⟩
  rcases hWay.exists_refers hRefers with ⟨r, hEntry⟩
  rcases h.defined e he _ r hEntry with ⟨t, hLookup⟩
  exact h.settles hLookup c.2

end Guarded

/- All calls of all nodes of a schema are settled. -/
def Schema.SettledThroughout
    (table : List (String × Schema))
    (v : Value)
    (n : Nat)
    (s : Schema) : Prop :=
  ∀ p t, s.Way p t → ∀ c ∈ t.calls v, Settled table n c.1 c.2

namespace Schema.SettledThroughout

variable {table : List (String × Schema)}
variable {v : Value}
variable {n m : Nat}
variable {s : Schema}

theorem mono
    (h : s.SettledThroughout table v n)
    (hLe : n ≤ m) :
    s.SettledThroughout table v m :=
  fun p t hWay c hc => (h p t hWay c hc).mono hLe

/- A node and all that is below it have a common bound. -/
theorem of_children
    (hTop : ∀ c ∈ s.calls v, Settled table n c.1 c.2)
    (hBelow : ∀ child ∈ s.children,
      child.2.SettledThroughout table v n) :
    s.SettledThroughout table v n := by
  intro p t hWay c hc
  cases hWay with
  | here => exact hTop c hc
  | down hChild hRest => exact hBelow _ hChild _ t hRest c hc

/- If every call is settled, all are so within one bound. -/
theorem exists_bound
    (h : ∀ p t, s.Way p t → ∀ c ∈ t.calls v,
      ∃ n, Settled table n c.1 c.2) :
    ∃ n, s.SettledThroughout table v n := by
  induction s using children_induct with
  | step s ih =>
      have hChildren : ∀ child ∈ s.children,
          ∃ n, child.2.SettledThroughout table v n := by
        intro child hChild
        refine ih child hChild fun p t hWay => ?_
        exact h _ t (.down hChild hWay)
      rcases Settled.exists_bound (h .straight s .here) with
        ⟨n, hTop⟩
      rcases exists_common_bound
          (fun n (child : Passage × Schema) =>
            child.2.SettledThroughout table v n)
          (fun _ _ _ hWithin hLe => hWithin.mono hLe)
          hChildren with
        ⟨m, hBelow⟩
      refine ⟨max n m, of_children (fun c hc => ?_)
        fun child hChild => ?_⟩
      · exact (hTop c hc).mono (Nat.le_max_left n m)
      · exact (hBelow child hChild).mono (Nat.le_max_right n m)

end Schema.SettledThroughout

/- One bound is enough for all nodes of a guarded table. -/
theorem Guarded.exists_bound
    {table : List (String × Schema)}
    (h : Guarded table)
    (v : Value) :
    ∃ n, ∀ s : Schema, s.NodeOf table → ∀ c ∈ s.calls v,
      Settled table n c.1 c.2 := by
  have hEach : ∀ e ∈ table,
      ∃ n, e.2.SettledThroughout table v n := by
    intro e he
    refine Schema.SettledThroughout.exists_bound
      fun p t hWay c hc => ?_
    exact h.settles_calls ⟨e, he, p, hWay⟩ hc
  rcases exists_common_bound
      (fun n (e : String × Schema) =>
        e.2.SettledThroughout table v n)
      (fun _ _ _ hWithin hLe => hWithin.mono hLe) hEach with
    ⟨n, hBound⟩
  refine ⟨n, ?_⟩
  rintro s ⟨e, he, p, hWay⟩
  exact hBound e he p s hWay

------------------------------------------------------------
-- Termination
------------------------------------------------------------

/-
  Tables that are the same up to the properties that lazy
  nodes follow have the same nodes up to these.
-/
theorem Schema.NodeOf.exists_unfollowed_eq
    {table table' : List (String × Schema)}
    {s : Schema}
    (h : s.NodeOf table)
    (hSame : unfollowedEntries table =
      unfollowedEntries table') :
    ∃ t : Schema, t.NodeOf table' ∧
      t.unfollowed = s.unfollowed := by
  rcases h with ⟨e, he, p, hWay⟩
  have hMem : (e.1, e.2.unfollowed) ∈
      unfollowedEntries table' := by
    rw [← hSame, unfollowedEntries_eq_map]
    exact List.mem_map.mpr ⟨e, he, rfl⟩
  rw [unfollowedEntries_eq_map] at hMem
  rcases List.mem_map.mp hMem with ⟨e', he', hEq⟩
  rcases hWay.exists_unfollowed_eq (Prod.mk.inj hEq).2 with
    ⟨t, hWay', hNode⟩
  exact ⟨t, ⟨e', he', p, hWay'⟩, hNode⟩

/-
  The check of a value against a node of a guarded table
  ends. A number of unfoldings that depends on the table and
  the value alone suffices, for every node and whatever
  properties the lazy nodes follow, and the outcome stays
  the same if more are allowed. A compiled schema needs no
  unfolding at all, in whatever table it is checked.
-/
theorem Schema.validate_ends_of_guarded :
    (∀ table, Guarded table → ∀ v, ∃ n, ∀ table',
        unfollowedEntries table' = unfollowedEntries table →
        ∀ s : Schema, s.NodeOf table' →
          ∃ o, ∀ m ≥ n, s.validate table' m v = some o) ∧
      ∀ registry definition path schema,
        Definition.compile registry definition path =
            .ok schema →
          ∀ v, ∃ o, schema.verdict? v = some o ∧
            ∀ table m, schema.validate table m v = some o := by
  constructor
  · intro table hGuarded v
    rcases hGuarded.exists_bound v with ⟨n, hBound⟩
    refine ⟨n, fun table' hSame s hNode => ?_⟩
    rcases hNode.exists_unfollowed_eq hSame with
      ⟨t, hOther, hSchema⟩
    refine judge_stable fun c hc => ?_
    rw [← calls_unfollowed, ← hSchema, calls_unfollowed] at hc
    exact ((hBound t hOther c hc).of_unfollowed_eq
      hSame).namedJudge_stable
  · intro registry definition path schema hCompile v
    have hClosed : schema.Closed :=
      Definition.closed_of_compile_eq_ok hCompile
    rcases hClosed.verdict?_total v with ⟨o, hOutcome⟩
    refine ⟨o, hOutcome, fun table m => ?_⟩
    rw [← hOutcome]
    exact judge_eq_of_calls fun c hc =>
      absurd hc (hClosed.not_mem_calls c)

------------------------------------------------------------
-- A Guarded Table
------------------------------------------------------------

/-
  Trees whose branches are trees again or null. A mapping
  takes the tree at the root out of what stands around it.
  All lazy nodes follow the same property, if any.
-/
def forest
    (followed : Option String) : List (String × Schema) :=
  let tree := .node {} (.lazy (.named "tree") followed)
  let branch := .node {} (.lazy (.named "branch") followed)
  [("tree",
      Schema.object.property "branches"
        (Schema.array.setItems branch)),
    ("branch", .nullable tree),
    ("root", .mapped tree fun v => .ok (v.get "tree"))]

/- Each schema of the forest refers to one other. -/
theorem forest_refers
    {followed : Option String}
    {e : String × Schema}
    {next : String}
    {p : Passage}
    (hEntry : e ∈ forest followed)
    (hRefers : e.2.Refers next p) :
    (e.1 = "tree" ∧ next = "branch" ∧ p = .part) ∨
      (e.1 = "branch" ∧ next = "tree" ∧ p = .straight) ∨
      (e.1 = "root" ∧ next = "tree" ∧ p = .image) := by
  simp only [forest, List.mem_cons, List.not_mem_nil,
    or_false] at hEntry
  rcases hEntry with rfl | rfl | rfl
  · rcases (Schema.refers_iff_of_only_child rfl).mp hRefers
      with ⟨_, hItem, rfl⟩
    rcases (Schema.refers_iff_of_only_child rfl).mp hItem
      with ⟨_, hLazy, rfl⟩
    rcases Schema.refers_named_iff.mp hLazy with ⟨rfl, rfl⟩
    exact Or.inl ⟨rfl, rfl, rfl⟩
  · rcases (Schema.refers_iff_of_only_child rfl).mp hRefers
      with ⟨_, hLazy, rfl⟩
    rcases Schema.refers_named_iff.mp hLazy with ⟨rfl, rfl⟩
    exact Or.inr (Or.inl ⟨rfl, rfl, rfl⟩)
  · rcases (Schema.refers_iff_of_only_child rfl).mp hRefers
      with ⟨_, hLazy, rfl⟩
    rcases Schema.refers_named_iff.mp hLazy with ⟨rfl, rfl⟩
    exact Or.inr (Or.inr ⟨rfl, rfl, rfl⟩)

/-
  Only the root is mapped and nothing leads to it. All ways
  take the value apart unless they lead to the tree first.
-/
theorem forest_reaches
    {followed : Option String}
    {name last : String}
    {p : Passage}
    (h : Reaches (forest followed) name last p) :
    last ≠ "root" ∧ (name ≠ "root" → p.mapped = false) ∧
      (p.inward = true ∨ last = "tree" ∧ name ≠ "tree") := by
  induction h with
  | one hEntry hRefers =>
      rcases forest_refers (Fields.mem_of_lookup hEntry) hRefers
        with ⟨rfl, rfl, rfl⟩ | ⟨rfl, rfl, rfl⟩ |
          ⟨rfl, rfl, rfl⟩ <;>
        simp [Passage.part, Passage.straight, Passage.image]
  | more hEntry hRefers _ ih =>
      rcases ih with ⟨hLast, hMapped, hInward⟩
      refine ⟨hLast, ?_⟩
      rcases forest_refers (Fields.mem_of_lookup hEntry) hRefers
        with ⟨rfl, rfl, rfl⟩ | ⟨rfl, rfl, rfl⟩ |
          ⟨rfl, rfl, rfl⟩
      · exact ⟨fun _ => hMapped (by decide), Or.inl rfl⟩
      · refine ⟨fun _ => hMapped (by decide), ?_⟩
        exact hInward.imp_right fun h => ⟨h.1, by decide⟩
      · refine ⟨fun hRoot => absurd rfl hRoot, ?_⟩
        exact hInward.imp_right fun h => ⟨h.1, by decide⟩

theorem guarded_forest
    (followed : Option String) :
    Guarded (forest followed) where
  defined := by
    intro e he name p hRefers
    rcases forest_refers he hRefers with
      ⟨_, rfl, _⟩ | ⟨_, rfl, _⟩ | ⟨_, rfl, _⟩ <;>
      exact ⟨_, rfl⟩
  inward := by
    intro name p hCycle
    rcases (forest_reaches hCycle).2.2 with
      hInward | ⟨hTree, hNot⟩
    · exact hInward
    · exact absurd hTree hNot
  unmapped := by
    intro name p hCycle
    rcases forest_reaches hCycle with ⟨hLast, hMapped, _⟩
    exact hMapped hLast

/- A lazy definition that follows a property. -/
def followingDefinition : Json :=
  .object
    [ ("propertyName", .string "next"),
      ("schema", .object [("type", .string "object")]),
      ("type", .string "lazy") ]

/-
  A tree of two levels is checked with some number of
  unfoldings, which is the same where the lazy nodes follow
  a property. A schema that does is compiled as well.
-/
theorem Schema.validate_ends_of_guarded_forest :
    (∃ n, ∀ s : Schema, s.NodeOf (forest (some "next")) →
      ∃ o, ∀ m ≥ n,
        s.validate (forest (some "next")) m
            (.object [("branches",
              .array [.object [("branches", .array [])],
                .null])]) =
          some o) ∧
      ∃ schema,
        Definition.compile Registry.usual followingDefinition
            "chain" =
          .ok schema ∧
        ∀ v, ∃ o, schema.verdict? v = some o ∧
          ∀ table m, schema.validate table m v = some o := by
  constructor
  · rcases validate_ends_of_guarded.1 (forest none)
        (guarded_forest none)
        (.object [("branches",
          .array [.object [("branches", .array [])], .null])])
      with ⟨n, hBound⟩
    exact ⟨n, hBound (forest (some "next")) rfl⟩
  · exact ⟨_, rfl,
      validate_ends_of_guarded.2 Registry.usual
        followingDefinition "chain" _ rfl⟩

end Conform
