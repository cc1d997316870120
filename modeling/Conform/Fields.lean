/-
  This file defines fields: names with contents, kept in the
  order of their names. Names are compared character by
  character, and each name occurs once.

  Key definitions include:
    * `Fields.insert`
    * `Fields.ofPairs`
    * `Fields.names`
    * `Fields.Ordered`
-/

namespace Conform

namespace Fields

variable {α : Type}

/- Names in strictly ascending order. -/
def Ordered
    (fields : List (String × α)) : Prop :=
  fields.Pairwise fun a b => a.1 < b.1

/-
  Sets the contents of a name. A name that is present keeps
  its place, and a new name goes to its place in the order.
-/
def insert
    (name : String)
    (contents : α) : List (String × α) → List (String × α)
  | [] => [(name, contents)]
  | field :: rest =>
      if name = field.1 then (name, contents) :: rest
      else if name < field.1 then
        (name, contents) :: field :: rest
      else field :: insert name contents rest

/-
  Pairs put in order one after the other, so that of two
  contents of one name the later wins.
-/
def ofPairs
    (pairs : List (String × α)) : List (String × α) :=
  pairs.foldl (fun fields p => insert p.1 p.2 fields) []

/- The names in order. -/
def names
    (fields : List (String × α)) : List String :=
  fields.map Prod.fst

------------------------------------------------------------
-- Lookup
------------------------------------------------------------

theorem lookup_cons_of_ne
    {name n : String}
    {contents : α}
    {rest : List (String × α)}
    (h : name ≠ n) :
    ((n, contents) :: rest).lookup name = rest.lookup name := by
  have hBeq : (name == n) = false := by simpa using h
  rw [List.lookup_cons, hBeq]

/- What is found under a name is among the fields. -/
theorem mem_of_lookup
    {fields : List (String × α)}
    {name : String}
    {contents : α}
    (h : fields.lookup name = some contents) :
    (name, contents) ∈ fields := by
  rcases List.lookup_eq_some_iff.mp h with
    ⟨before, after, hFields, _⟩
  simp [hFields]

/- What is set for a name is found under it. -/
theorem lookup_insert_self
    (name : String)
    (contents : α)
    (fields : List (String × α)) :
    (insert name contents fields).lookup name =
      some contents := by
  induction fields with
  | nil => exact List.lookup_cons_self
  | cons field rest ih =>
      rw [insert]
      by_cases hName : name = field.1
      · rw [if_pos hName, List.lookup_cons_self]
      · rw [if_neg hName]
        by_cases hLt : name < field.1
        · rw [if_pos hLt, List.lookup_cons_self]
        · rw [if_neg hLt, lookup_cons_of_ne hName, ih]

/- Nothing changes under any other name. -/
theorem lookup_insert_of_ne
    {name other : String}
    (hOther : other ≠ name)
    (contents : α)
    (fields : List (String × α)) :
    (insert name contents fields).lookup other =
      fields.lookup other := by
  induction fields with
  | nil => exact lookup_cons_of_ne hOther
  | cons field rest ih =>
      rcases field with ⟨first, held⟩
      rw [insert]
      by_cases hName : name = first
      · rw [if_pos hName, lookup_cons_of_ne hOther,
          lookup_cons_of_ne (hName ▸ hOther)]
      · rw [if_neg hName]
        by_cases hLt : name < first
        · rw [if_pos hLt, lookup_cons_of_ne hOther]
        · rw [if_neg hLt, List.lookup_cons, List.lookup_cons,
            ih]

------------------------------------------------------------
-- Order
------------------------------------------------------------

theorem ordered_nil : Ordered ([] : List (String × α)) :=
  List.Pairwise.nil

theorem insert_bound
    {name low : String}
    {contents : α}
    {fields : List (String × α)}
    (hName : low < name)
    (hFields : ∀ f ∈ fields, low < f.1) :
    ∀ f ∈ insert name contents fields, low < f.1 := by
  induction fields with
  | nil =>
      intro f hf
      simp only [insert, List.mem_singleton] at hf
      subst hf
      exact hName
  | cons g rest ih =>
      intro f hf
      have hg : low < g.1 := hFields g (by simp)
      have hRest : ∀ f ∈ rest, low < f.1 :=
        fun f h => hFields f (by simp [h])
      unfold insert at hf
      split at hf
      · rcases List.mem_cons.mp hf with h | h
        · subst h
          exact hName
        · exact hRest f h
      · split at hf
        · rcases List.mem_cons.mp hf with h | h
          · subst h
            exact hName
          · rcases List.mem_cons.mp h with h | h
            · subst h
              exact hg
            · exact hRest f h
        · rcases List.mem_cons.mp hf with h | h
          · subst h
            exact hg
          · exact ih hRest f h

/- Insertion keeps the order. -/
theorem ordered_insert
    {name : String}
    {contents : α}
    {fields : List (String × α)}
    (h : Ordered fields) :
    Ordered (insert name contents fields) := by
  induction fields with
  | nil => exact List.pairwise_singleton _ _
  | cons f rest ih =>
      have hHead := (List.pairwise_cons.mp h).1
      have hRest := (List.pairwise_cons.mp h).2
      unfold insert
      split
      · next hEq =>
          subst hEq
          exact List.pairwise_cons.mpr ⟨hHead, hRest⟩
      · next hNe =>
          split
          · next hLt =>
              refine List.pairwise_cons.mpr ⟨?_, h⟩
              intro g hg
              rcases List.mem_cons.mp hg with hg | hg
              · subst hg
                exact hLt
              · exact String.lt_trans hLt (hHead g hg)
          · next hNotLt =>
              refine List.pairwise_cons.mpr ⟨?_, ih hRest⟩
              refine insert_bound ?_ hHead
              have hLe : f.1 ≤ name :=
                String.not_lt.mp hNotLt
              exact Std.lt_of_le_of_ne hLe (Ne.symm hNe)

theorem ordered_foldl
    (pairs : List (String × α))
    {fields : List (String × α)}
    (h : Ordered fields) :
    Ordered
      (pairs.foldl (fun fs p => insert p.1 p.2 fs)
        fields) := by
  induction pairs generalizing fields with
  | nil => exact h
  | cons p rest ih => exact ih (ordered_insert h)

/- Pairs end up in order. -/
theorem ordered_ofPairs
    (pairs : List (String × α)) :
    Ordered (ofPairs pairs) :=
  ordered_foldl pairs ordered_nil

end Fields

end Conform
