import Conform.Schema.Build

/-
  Objects with several properties. A name that is declared
  again keeps its place and gets the new child, so that of
  several properties of one name the place is that of the
  first and the child that of the last.

  Main declarations:
    * `Schema.declareAll`
    * `Schema.foldl_property_object`
    * `Schema.mem_of_mem_declareAll`
    * `Schema.lookup_declareAll`
    * `Schema.nodup_declareAll`
    * `Schema.names_declareAll`
    * `Schema.LastDeclares`
    * `Schema.mem_declareAll_iff`
-/

namespace Conform

namespace Schema

------------------------------------------------------------
-- One Property
------------------------------------------------------------

section

variable {name : String}
variable {child : Schema}

/- What is declared is the new property or an earlier one. -/
theorem eq_or_mem_of_mem_declare
    {p : String × Schema}
    {properties : List (String × Schema)}
    (h : p ∈ declare name child properties) :
    p = (name, child) ∨ p ∈ properties := by
  induction properties with
  | nil => exact Or.inl (List.mem_singleton.mp h)
  | cons q rest ih =>
      rw [declare] at h
      split at h
      · rcases List.mem_cons.mp h with hNew | hRest
        · exact Or.inl hNew
        · exact Or.inr (List.mem_cons_of_mem q hRest)
      · rcases List.mem_cons.mp h with hHead | hRest
        · exact Or.inr (hHead ▸ List.mem_cons_self)
        · exact (ih hRest).imp_right (List.mem_cons_of_mem q)

/- A declared name has the child that was declared last. -/
theorem lookup_declare
    (properties : List (String × Schema))
    (n : String) :
    (declare name child properties).lookup n =
      if n = name then some child
      else properties.lookup n := by
  induction properties with
  | nil =>
      by_cases hName : n = name <;>
        simp [declare, hName, Fields.lookup_cons_of_ne]
  | cons p rest ih =>
      rcases p with ⟨m, s⟩
      by_cases hDeclared : m = name
      · subst hDeclared
        by_cases hName : n = m <;>
          simp [declare, hName, Fields.lookup_cons_of_ne]
      · by_cases hHead : n = m
        · simp [declare, hDeclared, hHead]
        · simp [declare, hDeclared,
            Fields.lookup_cons_of_ne hHead, ih]

/- No name is declared twice. -/
theorem nodup_declare
    {properties : List (String × Schema)}
    (h : (properties.map Prod.fst).Nodup) :
    ((declare name child properties).map Prod.fst).Nodup := by
  induction properties with
  | nil => simp [declare]
  | cons p rest ih =>
      rcases List.nodup_cons.mp h with ⟨hHead, hRest⟩
      rw [declare]
      split
      · rename_i hName
        rw [← hName]
        exact h
      · rename_i hName
        refine List.nodup_cons.mpr ⟨fun hMember => ?_, ih hRest⟩
        rcases List.mem_map.mp hMember with ⟨q, hq, hSame⟩
        rcases eq_or_mem_of_mem_declare hq with rfl | hOld
        · exact hName hSame.symm
        · exact hHead (List.mem_map.mpr ⟨q, hOld, hSame⟩)

/- Only a new name is added, behind the ones before it. -/
theorem names_declare
    (properties : List (String × Schema)) :
    (declare name child properties).map Prod.fst =
      if name ∈ properties.map Prod.fst then
        properties.map Prod.fst
      else properties.map Prod.fst ++ [name] := by
  induction properties with
  | nil => rfl
  | cons p rest ih =>
      by_cases hHead : p.1 = name
      · simp [declare, hHead]
      · have hMember : name ∈ (p :: rest).map Prod.fst ↔
            name ∈ rest.map Prod.fst := by
          rw [List.map_cons, List.mem_cons]
          exact or_iff_right (Ne.symm hHead)
        rw [declare, if_neg hHead, List.map_cons, ih]
        simp only [hMember]
        split <;> rfl

end

------------------------------------------------------------
-- Several Properties
------------------------------------------------------------

/- Declares properties, each after the ones before it. -/
def declareAll
    (properties : List (String × Schema)) :
    List (String × Schema) :=
  properties.foldl (fun ps p => declare p.1 p.2 ps) []

/- An object with several properties has them declared. -/
theorem foldl_property_object
    (properties : List (String × Schema)) :
    properties.foldl (fun s p => s.property p.1 p.2) object =
      node {} (.object (declareAll properties)) := by
  have hFold : ∀ declared,
      properties.foldl (fun s p => s.property p.1 p.2)
          (node {} (.object declared)) =
        node {} (.object
          (properties.foldl (fun ps p => declare p.1 p.2 ps)
            declared)) := by
    induction properties with
    | nil => exact fun _ => rfl
    | cons p rest ih =>
        exact fun declared => ih (declare p.1 p.2 declared)
  exact hFold []

/- All properties that are declared were to be declared. -/
theorem mem_of_mem_declareAll
    {p : String × Schema}
    {properties : List (String × Schema)}
    (h : p ∈ declareAll properties) :
    p ∈ properties := by
  have hFold : ∀ declared,
      p ∈ properties.foldl (fun ps p => declare p.1 p.2 ps)
          declared →
        p ∈ properties ∨ p ∈ declared := by
    clear h
    induction properties with
    | nil => exact fun _ => Or.inr
    | cons q rest ih =>
        intro declared h
        rcases ih _ h with hRest | hDeclared
        · exact Or.inl (List.mem_cons_of_mem q hRest)
        · rcases eq_or_mem_of_mem_declare hDeclared with
            hNew | hOld
          · exact Or.inl (hNew ▸ List.mem_cons_self)
          · exact Or.inr hOld
  exact (hFold [] h).resolve_right List.not_mem_nil

/- Of several properties of one name the last counts. -/
theorem lookup_declareAll
    (properties : List (String × Schema))
    (name : String) :
    (declareAll properties).lookup name =
      properties.reverse.lookup name := by
  have hFold : ∀ declared,
      (properties.foldl (fun ps p => declare p.1 p.2 ps)
          declared).lookup name =
        (properties.reverse.lookup name).or
          (declared.lookup name) := by
    induction properties with
    | nil => exact fun _ => rfl
    | cons p rest ih =>
        intro declared
        rcases p with ⟨n, child⟩
        rw [List.foldl_cons, ih, lookup_declare,
          List.reverse_cons, List.lookup_append,
          Option.or_assoc]
        by_cases hName : name = n <;>
          simp [hName, Fields.lookup_cons_of_ne]
  rw [declareAll, hFold []]
  exact Option.or_none

/- No name is declared twice. -/
theorem nodup_declareAll
    (properties : List (String × Schema)) :
    ((declareAll properties).map Prod.fst).Nodup := by
  have hFold : ∀ declared : List (String × Schema),
      (declared.map Prod.fst).Nodup →
        ((properties.foldl (fun ps p => declare p.1 p.2 ps)
          declared).map Prod.fst).Nodup := by
    induction properties with
    | nil => exact fun _ h => h
    | cons p rest ih => exact fun _ h => ih _ (nodup_declare h)
  exact hFold [] List.nodup_nil

/-
  The names are in the order in which they were declared
  first. The induction is on what is still to be declared,
  and of that only the new names count.
-/
theorem names_declareAll
    (properties : List (String × Schema)) :
    (declareAll properties).map Prod.fst =
      (properties.map Prod.fst).eraseDups := by
  have hFold : ∀ declared : List (String × Schema),
      (properties.foldl (fun ps p => declare p.1 p.2 ps)
          declared).map Prod.fst =
        declared.map Prod.fst ++
          ((properties.map Prod.fst).filter fun n =>
            n ∉ declared.map Prod.fst).eraseDups := by
    induction properties with
    | nil => simp
    | cons p rest ih =>
        intro declared
        rw [List.foldl_cons, ih, names_declare, List.map_cons]
        by_cases hOld : p.1 ∈ declared.map Prod.fst
        · rw [if_pos hOld,
            List.filter_cons_of_neg (by simpa using hOld)]
        · have hLater :
              ((rest.map Prod.fst).filter fun n =>
                  n ∉ declared.map Prod.fst ++ [p.1]) =
                ((rest.map Prod.fst).filter fun n =>
                  n ∉ declared.map Prod.fst).filter
                    fun n => !n == p.1 := by
            rw [List.filter_filter]
            refine List.filter_congr fun n _ => ?_
            rw [Bool.eq_iff_iff]
            simp [and_comm]
          rw [if_neg hOld,
            List.filter_cons_of_pos (by simpa using hOld),
            List.eraseDups_cons, hLater, List.append_assoc]
          rfl
  have hAll : ((properties.map Prod.fst).filter fun n =>
        n ∉ ([] : List (String × Schema)).map Prod.fst) =
      properties.map Prod.fst :=
    List.filter_eq_self.mpr (by simp)
  rw [declareAll, hFold, hAll]
  rfl

/- A name with the child that its last declaration gives it. -/
def LastDeclares
    (properties : List (String × Schema))
    (name : String)
    (child : Schema) : Prop :=
  ∃ before after,
    properties = before ++ (name, child) :: after ∧
      ∀ p ∈ after, p.1 ≠ name

theorem lookup_reverse_eq_some_iff
    {properties : List (String × Schema)}
    {name : String}
    {child : Schema} :
    properties.reverse.lookup name = some child ↔
      LastDeclares properties name child := by
  rw [List.lookup_eq_some_iff]
  constructor
  · rintro ⟨later, earlier, hSplit, hLater⟩
    refine ⟨earlier.reverse, later.reverse, ?_, ?_⟩
    · rw [← List.reverse_reverse properties, hSplit]
      simp
    · intro p hp hName
      have hNe := hLater p (List.mem_reverse.mp hp)
      simp [hName] at hNe
  · rintro ⟨before, after, rfl, hAfter⟩
    refine ⟨after.reverse, before.reverse, by simp, ?_⟩
    intro p hp
    exact bne_iff_ne.mpr
      (Ne.symm (hAfter p (List.mem_reverse.mp hp)))

/- Where no name occurs twice, a look-up finds each pair. -/
theorem lookup_eq_some_iff_mem
    {properties : List (String × Schema)}
    (hNodup : (properties.map Prod.fst).Nodup)
    {name : String}
    {child : Schema} :
    properties.lookup name = some child ↔
      (name, child) ∈ properties := by
  constructor
  · exact Fields.mem_of_lookup
  · intro hMem
    rcases List.append_of_mem hMem with ⟨before, after, rfl⟩
    rw [List.map_append, List.map_cons] at hNodup
    refine List.lookup_eq_some_iff.mpr
      ⟨before, after, rfl, fun p hp => bne_iff_ne.mpr ?_⟩
    have hDistinct := (List.nodup_append.mp hNodup).2.2
    exact Ne.symm (hDistinct p.1 (List.mem_map_of_mem hp) name
      List.mem_cons_self)

/- The child of a name is that of its last declaration. -/
theorem mem_declareAll_iff
    {properties : List (String × Schema)}
    {name : String}
    {child : Schema} :
    (name, child) ∈ declareAll properties ↔
      LastDeclares properties name child := by
  rw [← lookup_eq_some_iff_mem (nodup_declareAll properties),
    lookup_declareAll, lookup_reverse_eq_some_iff]

end Schema

end Conform
