import Conform.Json

/-
  This file takes definitions apart. A definition is an
  object, and the definitions inside it are the contents of
  its fields and of the lists and mappings in its fields.
  What is made of a definition is put together from its
  fields and from what is made of the definitions inside it.

  Key definitions include:
    * `Definition.Parts`
    * `Definition.fold`
    * `Definition.partsOf`
    * `Definition.fold_object`
-/

namespace Conform

namespace Definition

/-
  A definition as it is seen from outside: the fields, and
  for the fields that may hold definitions what is made of
  these. A list or a mapping of definitions is `none` if the
  field holds something else.
-/
structure Parts (β : Type) where
  fields : List (String × Json)
  child? : String → Option β
  children? : String → Option (Option (List β))
  members? : String → Option (Option (List (String × β)))

section

variable {β : Type}

mutual

/-
  Puts together what is made of a definition. Data that is
  no definition stands for something fixed.
-/
def fold
    (node : Parts β → β)
    (other : β) : Json → β
  | .object fields =>
      node {
        fields := fields
        child? := childAt node other fields
        children? := childrenAt node other fields
        members? := membersAt node other fields
      }
  | .null => other
  | .bool _ => other
  | .int _ => other
  | .float _ => other
  | .string _ => other
  | .array _ => other

/- What is made of the definition that a field holds. -/
def childAt
    (node : Parts β → β)
    (other : β) :
    List (String × Json) → String → Option β
  | [], _ => none
  | (n, j) :: rest, name =>
      if name = n then some (fold node other j)
      else childAt node other rest name

/- What is made of the definitions in a list. -/
def foldItems
    (node : Parts β → β)
    (other : β) : List Json → List β
  | [] => []
  | j :: rest =>
      fold node other j :: foldItems node other rest

/- What is made of the definitions in a mapping. -/
def foldMembers
    (node : Parts β → β)
    (other : β) :
    List (String × Json) → List (String × β)
  | [] => []
  | (n, j) :: rest =>
      (n, fold node other j) :: foldMembers node other rest

/- What is made of the list that a field holds. -/
def childrenAt
    (node : Parts β → β)
    (other : β) :
    List (String × Json) → String → Option (Option (List β))
  | [], _ => none
  | (n, .array items) :: rest, name =>
      if name = n then some (some (foldItems node other items))
      else childrenAt node other rest name
  | (n, _) :: rest, name =>
      if name = n then some none
      else childrenAt node other rest name

/- What is made of the mapping that a field holds. -/
def membersAt
    (node : Parts β → β)
    (other : β) :
    List (String × Json) → String →
      Option (Option (List (String × β)))
  | [], _ => none
  | (n, .object members) :: rest, name =>
      if name = n then
        some (some (foldMembers node other members))
      else membersAt node other rest name
  | (n, _) :: rest, name =>
      if name = n then some none
      else membersAt node other rest name

end

/- The parts of a definition, given what is made of data. -/
def partsOf
    (make : Json → β)
    (fields : List (String × Json)) : Parts β where
  fields := fields
  child? name := (fields.lookup name).map make
  children? name :=
    (fields.lookup name).map fun j => j.asArray?.map (List.map make)
  members? name :=
    (fields.lookup name).map fun j =>
      j.asObject?.map (List.map fun m => (m.1, make m.2))

@[simp]
theorem partsOf_fields
    (make : Json → β)
    (fields : List (String × Json)) :
    (partsOf make fields).fields = fields := rfl

section

variable (node : Parts β → β)
variable (other : β)

theorem foldItems_eq_map
    (items : List Json) :
    foldItems node other items =
      items.map (fold node other) := by
  induction items with
  | nil => simp [foldItems]
  | cons j rest ih => simp [foldItems, ih]

theorem foldMembers_eq_map
    (members : List (String × Json)) :
    foldMembers node other members =
      members.map fun m => (m.1, fold node other m.2) := by
  induction members with
  | nil => simp [foldMembers]
  | cons m rest ih =>
      rcases m with ⟨name, j⟩
      simp [foldMembers, ih]

theorem childAt_eq
    (fields : List (String × Json))
    (name : String) :
    childAt node other fields name =
      (partsOf (fold node other) fields).child? name := by
  induction fields with
  | nil => simp [childAt, partsOf]
  | cons field rest ih =>
      rcases field with ⟨n, j⟩
      by_cases hName : name = n
      · simp [childAt, partsOf, hName]
      · simpa [childAt, partsOf, hName,
          Fields.lookup_cons_of_ne hName] using ih

theorem childrenAt_eq
    (fields : List (String × Json))
    (name : String) :
    childrenAt node other fields name =
      (partsOf (fold node other) fields).children? name := by
  induction fields with
  | nil => simp [childrenAt, partsOf]
  | cons field rest ih =>
      rcases field with ⟨n, j⟩
      by_cases hName : name = n
      · cases j <;>
          simp [childrenAt, partsOf, hName, Json.asArray?,
            foldItems_eq_map]
      · cases j <;>
          simpa [childrenAt, partsOf, hName,
            Fields.lookup_cons_of_ne hName] using ih

theorem membersAt_eq
    (fields : List (String × Json))
    (name : String) :
    membersAt node other fields name =
      (partsOf (fold node other) fields).members? name := by
  induction fields with
  | nil => simp [membersAt, partsOf]
  | cons field rest ih =>
      rcases field with ⟨n, j⟩
      by_cases hName : name = n
      · cases j <;>
          simp [membersAt, partsOf, hName, Json.asObject?,
            foldMembers_eq_map]
      · cases j <;>
          simpa [membersAt, partsOf, hName,
            Fields.lookup_cons_of_ne hName] using ih

/- What is made of an object is made of its parts. -/
theorem fold_object
    (fields : List (String × Json)) :
    fold node other (.object fields) =
      node (partsOf (fold node other) fields) := by
  have hChild : childAt node other fields =
      (partsOf (fold node other) fields).child? :=
    funext (childAt_eq node other fields)
  have hChildren : childrenAt node other fields =
      (partsOf (fold node other) fields).children? :=
    funext (childrenAt_eq node other fields)
  have hMembers : membersAt node other fields =
      (partsOf (fold node other) fields).members? :=
    funext (membersAt_eq node other fields)
  rw [fold, hChild, hChildren, hMembers]
  rfl

/- What is made of any other data is fixed. -/
theorem fold_other
    {j : Json}
    (h : ∀ fields, j ≠ .object fields) :
    fold node other j = other := by
  cases j with
  | object fields => exact absurd rfl (h fields)
  | _ => rfl

end

end

end Definition

end Conform
