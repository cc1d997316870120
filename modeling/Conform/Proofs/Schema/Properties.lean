import Conform.Proofs.Schema.Calls
import Conform.Proofs.Schema.Declaration
import Conform.Proofs.Schema.Missing

/-
  What an object node keeps of its declarations, and what it
  reads of a value. The declared properties are a map in the
  order of the first declarations, with the children of the
  last ones. Of an object the node reads nothing but the
  declared properties, each as it is looked up, so that a
  property that is missing and one that is undefined are the
  same to it.

  Main declarations:
    * `Schema.objectOf`
    * `Schema.properties`
    * `Schema.judgeWithin_object_congr`
    * `Schema.objectLaws`
-/

namespace Conform

------------------------------------------------------------
-- Looking Properties Up
------------------------------------------------------------

namespace Value

/- Setting a field changes no other property. -/
theorem get_insert_of_ne
    {name other : String}
    (hOther : other ≠ name)
    (v : Value)
    (fields : List (String × Value)) :
    (object (Fields.insert name v fields)).get other =
      (object fields).get other := by
  rw [get, get, Fields.lookup_insert_of_ne hOther]

/- A missing field may as well be undefined. -/
theorem get_insert_undefined
    {name : String}
    {fields : List (String × Value)}
    (hMissing : fields.lookup name = none)
    (other : String) :
    (object (Fields.insert name undefined fields)).get other =
      (object fields).get other := by
  by_cases hOther : other = name
  · subst hOther
    rw [get, get, Fields.lookup_insert_self, hMissing]
    rfl
  · exact get_insert_of_ne hOther undefined fields

end Value

/- A property is all that its check reads of a value. -/
theorem Slot.errors?_congr
    {slot : Slot}
    {v w : Value}
    (h : v.get slot.name = w.get slot.name) :
    slot.errors? v = slot.errors? w := by
  rw [errors?, errors?, h]

namespace Schema

------------------------------------------------------------
-- Object Nodes
------------------------------------------------------------

/- An object node whose properties are declared in turn. -/
def objectOf
    (s : Settings)
    (declarations : List (String × Schema)) : Schema :=
  (declarations.foldl (fun c p => c.property p.1 p.2)
    object).mapSettings fun _ => s

/- The properties that a node declares, in order. -/
def properties : Schema → List (String × Schema)
  | node _ (.object declared) => declared
  | _ => []

theorem objectOf_eq
    (s : Settings)
    (declarations : List (String × Schema)) :
    objectOf s declarations =
      node s (.object (declareAll declarations)) := by
  rw [objectOf, foldl_property_object]
  rfl

section

variable {resolve : String → Option Schema}
variable {unfoldings : Nat}
variable {s : Settings}
variable {declared : List (String × Schema)}
variable {a b : List (String × Value)}

/-
  Objects with the same declared properties are checked in
  the same way if they break the same rules of the node.
-/
theorem judgeWithin_object_congr
    (hComplaints :
      s.complaints (.object a) = s.complaints (.object b))
    (hGet : ∀ p ∈ declared,
      (Value.object a).get p.1 = (Value.object b).get p.1) :
    (node s (.object declared)).judgeWithin resolve unfoldings
        (.object a) =
      (node s (.object declared)).judgeWithin resolve unfoldings
        (.object b) := by
  rw [judgeWithin_object, judgeWithin_object, hComplaints]
  congr 1
  exact gather_congr fun p hp => Slot.errors?_congr (hGet p hp)

/- Without rules there is nothing else that a node reads. -/
theorem judgeWithin_object_of_get_eq
    (hRules : s.rules = [])
    (hGet : ∀ p ∈ declared,
      (Value.object a).get p.1 = (Value.object b).get p.1) :
    (node s (.object declared)).judgeWithin resolve unfoldings
        (.object a) =
      (node s (.object declared)).judgeWithin resolve unfoldings
        (.object b) := by
  refine judgeWithin_object_congr ?_ hGet
  rw [Settings.complaints, Settings.complaints, hRules]
  rfl

end

------------------------------------------------------------
-- Laws
------------------------------------------------------------

/-
  What holds of an object node with given declarations:
    * its properties are the declared names in the order in
      which they were declared first, each of them once;
    * the child of a name is that of its last declaration;
    * objects in which every declared property reads the
      same have the same outcome, if there are no rules;
    * hence a field that is not declared has no influence;
    * nor does it matter whether a field is missing or holds
      the undefined value.
-/
structure ObjectLaws
    (resolve : String → Option Schema)
    (unfoldings : Nat)
    (s : Settings)
    (declarations : List (String × Schema)) : Prop where
  names :
    (objectOf s declarations).properties.map Prod.fst =
      (declarations.map Prod.fst).eraseDups
  once :
    ((objectOf s declarations).properties.map Prod.fst).Nodup
  children :
    ∀ name child,
      (name, child) ∈ (objectOf s declarations).properties ↔
        LastDeclares declarations name child
  reads :
    s.rules = [] →
      ∀ a b,
        (∀ p ∈ (objectOf s declarations).properties,
          (Value.object a).get p.1 =
            (Value.object b).get p.1) →
        (objectOf s declarations).judgeWithin resolve unfoldings
            (.object a) =
          (objectOf s declarations).judgeWithin resolve
            unfoldings (.object b)
  undeclared :
    s.rules = [] →
      ∀ fields name,
        name ∉ declarations.map Prod.fst →
        ∀ v,
          (objectOf s declarations).judgeWithin resolve
              unfoldings
              (.object (Fields.insert name v fields)) =
            (objectOf s declarations).judgeWithin resolve
              unfoldings (.object fields)
  undefined :
    s.rules = [] →
      ∀ fields name,
        fields.lookup name = none →
        (objectOf s declarations).judgeWithin resolve
            unfoldings
            (.object
              (Fields.insert name .undefined fields)) =
          (objectOf s declarations).judgeWithin resolve
            unfoldings (.object fields)

/- Object nodes obey the laws. -/
theorem objectLaws
    (resolve : String → Option Schema)
    (unfoldings : Nat)
    (s : Settings)
    (declarations : List (String × Schema)) :
    ObjectLaws resolve unfoldings s declarations := by
  constructor <;> rw [objectOf_eq]
  case names => exact names_declareAll declarations
  case once => exact nodup_declareAll declarations
  case children =>
    intro name child
    exact mem_declareAll_iff
  case reads =>
    intro hRules a b hGet
    exact judgeWithin_object_of_get_eq hRules hGet
  case undeclared =>
    intro hRules fields name hName v
    refine judgeWithin_object_of_get_eq hRules fun p hp => ?_
    refine Value.get_insert_of_ne ?_ v fields
    rintro rfl
    exact hName
      (List.mem_map_of_mem (mem_of_mem_declareAll hp))
  case undefined =>
    intro hRules fields name hMissing
    exact judgeWithin_object_of_get_eq hRules fun p _ =>
      Value.get_insert_undefined hMissing p.1

/- A name, a size, and the name again, now as a number. -/
def renumbered : List (String × Schema) :=
  [("id", string), ("size", number), ("id", number)]

/-
  The name keeps its place and is a number. A note is not
  seen, and that the size is undefined is the same as that
  it is missing.
-/
theorem objectLaws_renumbered :
    (objectOf {} renumbered).properties.map Prod.fst =
        ["id", "size"] ∧
      ("id", number) ∈ (objectOf {} renumbered).properties ∧
      (objectOf {} renumbered).verdict?
          (.object [("id", .null), ("note", .null)]) =
        (objectOf {} renumbered).verdict?
          (.object [("id", .null), ("size", .undefined)]) ∧
      (objectOf {} renumbered).verdict?
          (.object [("id", .null), ("note", .null)]) =
        some (Outcome.ofErrors
          [ "Validation failed for property 'id': " ++
              "Value cannot be null.",
            "Validation failed for property 'size': " ++
              "Property is missing." ]) := by
  have hLaws := objectLaws (fun _ => none) 0 {} renumbered
  have hNames :
      (objectOf {} renumbered).properties.map Prod.fst =
        ["id", "size"] :=
    hLaws.names
  refine ⟨hNames, ?_, ?_, rfl⟩
  · refine (hLaws.children "id" number).mpr ?_
    exact ⟨[("id", string), ("size", number)], [], rfl, nofun⟩
  · refine hLaws.reads rfl _ _ fun p hp => ?_
    have hName : p.1 ∈ ["id", "size"] := by
      rw [← hNames]
      exact List.mem_map_of_mem hp
    rcases List.mem_pair.mp hName with hId | hSize
    · rw [hId]
      rfl
    · rw [hSize]
      rfl

end Schema

end Conform
