import Conform.Instant
import Conform.Json

/-
  This file defines the values that schemas check. They are
  JSON data and more: a value may be an instant, and the
  undefined value stands for one that is not there at all,
  such as a missing property.

  Key definitions include:
    * `Value`
    * `Value.isAbsent`
    * `Value.get`
    * `Value.typeName`
    * `Value.equal`
    * `Value.ofJson`
    * `Value.trail`
-/

namespace Conform

/- A value to check. -/
inductive Value
  | undefined
  | null
  | bool (b : Bool)
  | number (x : Number)
  | string (s : String)
  | date (t : Instant)
  | array (items : List Value)
  | object (fields : List (String × Value))

namespace Value

instance : Inhabited Value :=
  ⟨undefined⟩

------------------------------------------------------------
-- Variants
------------------------------------------------------------

/- The undefined value. -/
def isUndefined : Value → Bool
  | undefined => true
  | _ => false

/- The null value. -/
def isNull : Value → Bool
  | null => true
  | _ => false

/- The two values that mean that nothing is there. -/
def isAbsent : Value → Bool
  | undefined => true
  | null => true
  | _ => false

/- The text of a string. -/
def asString? : Value → Option String
  | string s => some s
  | _ => none

/- The items of an array. -/
def asArray? : Value → Option (List Value)
  | array items => some items
  | _ => none

/- The fields of an object. -/
def asObject? : Value → Option (List (String × Value))
  | object fields => some fields
  | _ => none

/-
  The value of a property. A missing property, and any
  property of a value that is no object, is undefined.
-/
def get
    (name : String)
    (v : Value) : Value :=
  match v with
  | object fields => (fields.lookup name).getD undefined
  | _ => undefined

/- The name of the variant of a value. -/
def typeName : Value → String
  | undefined => "undefined"
  | null => "null"
  | bool _ => "boolean"
  | number _ => "number"
  | string _ => "string"
  | date _ => "date"
  | array _ => "array"
  | object _ => "object"

------------------------------------------------------------
-- Equality
------------------------------------------------------------

mutual

/-
  Equality of values. Numbers are compared as numbers, so
  that the zeros are equal and a value that contains what is
  not a number differs from itself.
-/
def equal : Value → Value → Bool
  | undefined, undefined => true
  | null, null => true
  | bool a, bool b => a == b
  | number a, number b => a.equal b
  | string a, string b => a == b
  | date a, date b => a == b
  | array a, array b => equalItems a b
  | object a, object b => equalFields a b
  | _, _ => false

/- Equality of the items of two arrays. -/
def equalItems : List Value → List Value → Bool
  | [], [] => true
  | a :: as, b :: bs => equal a b && equalItems as bs
  | _, _ => false

/- Equality of the fields of two objects. -/
def equalFields :
    List (String × Value) → List (String × Value) → Bool
  | [], [] => true
  | (m, a) :: as, (n, b) :: bs =>
      m == n && equal a b && equalFields as bs
  | _, _ => false

end

instance : BEq Value :=
  ⟨equal⟩

------------------------------------------------------------
-- Values of JSON Data
------------------------------------------------------------

mutual

/- The value of JSON data. -/
def ofJson : Json → Value
  | .null => null
  | .bool b => bool b
  | .int i => number (Number.ofInt i)
  | .float x => number x
  | .string s => string s
  | .array items => array (ofItems items)
  | .object members => object (ofMembers members)

/- The values of several data. -/
def ofItems : List Json → List Value
  | [] => []
  | j :: rest => ofJson j :: ofItems rest

/- The values of several members. -/
def ofMembers : List (String × Json) → List (String × Value)
  | [] => []
  | (name, j) :: rest => (name, ofJson j) :: ofMembers rest

end

/- Several values from data are the values one by one. -/
theorem ofItems_eq_map
    (items : List Json) :
    ofItems items = items.map ofJson := by
  induction items with
  | nil => rfl
  | cons j rest ih => simp [ofItems, ih]

theorem ofMembers_eq_map
    (members : List (String × Json)) :
    ofMembers members =
      members.map fun m => (m.1, ofJson m.2) := by
  induction members with
  | nil => rfl
  | cons m rest ih => simp [ofMembers, ih]

------------------------------------------------------------
-- Following One Property
------------------------------------------------------------

mutual

/-
  A present value, its property of a given name, the
  property of that name of the latter, and so on, as long as
  a value is present. An absent value has no trail.
-/
def trail
    (name : String) : Value → List Value
  | undefined => []
  | null => []
  | object fields =>
      object fields :: trailFields name fields
  | bool b => [bool b]
  | number x => [number x]
  | string s => [string s]
  | date t => [date t]
  | array items => [array items]

/- The trail of the first field with a given name. -/
def trailFields
    (name : String) : List (String × Value) → List Value
  | [] => []
  | (n, v) :: rest =>
      if name = n then trail name v
      else trailFields name rest

end

/- The trail of the first field is that of the property. -/
theorem trailFields_eq_trail_get
    (name : String)
    (fields : List (String × Value)) :
    trailFields name fields =
      trail name ((object fields).get name) := by
  induction fields with
  | nil => rfl
  | cons field rest ih =>
      rcases field with ⟨n, v⟩
      by_cases hName : name = n
      · subst hName
        simp [trailFields, get]
      · simpa [trailFields, get, hName,
          Fields.lookup_cons_of_ne hName] using ih

theorem trail_of_absent
    (name : String)
    {v : Value}
    (h : v.isAbsent = true) :
    trail name v = [] := by
  cases v with
  | undefined => simp [trail]
  | null => simp [trail]
  | _ => simp [isAbsent] at h

/- A trail goes on with the trail of the property. -/
theorem trail_of_present
    (name : String)
    {v : Value}
    (h : v.isAbsent = false) :
    trail name v = v :: trail name (v.get name) := by
  cases v with
  | undefined => simp [isAbsent] at h
  | null => simp [isAbsent] at h
  | object fields =>
      simp [trail, trailFields_eq_trail_get]
  | _ => simp [trail, get]

end Value

end Conform
