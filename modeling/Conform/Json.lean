import Conform.Fields
import Conform.Number

/-
  This file defines JSON data. Integers and fractions are
  told apart, because `2` can be a length and `2.0` cannot,
  and the members of an object are kept in order of name.

  Key definitions include:
    * `Json`
    * `Json.asString?`
    * `Json.asBool?`
    * `Json.asNumber?`
    * `Json.asLength?`
    * `Json.asArray?`
    * `Json.asObject?`
    * `Json.field?`
-/

namespace Conform

/- JSON data. -/
inductive Json
  | null
  | bool (b : Bool)
  | int (i : Int)
  | float (x : Number)
  | string (s : String)
  | array (items : List Json)
  | object (members : List (String × Json))

namespace Json

instance : Inhabited Json :=
  ⟨null⟩

/- The text that a string holds. -/
def asString? : Json → Option String
  | string s => some s
  | _ => none

/- The truth value that a Boolean holds. -/
def asBool? : Json → Option Bool
  | bool b => some b
  | _ => none

/- The number nearest to an integer or a fraction. -/
def asNumber? : Json → Option Number
  | int i => some (Number.ofInt i)
  | float x => some x
  | _ => none

/- The first whole number that is too large for a length. -/
def lengthLimit : Nat :=
  Nat.pow 2 64

/- The length that an integer gives. -/
def asLength? : Json → Option Nat
  | int i =>
      if 0 ≤ i ∧ i.toNat < lengthLimit then some i.toNat
      else none
  | _ => none

/- The items of an array. -/
def asArray? : Json → Option (List Json)
  | array items => some items
  | _ => none

/- The members of an object. -/
def asObject? : Json → Option (List (String × Json))
  | object members => some members
  | _ => none

/- The member of an object with a given name. -/
def field?
    (name : String)
    (j : Json) : Option Json :=
  j.asObject?.bind (List.lookup name)

end Json

end Conform
