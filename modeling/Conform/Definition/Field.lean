import Conform.Json
import Conform.Instant.DateText
import Conform.Definition.Fault

/-
  This file reads the fields of a definition. A field may be
  absent, but a field that is present must hold what is
  expected of it.

  Key definitions include:
    * `Definition.typed`
    * `Definition.present`
    * `Definition.textField`
    * `Definition.flagField`
    * `Definition.numberField`
    * `Definition.lengthField`
    * `Definition.dateField`
    * `Definition.listField`
    * `Definition.requireText`
    * `Definition.requireList`
-/

namespace Conform

namespace Definition

/- The path of a field or of something inside a field. -/
def under
    (path segment : String) : String :=
  path ++ "." ++ segment

/- A field that is read in a given way. -/
def typed
    {α : Type}
    (expected : Expected)
    (read? : Json → Option α)
    (fields : List (String × Json))
    (path name : String) : Except Fault (Option α) :=
  match fields.lookup name with
  | none => .ok none
  | some j =>
      match read? j with
      | some a => .ok (some a)
      | none =>
          .error (.invalid path (.mistyped name expected))

/- A field that must be present. -/
def present
    {α : Type}
    (path name : String) : Option α → Except Fault α
  | some a => .ok a
  | none => .error (.invalid path (.missing name))

/- A field that holds a string. -/
def textField :
    List (String × Json) → String → String →
      Except Fault (Option String) :=
  typed .text Json.asString?

/- A field that holds a truth value. -/
def flagField :
    List (String × Json) → String → String →
      Except Fault (Option Bool) :=
  typed .flag Json.asBool?

/- A field that holds a number. -/
def numberField :
    List (String × Json) → String → String →
      Except Fault (Option Number) :=
  typed .number Json.asNumber?

/- A field that holds a length. -/
def lengthField :
    List (String × Json) → String → String →
      Except Fault (Option Nat) :=
  typed .length Json.asLength?

/- A field that holds a list. -/
def listField :
    List (String × Json) → String → String →
      Except Fault (Option (List Json)) :=
  typed .list Json.asArray?

/- A field that holds a date in one of its written forms. -/
def dateField :
    List (String × Json) → String → String →
      Except Fault (Option Instant) :=
  typed .date fun j => j.asString?.bind Instant.ofText?

/- The string that a field must hold. -/
def requireText
    (fields : List (String × Json))
    (path name : String) : Except Fault String := do
  let text ← textField fields path name
  present path name text

/- The list that a field must hold. -/
def requireList
    (fields : List (String × Json))
    (path name : String) : Except Fault (List Json) := do
  let list ← listField fields path name
  present path name list

end Definition

end Conform
