import Conform.Value.Printer

/-
  This file defines the outcome of checking a value: the
  verdict, the errors in the order in which they were found,
  and the value that a mapping produced, if there is one.

  Key definitions include:
    * `Outcome`
    * `Outcome.valid`
    * `Outcome.ofErrors`
    * `Outcome.withValue`
    * `Outcome.mentions`
    * `Outcome.members`
    * `Outcome.render`
-/

namespace Conform

/- The outcome of checking one value. -/
structure Outcome where
  isValid : Bool
  errors : List String
  value : Option Value

namespace Outcome

/- The outcome without errors. -/
def valid : Outcome :=
  ⟨true, [], none⟩

/- The outcome that has the given errors, valid if none. -/
def ofErrors
    (errors : List String) : Outcome :=
  ⟨errors.isEmpty, errors, none⟩

/- An outcome together with a value. -/
def withValue
    (v : Value)
    (o : Outcome) : Outcome :=
  { o with value := some v }

/- A text that occurs somewhere in another. -/
def occursIn
    (needle : List Char) : List Char → Bool
  | [] => needle.isEmpty
  | c :: rest =>
      needle.isPrefixOf (c :: rest) || occursIn needle rest

/- A text that occurs in one of the errors. -/
def mentions
    (needle : String)
    (o : Outcome) : Bool :=
  o.errors.any fun e => occursIn needle.toList e.toList

/-
  An outcome as the members of an object: the verdict, the
  errors, and the value if there is one, in this order.
-/
def members
    (o : Outcome) : List (String × Json) :=
  [ ("isValid", .bool o.isValid),
    ("errors", .array (o.errors.map Json.string)) ] ++
  match o.value with
  | none => []
  | some v => [("value", v.toJson)]

/- An outcome as JSON text. -/
def render
    (o : Outcome) : String :=
  (Json.object o.members).render

end Outcome

end Conform
