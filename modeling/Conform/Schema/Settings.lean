import Conform.Outcome
import Conform.Schema.Problem

/-
  This file defines the settings that every node of a schema
  has: whether a value may be null or may be missing, a
  message for a value that may not, and custom rules.

  Key definitions include:
    * `Rule`
    * `Settings`
    * `Settings.complaints`
    * `Settings.refuse`
    * `Settings.presence?`
-/

namespace Conform

/- A custom condition with the message for its failure. -/
structure Rule where
  holds : Value → Bool
  message : String

/- The settings of a node. -/
structure Settings where
  nullable : Bool := false
  required : Bool := true
  message : Option String := none
  rules : List Rule := []

namespace Settings

/- The messages of the rules that a value breaks, in order. -/
def complaints
    (s : Settings)
    (v : Value) : List String :=
  (s.rules.filter fun r => !r.holds v).map Rule.message

/-
  The outcome for an absent value that may not be absent. A
  message of the node's own takes the place of the usual
  one.
-/
def refuse
    (s : Settings)
    (p : Problem) : Outcome :=
  Outcome.ofErrors [s.message.getD p.text]

/-
  The outcome that the settings alone decide. It exists for
  the absent values, which no rule ever sees.
-/
def presence?
    (s : Settings) : Value → Option Outcome
  | .undefined =>
      some (if s.required then s.refuse .required
        else Outcome.valid)
  | .null =>
      some (if s.nullable then Outcome.valid
        else s.refuse .isNull)
  | _ => none

end Settings

end Conform
