import Conform.Schema
import Conform.Text.Case

/-
  This file defines the usual mappings and the registry in
  which definitions look mappings up by name.

  Key definitions include:
    * `Mapping.onText`
    * `Mapping.toNumber`
    * `Mapping.toDate`
    * `Registry`
    * `Registry.usual`
-/

namespace Conform

------------------------------------------------------------
-- Usual Mappings
------------------------------------------------------------

namespace Mapping

/- Changes the text of a string and leaves other values. -/
def onText
    (f : String → String) : Mapping
  | .string text => .ok (.string (f text))
  | v => .ok v

/- Removes the blanks around a string. -/
def trim : Mapping :=
  onText Text.trim

/- Turns a string into lower case. -/
def lowercase : Mapping :=
  onText Text.lowercase

/- Turns a string into upper case. -/
def uppercase : Mapping :=
  onText Text.uppercase

/-
  Reads the number that a string denotes, with blanks around
  it allowed. Other values stay as they are.
-/
def toNumber : Mapping
  | .string text =>
      match Number.ofText? (Text.trim text) with
      | some x => .ok (.number x)
      | none => .error ("'" ++ text ++ "' is not a number")
  | v => .ok v

/-
  Reads the instant that a string denotes. Other values stay
  as they are.
-/
def toDate : Mapping
  | .string text =>
      match Instant.ofText? text with
      | some t => .ok (.date t)
      | none => .error ("'" ++ text ++ "' is not a date")
  | v => .ok v

end Mapping

------------------------------------------------------------
-- Registries
------------------------------------------------------------

/- Mappings in order of their names. -/
structure Registry where
  mappings : List (String × Mapping)

namespace Registry

/- The registry without mappings. -/
def empty : Registry :=
  ⟨[]⟩

/- Adds a mapping, in place of another of the same name. -/
def register
    (name : String)
    (mapping : Mapping)
    (r : Registry) : Registry :=
  ⟨Fields.insert name mapping r.mappings⟩

/- The mapping of a name. -/
def find?
    (name : String)
    (r : Registry) : Option Mapping :=
  r.mappings.lookup name

/- A name that has a mapping. -/
def contains
    (name : String)
    (r : Registry) : Bool :=
  (r.find? name).isSome

/- The names of all mappings in order. -/
def names
    (r : Registry) : List String :=
  Fields.names r.mappings

/- The registry of the usual mappings. -/
def usual : Registry :=
  ((((empty.register "trim" .trim).register
    "lowercase" .lowercase).register
    "uppercase" .uppercase).register
    "toNumber" .toNumber).register
    "toDate" .toDate

end Registry

end Conform
