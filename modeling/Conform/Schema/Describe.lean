import Conform.Schema
import Conform.Registry
import Conform.Text.Quoted

/-
  This file describes schemas and registries for people who
  diagnose a problem. A description shows settings and
  names, and never the inside of a function.

  Key definitions include:
    * `Described.record`
    * `Settings.describe`
    * `Schema.describe`
    * `Schema.describeNode?`
    * `Registry.describe`
-/

namespace Conform

------------------------------------------------------------
-- Layout
------------------------------------------------------------

/- A description of a thing by its named parts. -/
def Described.record
    (name : String)
    (parts : List (String × String))
    (complete : Bool) : String :=
  let shown := parts.map fun p => p.1 ++ ": " ++ p.2
  let shown := if complete then shown else shown ++ [".."]
  name ++ " \x7b " ++ String.intercalate ", " shown ++ " \x7d"

/- A truth value. -/
def Described.flag
    (b : Bool) : String :=
  if b then "true" else "false"

------------------------------------------------------------
-- Descriptions
------------------------------------------------------------

/- Describes settings. Rules are counted only. -/
def Settings.describe
    (s : Settings) : String :=
  Described.record "SchemaBase"
    [ ("nullable", Described.flag s.nullable),
      ("required", Described.flag s.required),
      ("message", Text.quotedOption s.message),
      ("validations", toString s.rules.length) ]
    true

namespace Schema

/- Describes a node by its kind and settings. -/
def describe
    (s : Schema) : String :=
  Described.record "Schema"
    [ ("kind", Text.quoted s.kind),
      ("base", s.settings.describe) ]
    true

/- Describes a node with a mapping or a lazy one further. -/
def describeNode? : Schema → Option String
  | node settings (.mapped _ inner) =>
      some (Described.record "TransformSchema"
        [ ("base", settings.describe),
          ("inner", inner.describe) ]
        false)
  | node settings (.lazy _ property) =>
      some (Described.record "LazySchema"
        [ ("base", settings.describe),
          ("property_name", Text.quotedOption property) ]
        false)
  | _ => none

end Schema

/- Describes a registry by the names of its mappings. -/
def Registry.describe
    (r : Registry) : String :=
  Described.record "TransformRegistry"
    [ ("names", Text.quotedList r.names) ]
    true

end Conform
