import Conform.Value
import Conform.Json.Printer
import Conform.Instant.Timestamp

/-
  This file writes values: as JSON data, and as the text
  that messages show.

  Key definitions include:
    * `Number.toJson`
    * `Value.toJson`
    * `Value.display`
-/

namespace Conform

/-
  A number as JSON data. Whole numbers below `2^53` in size
  are integers. JSON has no infinities, and null takes the
  place of what is not a number.
-/
def Number.toJson
    (x : Number) : Json :=
  match x.exactInt?, x with
  | some i, _ => .int i
  | none, .finite _ _ => .float x
  | none, _ => .null

namespace Value

mutual

/-
  A value as JSON data. Both absent values become null, and
  an instant becomes its timestamp.
-/
def toJson : Value → Json
  | undefined => .null
  | null => .null
  | bool b => .bool b
  | number x => x.toJson
  | string s => .string s
  | date t => .string t.timestamp
  | array items => .array (toItems items)
  | object fields => .object (toMembers fields)

/- Several values as data. -/
def toItems : List Value → List Json
  | [] => []
  | v :: rest => toJson v :: toItems rest

/- Several fields as members. -/
def toMembers : List (String × Value) → List (String × Json)
  | [] => []
  | (name, v) :: rest => (name, toJson v) :: toMembers rest

end

/-
  The text of a value in a message. Strings stand without
  quotation marks, and numbers are positional; arrays and
  objects are shown as JSON text.
-/
def display : Value → String
  | undefined => "undefined"
  | null => "null"
  | bool b => if b then "true" else "false"
  | number x => x.positional
  | string s => s
  | date t => t.timestamp
  | array items => (Json.array (toItems items)).render
  | object fields => (Json.object (toMembers fields)).render

end Value

end Conform
