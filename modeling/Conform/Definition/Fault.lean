/-
  This file defines why a definition is refused. A fault
  names the place of the definition by a path of the fields
  that lead to it.

  Key definitions include:
    * `Expected`
    * `Flaw`
    * `Fault`
    * `Fault.message`
-/

namespace Conform

/- What a field of a definition has to hold. -/
inductive Expected
  | text
  | flag
  | number
  | length
  | list
  | mapping
  | date
deriving DecidableEq

namespace Expected

/- The words for what a field has to hold. -/
def words : Expected → String
  | text => "a string"
  | flag => "a boolean"
  | number => "a number"
  | length => "a non-negative integer"
  | list => "a list"
  | mapping => "a mapping"
  | date => "an RFC 3339 date"

end Expected

/- What is wrong with a definition by itself. -/
inductive Flaw
  | notMapping
  | missing (field : String)
  | mistyped (field : String) (expected : Expected)
  | unnamedRequirement
deriving DecidableEq

namespace Flaw

/- The message for a flaw. -/
def text : Flaw → String
  | notMapping => "definition must be a mapping"
  | missing field => "missing '" ++ field ++ "'"
  | mistyped field expected =>
      "'" ++ field ++ "' must be " ++ expected.words
  | unnamedRequirement => "'required' entries must be strings"

end Flaw

/- Why the definition at a path is refused. -/
inductive Fault
  | invalid (path : String) (flaw : Flaw)
  | unsupportedType (tag path : String)
  | unknownMapping (name path : String)
deriving DecidableEq

namespace Fault

/- The message for a fault. -/
def message : Fault → String
  | invalid path flaw =>
      "invalid schema definition at " ++ path ++ ": " ++ flaw.text
  | unsupportedType tag path =>
      "unsupported schema type '" ++ tag ++ "' at " ++ path
  | unknownMapping name path =>
      "unknown transform '" ++ name ++ "' at " ++ path

end Fault

end Conform
