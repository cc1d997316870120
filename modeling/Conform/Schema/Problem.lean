import Conform.Value.Printer

/-
  This file defines what can be wrong with a value, and the
  steps that lead from a value to its parts, each with the
  text that messages use for it.

  Key definitions include:
    * `Problem`
    * `Problem.text`
    * `Step`
    * `Step.text`
-/

namespace Conform

------------------------------------------------------------
-- Problems
------------------------------------------------------------

/- What can be wrong with a value in its own place. -/
inductive Problem
  | required
  | isNull
  | isAbsent
  | notString
  | stringTooShort (least : Nat)
  | stringTooLong (most : Nat)
  | notNumber
  | tooSmall (least : Number)
  | tooLarge (most : Number)
  | notInteger
  | notBoolean
  | notDate
  | tooEarly (earliest : Instant)
  | tooLate (latest : Instant)
  | notListed (allowed : List Value)
  | notLiteral (expected : Value)
  | notObject
  | missingProperty
  | notArray
  | arrayTooShort (least : Nat)
  | arrayTooLong (most : Nat)
  | wrongArity (arity : Nat)
  | noOption
  | mappingFailed (reason : String)

namespace Problem

/- The message for a problem. -/
def text : Problem → String
  | required => "Value is required."
  | isNull => "Value cannot be null."
  | isAbsent => "Value cannot be null or undefined."
  | notString => "Value must be a string."
  | stringTooShort least =>
      "String is too short. Minimum length is " ++
        toString least ++ "."
  | stringTooLong most =>
      "String is too long. Maximum length is " ++
        toString most ++ "."
  | notNumber => "Value must be a number."
  | tooSmall least =>
      "Number is too small. Minimum value is " ++
        least.positional ++ "."
  | tooLarge most =>
      "Number is too large. Maximum value is " ++
        most.positional ++ "."
  | notInteger => "Value must be an integer."
  | notBoolean => "Value must be a boolean."
  | notDate => "Value must be a valid date."
  | tooEarly earliest =>
      "Date must be on or after " ++ earliest.timestamp ++ "."
  | tooLate latest =>
      "Date must be on or before " ++ latest.timestamp ++ "."
  | notListed allowed =>
      "Value must be one of: " ++
        String.intercalate ", " (allowed.map Value.display) ++
        "."
  | notLiteral expected =>
      "Value must be exactly " ++ expected.display ++ "."
  | notObject => "Value must be an object."
  | missingProperty => "Property is missing."
  | notArray => "Value must be an array."
  | arrayTooShort least =>
      "Array is too short. Minimum length is " ++
        toString least ++ "."
  | arrayTooLong most =>
      "Array is too long. Maximum length is " ++
        toString most ++ "."
  | wrongArity arity =>
      "Tuple must have exactly " ++ toString arity ++
        " elements."
  | noOption =>
      "Value does not match any of the allowed types."
  | mappingFailed reason => "Transform failed: " ++ reason

end Problem

------------------------------------------------------------
-- Steps
------------------------------------------------------------

/- A step from a value to one of its parts. -/
inductive Step
  | property (name : String)
  | index (i : Nat)
  | key (name : String)
  | entry (name : String)
deriving DecidableEq

namespace Step

/- What a step puts in front of the messages for the part. -/
def text : Step → String
  | property name =>
      "Validation failed for property '" ++ name ++ "': "
  | index i => "Error at index " ++ toString i ++ ": "
  | key name => "Invalid key '" ++ name ++ "': "
  | entry name => "Invalid value for key '" ++ name ++ "': "

/- Messages for a part as messages for the whole. -/
def locate
    (s : Step)
    (errors : List String) : List String :=
  errors.map fun e => s.text ++ e

end Step

end Conform
