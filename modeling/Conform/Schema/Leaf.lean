import Conform.Schema.Problem
import Conform.Instant.DateText

/-
  This file defines the kinds of leaf of a schema, which
  check a present value without looking at any other node.

  Key definitions include:
    * `Leaf`
    * `Leaf.kind`
    * `Leaf.boundProblems`
    * `Leaf.instant?`
    * `Leaf.problems`
-/

namespace Conform

/-
  The kinds of leaf. Bounds are inclusive, and lengths count
  characters. Where `acceptsText` is set, a date may also be
  given as text.
-/
inductive Leaf
  | string (minLength maxLength : Option Nat)
  | number (least most : Option Number) (integer : Bool)
  | boolean
  | date (earliest latest : Option Instant)
      (acceptsText : Bool)
  | enumeration (allowed : List Value)
  | literal (expected : Value)
  | any

namespace Leaf

/- The name of a kind of leaf. -/
def kind : Leaf → String
  | string _ _ => "string"
  | number _ _ _ => "number"
  | boolean => "boolean"
  | date _ _ _ => "date"
  | enumeration _ => "enum"
  | literal _ => "literal"
  | any => "any"

/- The problem with one bound, where the bound is set. -/
def boundProblems
    {α : Type}
    (bound : Option α)
    (breaks : α → Bool)
    (problem : α → Problem) : List Problem :=
  match bound with
  | none => []
  | some b => if breaks b then [problem b] else []

/- The instant that a value gives to a date. -/
def instant?
    (acceptsText : Bool) : Value → Option Instant
  | .date t => some t
  | .string text =>
      if acceptsText then Instant.ofText? text else none
  | _ => none

/- What is wrong with a present value, in order. -/
def problems
    (leaf : Leaf)
    (v : Value) : List Problem :=
  match leaf with
  | string minLength maxLength =>
      match v with
      | .string text =>
          let n := text.length
          boundProblems minLength (fun m => decide (n < m))
              .stringTooShort ++
            boundProblems maxLength (fun m => decide (m < n))
              .stringTooLong
      | _ => [.notString]
  | number least most integer =>
      match v with
      | .number x =>
          if x.isNaN then [.notNumber]
          else
            boundProblems least (fun b => x.lt b) .tooSmall ++
              boundProblems most (fun b => b.lt x) .tooLarge ++
              (if integer && !x.isWhole then [.notInteger]
                else [])
      | _ => [.notNumber]
  | boolean =>
      match v with
      | .bool _ => []
      | _ => [.notBoolean]
  | date earliest latest acceptsText =>
      match instant? acceptsText v with
      | some t =>
          boundProblems earliest (fun b => t.lt b) .tooEarly ++
            boundProblems latest (fun b => b.lt t) .tooLate
      | none => [.notDate]
  | enumeration allowed =>
      if allowed.contains v then [] else [.notListed allowed]
  | literal expected =>
      if v == expected then [] else [.notLiteral expected]
  | any => []

end Leaf

end Conform
