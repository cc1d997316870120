import Conform.Json.Token
import Conform.Number.Decimal
import Conform.Yaml.Token

/-
  This file says what data YAML scalars denote. A plain
  scalar may be null, a truth value, an integer in one of
  four bases, or a fraction, and is a string otherwise. A
  tag can ask for one of these by name.

  Key definitions include:
    * `Yaml.isNull`
    * `Yaml.bool?`
    * `Yaml.integer?`
    * `Yaml.fraction?`
    * `Yaml.plainScalar?`
    * `Yaml.refusesTag`
    * `Yaml.taggedScalar?`
    * `Yaml.scalarJson?`
-/

namespace Conform

namespace Yaml

------------------------------------------------------------
-- Null and Truth Values
------------------------------------------------------------

/- A text for null. -/
def isNull
    (text : String) : Bool :=
  ["null", "Null", "NULL", "~"].contains text

/- A text for a truth value. -/
def bool?
    (text : String) : Option Bool :=
  if ["true", "True", "TRUE"].contains text then some true
  else if ["false", "False", "FALSE"].contains text then
    some false
  else none

------------------------------------------------------------
-- Integers
------------------------------------------------------------

/- The whole number that digits of a base spell. -/
def natural?
    (base : Nat)
    (cs : List Char) : Option Nat :=
  if cs.isEmpty then none
  else
    cs.foldlM
      (fun n c =>
        match Json.Token.hexDigit? c with
        | none => none
        | some d => if d < base then some (base * n + d) else none)
      0

/- The whole number after a mark for its base, or decimal. -/
def based?
    (cs : List Char) : Option Nat :=
  let marked :=
    match cs with
    | '0' :: 'x' :: rest => natural? 16 rest
    | '0' :: 'o' :: rest => natural? 8 rest
    | '0' :: 'b' :: rest => natural? 2 rest
    | _ => none
  match marked with
  | some n => some n
  | none => natural? 10 cs

/-
  Digits that start with a superfluous zero, after a sign or
  without one. They are no number.
-/
def hasLeadingZero
    (cs : List Char) : Bool :=
  let body :=
    match cs with
    | '-' :: rest => rest
    | '+' :: rest => rest
    | rest => rest
  match body with
  | '0' :: d :: rest => (d :: rest).all Char.isDigit
  | _ => false

/- The integer that a text denotes. -/
def integer?
    (text : String) : Option Int :=
  let cs := text.toList
  if hasLeadingZero cs then none
  else
    match cs with
    | '-' :: rest => (based? rest).map fun n => -(n : Int)
    | '+' :: rest => (based? rest).map fun n => (n : Int)
    | cs => (based? cs).map fun n => (n : Int)

/- The integers that 64 bits hold, with or without a sign. -/
def fitsWord
    (i : Int) : Bool :=
  decide (-(Nat.pow 2 63 : Int) ≤ i) &&
    decide (i < (Nat.pow 2 64 : Int))

/- The integers that 128 bits hold. -/
def fitsDoubleWord
    (i : Int) : Bool :=
  decide (-(Nat.pow 2 127 : Int) ≤ i) &&
    decide (i < (Nat.pow 2 128 : Int))

------------------------------------------------------------
-- Fractions
------------------------------------------------------------

/- A finite number. -/
def isFinite : Number → Bool
  | .finite _ _ => true
  | _ => false

/- The fraction that decimal text denotes, if it is finite. -/
def decimal?
    (text : String) : Option Number :=
  (Number.ofText? text).filter isFinite

/-
  The number that a text denotes, with names of their own
  for the infinities and for what is not a number.
-/
def fraction?
    (text : String) : Option Number :=
  if [".nan", ".NaN", ".NAN"].contains text then some .nan
  else if ["-.inf", "-.Inf", "-.INF"].contains text then
    some (.infinity true)
  else
    match text.toList with
    | '+' :: rest =>
        if rest.head? = some '+' ∨ rest.head? = some '-' then
          none
        else positive? (String.ofList rest)
    | _ => positive? text
where
  positive? (body : String) : Option Number :=
    if [".inf", ".Inf", ".INF"].contains body then
      some (.infinity false)
    else decimal? body

/- A number as data. JSON has finite numbers only. -/
def numberJson
    (x : Number) : Json :=
  if isFinite x then .float x else .null

------------------------------------------------------------
-- Scalars
------------------------------------------------------------

/-
  The data that an integer gives. Integers that take more
  than 64 bits are refused, and those that take more than
  128 bits are not read as integers.
-/
def integerJson?
    (i : Int) : Option Json :=
  if fitsWord i then some (.int i) else none

/- The data that a plain scalar without a tag denotes. -/
def plainScalar?
    (text : String) : Option Json :=
  if text.isEmpty || isNull text then some .null
  else
    match bool? text with
    | some b => some (.bool b)
    | none =>
        match (integer? text).filter fitsDoubleWord with
        | some i => integerJson? i
        | none =>
            if hasLeadingZero text.toList then
              some (.string text)
            else
              match fraction? text with
              | some x => some (numberJson x)
              | none => some (.string text)

------------------------------------------------------------
-- Tags
------------------------------------------------------------

/- The tags that ask for a kind of data start like this. -/
def coreTag
    (name : String) : Octets :=
  Octets.ofText ("tag:yaml.org,2002:" ++ name)

/- A tag of one's own, which starts with an exclamation mark. -/
def isLocal
    (tag : Octets) : Bool :=
  tag.head? == some '!'.toNat.toUInt8

/-
  Tags of one's own have no meaning and are refused. Those
  that are not even text are passed over.
-/
def refusesTag : Option Octets → Bool
  | none => false
  | some t => isLocal t && (Octets.text? (t.drop 1)).isSome

/-
  The data that a tag asks for. A tag without a meaning asks
  for a string, unless it is passed over.
-/
def taggedScalar?
    (tag : Octets)
    (text : String)
    (plain : Bool) : Option Json :=
  if tag == coreTag "bool" then (bool? text).map Json.bool
  else if tag == coreTag "int" then
    ((integer? text).filter fitsDoubleWord).bind integerJson?
  else if tag == coreTag "float" then
    (fraction? text).map numberJson
  else if tag == coreTag "null" then
    if isNull text then some .null else none
  else if isLocal tag && plain then plainScalar? text
  else some (.string text)

/- The data that a scalar denotes. -/
def scalarJson?
    (tag : Option Octets)
    (text : String)
    (plain : Bool) : Option Json :=
  if refusesTag tag then none
  else
    match tag with
    | some t => taggedScalar? t text plain
    | none =>
        if plain then plainScalar? text
        else some (.string text)

end Yaml

end Conform
