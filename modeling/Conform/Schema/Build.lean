import Conform.Schema

/-
  This file builds schemas by hand. There is a function for
  each kind of node, and there are setters that change the
  topmost node of a schema. A setter for something that the
  node does not have leaves the schema as it is.

  Key definitions include:
    * `Schema.string`, `Schema.number`, `Schema.boolean`
    * `Schema.date`, `Schema.any`
    * `Schema.oneOf`, `Schema.literal`
    * `Schema.object`, `Schema.array`, `Schema.tuple`
    * `Schema.record`, `Schema.union`
    * `Schema.nullable`, `Schema.optional`
    * `Schema.mapped`, `Schema.lazy`
    * `Schema.property`
-/

namespace Conform

namespace Schema

------------------------------------------------------------
-- Leaves
------------------------------------------------------------

/- Accepts strings. -/
def string : Schema :=
  node {} (.leaf (.string none none))

/- Accepts numbers. -/
def number : Schema :=
  node {} (.leaf (.number none none false))

/- Accepts truth values. -/
def boolean : Schema :=
  node {} (.leaf .boolean)

/- Accepts instants. -/
def date : Schema :=
  node {} (.leaf (.date none none false))

/- Accepts every present value. -/
def any : Schema :=
  node {} (.leaf .any)

/-
  Accepts the values of a list. If null is one of them, the
  node is nullable.
-/
def oneOf
    (allowed : List Value) : Schema :=
  node { nullable := allowed.contains .null }
    (.leaf (.enumeration allowed))

/- Accepts one value. If it is null, the node is nullable. -/
def literal
    (expected : Value) : Schema :=
  node { nullable := expected == .null }
    (.leaf (.literal expected))

------------------------------------------------------------
-- Composites
------------------------------------------------------------

/- Accepts objects, without declared properties at first. -/
def object : Schema :=
  node {} (.object [])

/- Accepts arrays, without a check of the items at first. -/
def array : Schema :=
  node {} (.array none none none)

/- Accepts arrays with one element for each place. -/
def tuple
    (elements : List Schema) : Schema :=
  node {} (.tuple elements)

/- Accepts objects by their names and contents. -/
def record
    (keys contents : Schema) : Schema :=
  node {} (.record keys contents)

/- Accepts what one of the options accepts. -/
def union
    (options : List Schema) : Schema :=
  node {} (.union options)

------------------------------------------------------------
-- Wrappers
------------------------------------------------------------

/- Accepts absent values and what the inner node accepts. -/
def nullable
    (inner : Schema) : Schema :=
  node { nullable := true, required := false } (.nullable inner)

/- Accepts undefined and what the inner node accepts. -/
def optional
    (inner : Schema) : Schema :=
  node { required := false } (.optional inner)

/- Applies a mapping and checks the value that it gives. -/
def mapped
    (inner : Schema)
    (mapping : Mapping) : Schema :=
  node {} (.mapped mapping inner)

/- Looks its child up when it is needed. -/
def lazy
    (child : Deferred) : Schema :=
  node {} (.lazy child none)

------------------------------------------------------------
-- Setters for Every Node
------------------------------------------------------------

/- Says whether null is accepted. -/
def setNullable
    (flag : Bool) : Schema → Schema :=
  mapSettings fun s => { s with nullable := flag }

/- Says whether the undefined value is refused. -/
def setRequired
    (flag : Bool) : Schema → Schema :=
  mapSettings fun s => { s with required := flag }

/- Sets the message for absent values that are refused. -/
def setMessage
    (message : String) : Schema → Schema :=
  mapSettings fun s => { s with message := some message }

/- Adds a rule after those that the node has already. -/
def addRule
    (rule : Rule) : Schema → Schema :=
  mapSettings fun s => { s with rules := s.rules ++ [rule] }

------------------------------------------------------------
-- Setters for Some Shapes
------------------------------------------------------------

/- Sets the least length of a string or an array. -/
def setMinLength
    (n : Nat) : Schema → Schema :=
  mapShape fun shape =>
    match shape with
    | .leaf (.string _ most) => .leaf (.string (some n) most)
    | .array items _ most => .array items (some n) most
    | other => other

/- Sets the greatest length of a string or an array. -/
def setMaxLength
    (n : Nat) : Schema → Schema :=
  mapShape fun shape =>
    match shape with
    | .leaf (.string least _) => .leaf (.string least (some n))
    | .array items least _ => .array items least (some n)
    | other => other

/- Sets the least number. -/
def setLeast
    (x : Number) : Schema → Schema :=
  mapShape fun shape =>
    match shape with
    | .leaf (.number _ most integer) =>
        .leaf (.number (some x) most integer)
    | other => other

/- Sets the greatest number. -/
def setMost
    (x : Number) : Schema → Schema :=
  mapShape fun shape =>
    match shape with
    | .leaf (.number least _ integer) =>
        .leaf (.number least (some x) integer)
    | other => other

/- Makes a number accept whole numbers only. -/
def setInteger : Schema → Schema :=
  mapShape fun shape =>
    match shape with
    | .leaf (.number least most _) =>
        .leaf (.number least most true)
    | other => other

/- Sets the earliest date. -/
def setEarliest
    (t : Instant) : Schema → Schema :=
  mapShape fun shape =>
    match shape with
    | .leaf (.date _ latest text) =>
        .leaf (.date (some t) latest text)
    | other => other

/- Sets the latest date. -/
def setLatest
    (t : Instant) : Schema → Schema :=
  mapShape fun shape =>
    match shape with
    | .leaf (.date earliest _ text) =>
        .leaf (.date earliest (some t) text)
    | other => other

/- Makes a date accept text. -/
def setAcceptsText : Schema → Schema :=
  mapShape fun shape =>
    match shape with
    | .leaf (.date earliest latest _) =>
        .leaf (.date earliest latest true)
    | other => other

/-
  Declares a property in a list of properties. A name that
  is declared already keeps its place.
-/
def declare
    (name : String)
    (child : Schema) :
    List (String × Schema) → List (String × Schema)
  | [] => [(name, child)]
  | p :: rest =>
      if p.1 = name then (name, child) :: rest
      else p :: declare name child rest

/- Declares a property of an object. -/
def property
    (s : Schema)
    (name : String)
    (child : Schema) : Schema :=
  s.mapShape fun shape =>
    match shape with
    | .object properties =>
        .object (declare name child properties)
    | other => other

/- Sets the check of the items of an array. -/
def setItems
    (s item : Schema) : Schema :=
  s.mapShape fun shape =>
    match shape with
    | .array _ least most => .array (some item) least most
    | other => other

/- Sets the property that a lazy node follows. -/
def setPropertyName
    (name : String) : Schema → Schema :=
  mapShape fun shape =>
    match shape with
    | .lazy child _ => .lazy child (some name)
    | other => other

end Schema

end Conform
