import Conform.Schema.Judge

/-
  This file says which values a schema accepts, without
  reference to outcomes or to the order in which a check
  proceeds. What a lazy node names is given by a function,
  so that schemas may be recursive and a family of named
  schemas may be infinite.

  Key definitions include:
    * `Settings.Permits`
    * `Settings.Admits`
    * `Leaf.Holds`
    * `Shape.Guarded`
    * `Deferred.schema?`
    * `Accepts`
-/

namespace Conform

------------------------------------------------------------
-- Settings
------------------------------------------------------------

namespace Settings

/- A value that breaks none of the rules. -/
def Permits
    (s : Settings)
    (v : Value) : Prop :=
  ∀ r ∈ s.rules, r.holds v = true

/-
  An absent value that the settings let pass: the undefined
  value unless one is required, and null if it is allowed.
-/
def Admits
    (s : Settings)
    (v : Value) : Prop :=
  (v = .undefined ∧ s.required = false) ∨
    (v = .null ∧ s.nullable = true)

end Settings

------------------------------------------------------------
-- Leaves
------------------------------------------------------------

/- A finite number without a fractional part. -/
def Number.IsInteger
    (x : Number) : Prop :=
  ∃ negative size k,
    x = .finite negative size ∧ size.units = Magnitude.one * k

/-
  The instant that a date stands for. Text stands for one
  only where it is accepted.
-/
inductive Leaf.Dates
    (acceptsText : Bool) : Value → Instant → Prop
  | date (t : Instant) : Dates acceptsText (.date t) t
  | text {text : String} {t : Instant}
      (hAccepts : acceptsText = true)
      (hText : Instant.ofText? text = some t) :
      Dates acceptsText (.string text) t

/-
  The values of the form that a leaf asks for. Bounds are
  inclusive: they exclude what lies beyond them, so that a
  bound that is not a number excludes nothing.
-/
def Leaf.Holds : Leaf → Value → Prop
  | .string least most, v =>
      ∃ text, v = .string text ∧
        (∀ m, least = some m → m ≤ text.length) ∧
        (∀ m, most = some m → text.length ≤ m)
  | .number least most integer, v =>
      ∃ x, v = .number x ∧ x ≠ .nan ∧
        (∀ b, least = some b → x.lt b = false) ∧
        (∀ b, most = some b → b.lt x = false) ∧
        (integer = true → x.IsInteger)
  | .boolean, v => ∃ b, v = .bool b
  | .date earliest latest acceptsText, v =>
      ∃ t, Dates acceptsText v t ∧
        (∀ b, earliest = some b → t.lt b = false) ∧
        (∀ b, latest = some b → b.lt t = false)
  | .enumeration allowed, v => ∃ a ∈ allowed, (v == a) = true
  | .literal expected, v => (v == expected) = true
  | .any, _ => True

------------------------------------------------------------
-- Schemas
------------------------------------------------------------

/-
  The shapes whose nodes leave absent values to their
  settings: leaves, objects, arrays, tuples and records.
-/
inductive Shape.Guarded : Shape → Prop
  | leaf (kind : Leaf) : Guarded (.leaf kind)
  | object (properties : List (String × Schema)) :
      Guarded (.object properties)
  | array (items : Option Schema)
      (minLength maxLength : Option Nat) :
      Guarded (.array items minLength maxLength)
  | tuple (elements : List Schema) : Guarded (.tuple elements)
  | record (keys contents : Schema) :
      Guarded (.record keys contents)

/- The child of a lazy node, if there is one. -/
def Deferred.schema?
    (resolve : String → Option Schema) :
    Deferred → Option Schema
  | .known s => some s
  | .named name => resolve name

/-
  The values that a schema accepts:
    * the guarded shapes accept the absent values that their
      settings admit, and present values that obey all rules
      and have the shape, all parts being accepted in turn;
    * a declared property that is undefined must not be
      required, and any other must be accepted;
    * a union accepts what its settings admit and what an
      option accepts, a present value if it obeys all rules;
    * `nullable` accepts both absent values and `optional`
      the undefined one, and they accept whatever else obeys
      all rules and is accepted by the inner node;
    * a mapped node accepts what its settings admit, and a
      value whose image is accepted by the inner node and
      obeys all rules unless it is absent;
    * a lazy node accepts absent values if it is nullable,
      and a present value that obeys all rules and that its
      child accepts, if the property that it follows is
      absent or is accepted by the lazy node itself.
-/
inductive Accepts
    (resolve : String → Option Schema) :
    Schema → Value → Prop
  | absent {s : Settings} {shape : Shape} {v : Value}
      (hShape : shape.Guarded)
      (hAdmits : s.Admits v) :
      Accepts resolve (.node s shape) v
  | leaf {s : Settings} {kind : Leaf} {v : Value}
      (hPresent : v.isAbsent = false)
      (hRules : s.Permits v)
      (hHolds : kind.Holds v) :
      Accepts resolve (.node s (.leaf kind)) v
  | object {s : Settings}
      {properties : List (String × Schema)}
      {fields : List (String × Value)}
      (hRules : s.Permits (.object fields))
      (hMissing : ∀ p ∈ properties,
        (Value.object fields).get p.1 = .undefined →
          p.2.settings.required = false)
      (hPresent : ∀ p ∈ properties,
        (Value.object fields).get p.1 ≠ .undefined →
          Accepts resolve p.2 ((Value.object fields).get p.1)) :
      Accepts resolve (.node s (.object properties))
        (.object fields)
  | array {s : Settings} {item : Option Schema}
      {least most : Option Nat} {items : List Value}
      (hRules : s.Permits (.array items))
      (hLeast : ∀ m, least = some m → m ≤ items.length)
      (hMost : ∀ m, most = some m → items.length ≤ m)
      (hItems : ∀ c, item = some c →
        ∀ v ∈ items, Accepts resolve c v) :
      Accepts resolve (.node s (.array item least most))
        (.array items)
  | tuple {s : Settings} {elements : List Schema}
      {items : List Value}
      (hRules : s.Permits (.array items))
      (hLength : items.length = elements.length)
      (hElements : ∀ p ∈ elements.zip items,
        Accepts resolve p.1 p.2) :
      Accepts resolve (.node s (.tuple elements))
        (.array items)
  | record {s : Settings} {keys contents : Schema}
      {fields : List (String × Value)}
      (hRules : s.Permits (.object fields))
      (hKeys : ∀ f ∈ fields, Accepts resolve keys (.string f.1))
      (hContents : ∀ f ∈ fields,
        Accepts resolve contents f.2) :
      Accepts resolve (.node s (.record keys contents))
        (.object fields)
  | unionAbsent {s : Settings} {options : List Schema}
      {v : Value}
      (hAdmits : s.Admits v) :
      Accepts resolve (.node s (.union options)) v
  | union {s : Settings} {options : List Schema}
      {option : Schema} {v : Value}
      (hRules : v.isAbsent = false → s.Permits v)
      (hOption : option ∈ options)
      (hAccepts : Accepts resolve option v) :
      Accepts resolve (.node s (.union options)) v
  | nullableAbsent {s : Settings} {inner : Schema} {v : Value}
      (hAbsent : v.isAbsent = true) :
      Accepts resolve (.node s (.nullable inner)) v
  | nullable {s : Settings} {inner : Schema} {v : Value}
      (hPresent : v.isAbsent = false)
      (hRules : s.Permits v)
      (hAccepts : Accepts resolve inner v) :
      Accepts resolve (.node s (.nullable inner)) v
  | optionalUndefined {s : Settings} {inner : Schema} :
      Accepts resolve (.node s (.optional inner)) .undefined
  | optional {s : Settings} {inner : Schema} {v : Value}
      (hDefined : v.isUndefined = false)
      (hRules : s.Permits v)
      (hAccepts : Accepts resolve inner v) :
      Accepts resolve (.node s (.optional inner)) v
  | mappedAbsent {s : Settings} {mapping : Mapping}
      {inner : Schema} {v : Value}
      (hAdmits : s.Admits v) :
      Accepts resolve (.node s (.mapped mapping inner)) v
  | mapped {s : Settings} {mapping : Mapping}
      {inner : Schema} {v image : Value}
      (hAdmits : ¬ s.Admits v)
      (hImage : mapping v = .ok image)
      (hRules : image.isAbsent = false → s.Permits image)
      (hAccepts : Accepts resolve inner image) :
      Accepts resolve (.node s (.mapped mapping inner)) v
  | lazyAbsent {s : Settings} {child : Deferred}
      {property : Option String} {v : Value}
      (hAbsent : v.isAbsent = true)
      (hNullable : s.nullable = true) :
      Accepts resolve (.node s (.lazy child property)) v
  | lazy {s : Settings} {child : Deferred} {c : Schema}
      {property : Option String} {v : Value}
      (hPresent : v.isAbsent = false)
      (hRules : s.Permits v)
      (hChild : child.schema? resolve = some c)
      (hAccepts : Accepts resolve c v)
      (hFollow : ∀ name, property = some name →
        (v.get name).isAbsent = false →
          Accepts resolve (.node s (.lazy child property))
            (v.get name)) :
      Accepts resolve (.node s (.lazy child property)) v

end Conform
