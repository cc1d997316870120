import Conform.Schema.Settings
import Conform.Schema.Leaf

/-
  This file defines schemas. A schema is a tree whose nodes
  have settings and a shape, and the shape says what the
  node checks and which nodes it hands parts of a value to.

  Key definitions include:
    * `Mapping`
    * `Schema`
    * `Shape`
    * `Deferred`
    * `Shape.kind`
    * `Schema.kind`
    * `Schema.settings`
-/

namespace Conform

/-
  A function that a node applies to a value before checking
  it. It may fail with a reason.
-/
abbrev Mapping :=
  Value → Except String Value

mutual

/- A node of a schema with all that lies below it. -/
inductive Schema
  | node (settings : Settings) (shape : Shape)

/-
  What a node checks:
    * a leaf looks at the value alone;
    * an object has named properties, an array has items of
      one kind, a tuple has one node for each place, and a
      record has names and contents of one kind each;
    * a union accepts what one of its options accepts;
    * `nullable` and `optional` let absent values pass;
    * `mapped` applies a mapping first;
    * `lazy` has a child that is looked up when needed, and
      may check one property with itself again.
-/
inductive Shape
  | leaf (kind : Leaf)
  | object (properties : List (String × Schema))
  | array (items : Option Schema)
      (minLength maxLength : Option Nat)
  | tuple (elements : List Schema)
  | record (keys contents : Schema)
  | union (options : List Schema)
  | nullable (inner : Schema)
  | optional (inner : Schema)
  | mapped (mapping : Mapping) (inner : Schema)
  | lazy (child : Deferred) (property : Option String)

/-
  The child of a lazy node: a schema that is known already,
  or the name of one, so that schemas can be recursive.
-/
inductive Deferred
  | known (schema : Schema)
  | named (name : String)

end

namespace Shape

/- The name of the kind of a node. -/
def kind : Shape → String
  | leaf l => l.kind
  | object _ => "object"
  | array _ _ _ => "array"
  | tuple _ => "tuple"
  | record _ _ => "record"
  | union _ => "union"
  | nullable _ => "nullable"
  | optional _ => "optional"
  | mapped _ _ => "transform"
  | lazy _ _ => "lazy"

end Shape

namespace Schema

/- The settings of the topmost node. -/
def settings : Schema → Settings
  | node s _ => s

/- The shape of the topmost node. -/
def shape : Schema → Shape
  | node _ s => s

/- The name of the kind of the topmost node. -/
def kind
    (s : Schema) : String :=
  s.shape.kind

/- Changes the settings of the topmost node. -/
def mapSettings
    (f : Settings → Settings) : Schema → Schema
  | node settings shape => node (f settings) shape

/- Changes the shape of the topmost node. -/
def mapShape
    (f : Shape → Shape) : Schema → Schema
  | node settings shape => node settings (f shape)

end Schema

end Conform
