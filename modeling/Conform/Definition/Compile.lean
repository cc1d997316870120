import Conform.Registry
import Conform.Schema.Build
import Conform.Definition.Field
import Conform.Definition.Parts
import Conform.Definition.Tag

/-
  This file compiles definitions to schemas. A definition is
  JSON data: an object whose `type` says what kind of node
  it declares, and whose other fields say the rest.

  The parts of a definition are looked at in a fixed order,
  and the first fault in that order is the one reported: the
  tag, the fields of that tag with the definitions inside
  them, and then `nullable`, `required` and `message`.

  A node is required if its definition says so, and inside
  an object with a list of required names the list decides
  instead.

  Key definitions include:
    * `Definition.Compiler`
    * `Definition.compileShape`
    * `Definition.compileParts`
    * `Definition.compile`
-/

namespace Conform

namespace Definition

/- The compilation of one definition at a given path. -/
abbrev Compiler :=
  String → Except Fault Schema

------------------------------------------------------------
-- Definitions Inside a Definition
------------------------------------------------------------

/- Compiles the definition that a field must hold. -/
def requireChild
    (parts : Parts Compiler)
    (path name : String) : Except Fault Schema := do
  let child ← present path name (parts.child? name)
  child (under path name)

/- Compiles the definition that a field may hold. -/
def optionalChild
    (parts : Parts Compiler)
    (path name : String) : Except Fault (Option Schema) :=
  match parts.child? name with
  | none => .ok none
  | some child => (child (under path name)).map some

/- Compiles definitions at numbered places of a field. -/
def compileEach
    (path name : String) :
    Nat → List Compiler → Except Fault (List Schema)
  | _, [] => .ok []
  | i, child :: rest => do
      let first ← child
        (under path (name ++ "[" ++ toString i ++ "]"))
      let others ← compileEach path name (i + 1) rest
      .ok (first :: others)

/- Compiles the list of definitions that a field must hold. -/
def requireChildren
    (parts : Parts Compiler)
    (path name : String) : Except Fault (List Schema) := do
  let list ← present path name (parts.children? name)
  match list with
  | some children => compileEach path name 0 children
  | none => .error (.invalid path (.mistyped name .list))

/-
  The names that a list of required properties holds. There
  is no such list if `required` is no list.
-/
def requiredNames
    (fields : List (String × Json))
    (path : String) : Except Fault (Option (List String)) :=
  match fields.lookup "required" with
  | some (.array names) =>
      match names.mapM Json.asString? with
      | some names => .ok (some names)
      | none => .error (.invalid path .unnamedRequirement)
  | _ => .ok none

/-
  Compiles the definitions of properties. A list of required
  names decides for each of them.
-/
def compileMembers
    (path : String)
    (required : Option (List String)) :
    List (String × Compiler) →
      Except Fault (List (String × Schema))
  | [] => .ok []
  | (name, child) :: rest => do
      let schema ← child (under path ("properties." ++ name))
      let schema :=
        match required with
        | some names => schema.setRequired (names.contains name)
        | none => schema
      let others ← compileMembers path required rest
      .ok ((name, schema) :: others)

/- Compiles the properties that an object may have. -/
def compileProperties
    (parts : Parts Compiler)
    (path : String) :
    Except Fault (List (String × Schema)) := do
  let required ← requiredNames parts.fields path
  match parts.members? "properties" with
  | none => .ok []
  | some none =>
      .error (.invalid path (.mistyped "properties" .mapping))
  | some (some members) => compileMembers path required members

------------------------------------------------------------
-- Nodes
------------------------------------------------------------

/- The mapping that must be registered under a name. -/
def requireMapping
    (registry : Registry)
    (path name : String) : Except Fault Mapping :=
  match registry.find? name with
  | some mapping => .ok mapping
  | none => .error (.unknownMapping name path)

/-
  Compiles what a tag stands for, with the settings that a
  node of its kind has from the start.
-/
def compileShape
    (registry : Registry)
    (parts : Parts Compiler)
    (path : String) : Tag → Except Fault Schema
  | .string => do
      let least ← lengthField parts.fields path "minLength"
      let most ← lengthField parts.fields path "maxLength"
      .ok (.node {} (.leaf (.string least most)))
  | .number => do
      let least ← numberField parts.fields path "min"
      let most ← numberField parts.fields path "max"
      let integer ← flagField parts.fields path "integer"
      .ok (.node {} (.leaf
        (.number least most (integer.getD false))))
  | .boolean => .ok Schema.boolean
  | .date => do
      let earliest ← dateField parts.fields path "min"
      let latest ← dateField parts.fields path "max"
      .ok (.node {} (.leaf (.date earliest latest true)))
  | .any => .ok Schema.any
  | .enumeration => do
      let allowed ← requireList parts.fields path
        "allowedValues"
      .ok (Schema.oneOf (allowed.map Value.ofJson))
  | .literal => do
      let expected ← present path "value"
        (parts.fields.lookup "value")
      .ok (Schema.literal (Value.ofJson expected))
  | .object => do
      let properties ← compileProperties parts path
      .ok (properties.foldl (fun s p => s.property p.1 p.2)
        Schema.object)
  | .array => do
      let items ← optionalChild parts path "items"
      let least ← lengthField parts.fields path "minLength"
      let most ← lengthField parts.fields path "maxLength"
      .ok (.node {} (.array items least most))
  | .tuple => do
      let elements ← requireChildren parts path "schemas"
      .ok (Schema.tuple elements)
  | .union => do
      let options ← requireChildren parts path "schemas"
      .ok (Schema.union options)
  | .record => do
      let keys ← requireChild parts path "keySchema"
      let contents ← requireChild parts path "valueSchema"
      .ok (Schema.record keys contents)
  | .nullable => do
      let inner ← requireChild parts path "schema"
      .ok (Schema.nullable inner)
  | .optional => do
      let inner ← requireChild parts path "schema"
      .ok (Schema.optional inner)
  | .mapped => do
      let inner ← requireChild parts path "schema"
      let name ← requireText parts.fields path "transformFn"
      let mapping ← requireMapping registry path name
      .ok (Schema.mapped inner mapping)
  | .lazy => do
      let inner ← requireChild parts path "schema"
      let property ← textField parts.fields path "propertyName"
      .ok (.node {} (.lazy (.known inner) property))

/-
  Whether a definition itself says that its node is
  required. The list of names that an object may have in the
  same field does not say so.
-/
def requiredFlag
    (fields : List (String × Json))
    (path : String)
    (tag : Tag) : Except Fault Bool :=
  match fields.lookup "required" with
  | none => .ok false
  | some (.bool flag) => .ok flag
  | some (.array _) =>
      if tag = .object then .ok false
      else .error (.invalid path (.mistyped "required" .flag))
  | some _ => .error (.invalid path (.mistyped "required" .flag))

/- The tag that a text must be. -/
def knownTag
    (path text : String) : Except Fault Tag :=
  match Tag.ofName? text with
  | some tag => .ok tag
  | none => .error (.unsupportedType text path)

/- The tag that a definition must have. -/
def requireTag
    (fields : List (String × Json))
    (path : String) : Except Fault Tag := do
  let text ← requireText fields path "type"
  knownTag path text

/- Compiles a definition from its parts. -/
def compileParts
    (registry : Registry)
    (parts : Parts Compiler) : Compiler :=
  fun path => do
    let tag ← requireTag parts.fields path
    let schema ← compileShape registry parts path tag
    let nullable ← flagField parts.fields path "nullable"
    let required ← requiredFlag parts.fields path tag
    let message ← textField parts.fields path "message"
    .ok (schema.mapSettings fun s =>
      { s with
        nullable := nullable.getD s.nullable
        required := required
        message := message })

------------------------------------------------------------
-- Definitions
------------------------------------------------------------

/- Refuses data that is no definition. -/
def refuse : Compiler :=
  fun path => .error (.invalid path .notMapping)

/-
  Compiles a definition. The path names the definition in
  faults.
-/
def compile
    (registry : Registry) : Json → Compiler :=
  fold (compileParts registry) refuse

end Definition

end Conform
