import Conform.Definition.Compile
import Conform.Schema.Judge
import Conform.Schema.Describe
import Conform.Source.Document

/-
  This file defines catalogs, which hold the schemas that a
  document declares. A definition is compiled when its
  schema is asked for the first time, and the schema is then
  kept until the registry is replaced.

  Key definitions include:
    * `Handle`
    * `Catalog`
    * `Catalog.ofDocument`
    * `Catalog.load`
    * `Catalog.keep`
    * `Catalog.get`
    * `Catalog.validate`
    * `Catalog.getAll`
    * `Catalog.withRegistry`
-/

namespace Conform

/-
  A compiled schema. Each compilation has a number of its
  own, so that two handles are the same exactly if they come
  from the same compilation.
-/
structure Handle where
  serial : Nat
  schema : Schema

/-
  A document with the registry that its definitions use, the
  schemas compiled so far, and the number of compilations.
-/
structure Catalog where
  path : Option String
  document : Document
  registry : Registry
  compiled : List (String × Handle)
  compilations : Nat

namespace Catalog

------------------------------------------------------------
-- Construction
------------------------------------------------------------

/- The catalog of a document. -/
def ofDocument
    (path : Option String)
    (registry : Registry)
    (document : Document) : Catalog :=
  ⟨path, document, registry, [], 0⟩

/- The catalog of the document at a location. -/
def load
    (files : Files)
    (registry : Registry)
    (location : Location) : Except Failure Catalog :=
  (Document.load files location).map fun r =>
    ofDocument (some r.1) registry r.2

/- The catalog of a text. -/
def parse
    (format : Format)
    (text : String) : Except Failure Catalog :=
  (Document.parse format text Document.inline).map
    (ofDocument none Registry.usual)

/- The catalog of JSON data. -/
def ofJson
    (j : Json) : Except Failure Catalog :=
  (Document.ofData Document.inline j).map
    (ofDocument none Registry.usual)

/- Replaces the registry and forgets what was compiled. -/
def withRegistry
    (registry : Registry)
    (c : Catalog) : Catalog :=
  { c with registry := registry, compiled := [] }

------------------------------------------------------------
-- Definitions
------------------------------------------------------------

/- The names of the definitions in order. -/
def keys
    (c : Catalog) : List String :=
  Fields.names c.document.definitions

/- The definition of a name. -/
def definition?
    (c : Catalog)
    (name : String) : Option Json :=
  c.document.definitions.lookup name

/- Whether a name has a definition. -/
def contains
    (c : Catalog)
    (name : String) : Bool :=
  (c.definition? name).isSome

/- Describes a catalog for people who diagnose a problem. -/
def describe
    (c : Catalog) : String :=
  Described.record "SchemaFileProvider"
    [ ("path", Text.quotedOption c.path),
      ("entities", Text.quotedList c.keys) ]
    false

------------------------------------------------------------
-- Schemas
------------------------------------------------------------

/- Compiles the definition of a name. -/
def compile
    (c : Catalog)
    (name : String) : Except Failure Schema :=
  match c.definition? name with
  | none => .error (.missingEntity name)
  | some j =>
      match Definition.compile c.registry j name with
      | .ok schema => .ok schema
      | .error f => .error (.fault f)

/- Keeps a new compilation under its name. -/
def keep
    (name : String)
    (schema : Schema)
    (c : Catalog) : Catalog :=
  { c with
    compiled := (name, ⟨c.compilations, schema⟩) :: c.compiled
    compilations := c.compilations + 1 }

/-
  The schema of a name, which is compiled if it has not been
  yet. A failure leaves the catalog as it is.
-/
def get
    (name : String)
    (c : Catalog) : Except Failure Handle × Catalog :=
  match c.compiled.lookup name with
  | some handle => (.ok handle, c)
  | none =>
      match c.compile name with
      | .error e => (.error e, c)
      | .ok schema =>
          (.ok ⟨c.compilations, schema⟩, c.keep name schema)

/- Checks a value against the schema of a name. -/
def validate
    (name : String)
    (v : Value)
    (c : Catalog) :
    Except Failure (Option Outcome) × Catalog :=
  let (result, c) := c.get name
  (result.map fun handle => handle.schema.verdict? v, c)

/- The schemas of several names, up to the first failure. -/
def getEach
    (c : Catalog) :
    List String →
      Except Failure (List (String × Handle)) × Catalog
  | [] => (.ok [], c)
  | name :: rest =>
      match c.get name with
      | (.error e, c) => (.error e, c)
      | (.ok handle, c) =>
          let (result, c) := getEach c rest
          (result.map fun others => (name, handle) :: others, c)

/- The schemas of all names in order. -/
def getAll
    (c : Catalog) :
    Except Failure (List (String × Handle)) × Catalog :=
  c.getEach c.keys

end Catalog

end Conform
