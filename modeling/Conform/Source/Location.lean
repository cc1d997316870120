import Conform.Source.Failure
import Conform.Source.Files

/-
  This file defines where a document is. A path with an
  extension names the document itself. Any other path is the
  common start of the paths that are tried in order, one for
  each extension.

  Key definitions include:
    * `Format`
    * `Format.ofExtension?`
    * `Format.ofPath?`
    * `Location`
    * `Location.ofVariable`
    * `Location.candidates`
    * `Location.resolve`
-/

namespace Conform

------------------------------------------------------------
-- Formats
------------------------------------------------------------

/- The format of a document. -/
inductive Format
  | json
  | yaml
deriving DecidableEq

namespace Format

/- The format that an extension in any case stands for. -/
def ofExtension?
    (extension : String) : Option Format :=
  match String.ofList (extension.toList.map Char.toLower) with
  | "json" => some json
  | "yaml" => some yaml
  | "yml" => some yaml
  | _ => none

/- The format that the extension of a path stands for. -/
def ofPath?
    (path : String) : Option Format :=
  (Path.extension? path).bind ofExtension?

/- The extensions that are tried, in order. -/
def extensions : List String :=
  ["json", "yaml", "yml"]

end Format

------------------------------------------------------------
-- Locations
------------------------------------------------------------

/- Where a document is, and how many bytes it may have. -/
structure Location where
  path : Option String
  maxSize : Nat

namespace Location

/- The size that a document may have if nothing is said. -/
def usualMaxSize : Nat :=
  1024 * 1024

/- The location with a path. -/
def ofPath
    (path : String) : Location :=
  ⟨some path, usualMaxSize⟩

/- The name of the variable that holds a path. -/
def variableName : String :=
  "VALKIT_SCHEMA_PATH"

/- The location that a variable gives, unless it is empty. -/
def ofVariable
    (contents : Option String) : Location :=
  ⟨contents.filter fun path => path != "", usualMaxSize⟩

/- The paths that are tried for a common start. -/
def candidates
    (path : String) : List String :=
  Format.extensions.map (Path.withExtension path)

/- All paths that may be the path of the document. -/
def paths : Option String → List String
  | none => []
  | some path => path :: candidates path

/- The path of the document. -/
def resolve
    (files : Files)
    (location : Location) : Except Failure String :=
  match location.path with
  | none => .error .noPath
  | some path =>
      if (Path.extension? path).isSome then
        if (Format.ofPath? path).isNone then
          .error (.unsupportedExtension path)
        else if files.isFile path then .ok path
        else .error (.notFound path)
      else
        match (candidates path).find? files.isFile with
        | some found => .ok found
        | none => .error (.noDocument path)

end Location

end Conform
