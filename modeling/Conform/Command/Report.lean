import Conform.Outcome
import Conform.Command.Request
import Conform.Command.Table
import Conform.Source.Location

/-
  This file defines what commands report, and how a report
  is shown in each style.

  Key definitions include:
    * `Build`
    * `Report`
    * `Report.code`
    * `Report.render`
-/

namespace Conform

------------------------------------------------------------
-- The Program
------------------------------------------------------------

/- The name of the program. -/
def programName : String :=
  "valkit"

/- The version of the program. -/
def programVersion : String :=
  "0.2.1"

/- What the program was built for, and from what. -/
structure Build where
  target : String
  system : String
  architecture : String
  revision : String

/- A build about which nothing is known. -/
def Build.unknown : Build :=
  ⟨"unknown", "unknown", "unknown", "unknown"⟩

------------------------------------------------------------
-- Reports
------------------------------------------------------------

/- What commands report. -/
inductive Report
  | checked (document : String)
      (entities : List (String × String))
  | validated (entity : String) (outcome : Outcome)
  | shortVersion
  | version (build : Build) (schemaPath : Option String)
  | usage

namespace Report

/- The code for a value that is not valid. -/
def invalidCode : Nat :=
  60

/- The code that the program ends with. -/
def code : Report → Nat
  | validated _ outcome =>
      if outcome.isValid then 0 else invalidCode
  | checked _ _ => 0
  | shortVersion => 0
  | version _ _ => 0
  | usage => 0

/- Texts as lines. -/
def ofLines
    (lines : List String) : String :=
  String.join (lines.map fun line => line ++ "\n")

/- JSON data in one line, with a schema that describes it. -/
def jsonLine
    (schemaName : String)
    (members : List (String × Json)) : List String :=
  let schema :=
    "https://schemas.3leaps.dev/valkit/cli/v1/" ++ schemaName ++
      ".schema.json"
  [(Json.object (("schema_id", .string schema) ::
    members)).render]

------------------------------------------------------------
-- Checked Documents
------------------------------------------------------------

/- An entity and the kind of its schema as JSON data. -/
def entityJson
    (entity : String × String) : Json :=
  .object [("entity", .string entity.1),
    ("kind", .string entity.2)]

/- An entity and its kind, in columns. -/
def entityLine
    (entity : String × String) : String :=
  let blanks := List.replicate (24 - entity.1.length) ' '
  "  " ++ entity.1 ++ String.ofList blanks ++ " " ++ entity.2

/- The lines for a document whose schemas were compiled. -/
def checkedLines
    (document : String)
    (entities : List (String × String)) :
    Style → List String
  | .json =>
      jsonLine "check-report"
        [ ("document", .string document),
          ("entities", .array (entities.map entityJson)) ]
  | .table =>
      let table : Table :=
        ⟨["ENTITY", "KIND"], entities.map fun e => [e.1, e.2]⟩
      [document, table.render]
  | .pretty =>
      (document ++ ": " ++ toString entities.length ++
        " entities compiled") :: entities.map entityLine

------------------------------------------------------------
-- Checked Values
------------------------------------------------------------

/-
  The rows for a value that was checked: one for each error,
  or one without an error.
-/
def outcomeRows
    (entity : String)
    (outcome : Outcome) : List (List String) :=
  let verdict := if outcome.isValid then "true" else "false"
  match outcome.errors with
  | [] => [[entity, verdict, ""]]
  | errors => errors.map fun e => [entity, verdict, e]

/- The lines for a value that was checked. -/
def validatedLines
    (entity : String)
    (outcome : Outcome) : Style → List String
  | .json =>
      jsonLine "validation-result"
        (("entity", .string entity) :: outcome.members)
  | .table =>
      let table : Table :=
        ⟨["ENTITY", "VALID", "ERROR"],
          outcomeRows entity outcome⟩
      [table.render]
  | .pretty =>
      let verdict :=
        if outcome.isValid then "valid" else "invalid"
      (entity ++ ": " ++ verdict) ::
        outcome.errors.map fun e => "  - " ++ e

------------------------------------------------------------
-- The Program Itself
------------------------------------------------------------

/- The lines for the version with all that is known. -/
def versionLines
    (build : Build)
    (schemaPath : Option String) : List String :=
  [ "name: " ++ programName,
    "version: " ++ programVersion,
    "target: " ++ build.target,
    "target_os: " ++ build.system,
    "target_arch: " ++ build.architecture,
    "git_hash: " ++ build.revision,
    "schema_path: " ++ schemaPath.getD "(not set)" ]

/- The lines that explain what can be asked for. -/
def usageLines : List String :=
  [ "Usage: " ++ programName ++ " [OPTIONS] COMMAND",
    "",
    "Commands:",
    "  check [--schema PATH]",
    "      compile all schemas of a document",
    "  validate ENTITY [--schema PATH] [--json TEXT]",
    "      [--file PATH]",
    "      check a value against the schema of an entity",
    "  version [--extended]",
    "      tell the version",
    "",
    "Options:",
    "  --format json|table|pretty",
    "  --log-format text|json",
    "  --log-level error|warn|info|debug|trace" ]

/- A report as text in a style. -/
def render
    (style : Style) : Report → String
  | checked document entities =>
      ofLines (checkedLines document entities style)
  | validated entity outcome =>
      ofLines (validatedLines entity outcome style)
  | shortVersion =>
      ofLines [programName ++ " " ++ programVersion]
  | version build schemaPath =>
      ofLines (versionLines build schemaPath)
  | usage => ofLines usageLines

end Report

end Conform
