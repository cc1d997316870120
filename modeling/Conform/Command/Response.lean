import Conform.Catalog
import Conform.Command.Report

/-
  This file defines how commands are carried out: what they
  report, or why they are refused, and the response that the
  program gives in either case.

  Key definitions include:
    * `Refusal`
    * `Refusal.code`
    * `Refusal.message`
    * `Command.checkDocument`
    * `Command.validateSubject`
    * `Surroundings`
    * `Command.perform`
    * `Response.toArguments`
-/

namespace Conform

------------------------------------------------------------
-- Refusals
------------------------------------------------------------

/- What was being done when a failure arose. -/
inductive Stage
  | opening
  | compiling
  | settingUp
  | readingSubject
deriving DecidableEq

/- The words for what was being done. -/
def Stage.words : Stage → String
  | opening => "schema load failed"
  | compiling => "schema compile failed"
  | settingUp => "validation setup failed"
  | readingSubject => "instance load failed"

/- Why a command is not carried out. -/
inductive Refusal
  | arguments (error : ArgumentError)
  | failure (stage : Stage) (failure : Failure)
  | badSubject (source : String)
  | noSubject
  | noOutcome
deriving DecidableEq

namespace Refusal

/- The code for things that are not as they should be. -/
def generalCode : Nat :=
  1

/- The code for arguments that ask for nothing. -/
def argumentCode : Nat :=
  2

/- The code for a use of the program that is not meant. -/
def usageCode : Nat :=
  64

/- The code for a failure with a document. -/
def failureCode : Failure → Nat
  | .noPath => usageCode
  | .unsupportedExtension _ => usageCode
  | .missingEntity _ => usageCode
  | .notFound _ => generalCode
  | .noDocument _ => generalCode
  | .load _ => generalCode
  | .malformed _ => Report.invalidCode
  | .rootNotMapping _ => Report.invalidCode
  | .fault _ => Report.invalidCode

/- The code that the program ends with. -/
def code : Refusal → Nat
  | arguments _ => argumentCode
  | failure _ f => failureCode f
  | badSubject _ => Report.invalidCode
  | noSubject => usageCode
  | noOutcome => generalCode

/- The message for a command that is not carried out. -/
def message : Refusal → String
  | arguments e => e.message
  | failure stage f => stage.words ++ ": " ++ f.message
  | badSubject source =>
      "invalid instance in " ++ source ++ ": " ++
        Failure.details
  | noSubject => "one of --json or --file is required"
  | noOutcome => "validation did not come to an end"

end Refusal

------------------------------------------------------------
-- Commands
------------------------------------------------------------

namespace Command

/- Names what was being done when a failure arose. -/
def during {α : Type}
    (stage : Stage) :
    Except Failure α → Except Refusal α
  | .ok a => .ok a
  | .error f => .error (.failure stage f)

/- The catalog of the document under a path, if there is one. -/
def openCatalog
    (files : Files)
    (schema : Option String) : Except Refusal Catalog :=
  during .opening
    (Catalog.load files Registry.usual
      ⟨schema, Location.usualMaxSize⟩)

/-
  Compiles all schemas of a document, and reports the kind
  of each.
-/
def checkDocument
    (files : Files)
    (schema : Option String) : Except Refusal Report := do
  let catalog ← openCatalog files schema
  let handles ← during .compiling catalog.getAll.1
  .ok (.checked (catalog.path.getD "")
    (handles.map fun h => (h.1, h.2.schema.kind)))

/- The value that a text denotes, with its source for errors. -/
def parseSubject
    (format : Format)
    (text source : String) : Except Refusal Value :=
  match Document.parseJson? format text with
  | some j => .ok (Value.ofJson j)
  | none => .error (.badSubject source)

/-
  The value to be checked. A file that does not say that it
  is YAML is taken for JSON.
-/
def readSubject
    (files : Files) :
    Option Subject → Except Refusal Value
  | none => .error .noSubject
  | some (.text text) => parseSubject .json text "--json"
  | some (.file path) => do
      let text ← during .readingSubject
        ((readText files path Location.usualMaxSize).mapError
          Failure.load)
      let format := (Format.ofPath? path).getD .json
      parseSubject format text path

/-
  Checks a value against the schema of an entity. The value
  is read before the document.
-/
def validateSubject
    (files : Files)
    (entity : String)
    (schema : Option String)
    (subject : Option Subject) : Except Refusal Report := do
  let value ← readSubject files subject
  let catalog ← openCatalog files schema
  let outcome? ← during .settingUp
    (catalog.validate entity value).1
  match outcome? with
  | some outcome => .ok (.validated entity outcome)
  | none => .error .noOutcome

end Command

------------------------------------------------------------
-- Responses
------------------------------------------------------------

/-
  Where the program runs: the files and variables that it
  sees, whether its output goes to a terminal, and how it
  was built.
-/
structure Surroundings where
  files : Files
  vars : Variables
  terminal : Bool
  build : Build

namespace Surroundings

/- The style of reports if none is asked for. -/
def usualStyle
    (s : Surroundings) : Style :=
  if s.terminal then .table else .json

end Surroundings

/- All paths that carrying out a command may look at. -/
def Command.paths : Command → List String
  | .check schema => Location.paths schema
  | .validate _ schema (some (.file path)) =>
      path :: Location.paths schema
  | .validate _ schema _ => Location.paths schema
  | .version _ => []

/- Carries out a command. -/
def Command.perform
    (s : Surroundings) : Command → Except Refusal Report
  | .check schema => checkDocument s.files schema
  | .validate entity schema subject =>
      validateSubject s.files entity schema subject
  | .version extended =>
      if extended then
        .ok (.version s.build s.vars.schemaPath)
      else .ok .shortVersion

/-
  What the program does in the end: it writes an output or
  an error, and leaves a code.
-/
structure Response where
  code : Nat
  output : String
  error : Option String
deriving DecidableEq

namespace Response

/- The response to a report in a style. -/
def ofReport
    (style : Style)
    (report : Report) : Response :=
  ⟨report.code, report.render style, none⟩

/- The response to a refusal. -/
def ofRefusal
    (refusal : Refusal) : Response :=
  ⟨refusal.code, "", some ("error: " ++ refusal.message)⟩

/- The response to a request. -/
def toRequest
    (s : Surroundings) : Request → Response
  | .usage => ofReport s.usualStyle .usage
  | .shortVersion => ofReport s.usualStyle .shortVersion
  | .perform style command =>
      match command.perform s with
      | .ok report => ofReport (style.getD s.usualStyle) report
      | .error refusal => ofRefusal refusal

/- The response to the arguments of a command line. -/
def toArguments
    (s : Surroundings)
    (args : List String) : Response :=
  match Request.ofArguments s.vars args with
  | .ok request => toRequest s request
  | .error e => ofRefusal (.arguments e)

end Response

end Conform
