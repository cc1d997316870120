import Conform.Command.Arguments

/-
  This file defines what a command line can ask for, and how
  its arguments say so: common options, a command, and the
  options and operands of the command. Common options may
  stand before or behind the command.

  Key definitions include:
    * `Style`
    * `Subject`
    * `Command`
    * `Request`
    * `Variables`
    * `Request.ofArguments`
-/

namespace Conform

------------------------------------------------------------
-- Requests
------------------------------------------------------------

/- How a report is shown. -/
inductive Style
  | json
  | table
  | pretty
deriving DecidableEq

/- The style that a word names. -/
def Style.ofWord? : String → Option Style
  | "json" => some json
  | "table" => some table
  | "pretty" => some pretty
  | _ => none

/- Where the value to be checked is written. -/
inductive Subject
  | text (json : String)
  | file (path : String)
deriving DecidableEq

/-
  What there is to do: compile all schemas of a document,
  check a value against the schema of an entity, or tell the
  version.
-/
inductive Command
  | check (schema : Option String)
  | validate (entity : String) (schema : Option String)
      (subject : Option Subject)
  | version (extended : Bool)
deriving DecidableEq

/- What a command line asks for. -/
inductive Request
  | usage
  | shortVersion
  | perform (style : Option Style) (command : Command)
deriving DecidableEq

/- The variables that stand in for missing options. -/
structure Variables where
  schemaPath : Option String
  logLevel : Option String

/- The name of the variable for the level of the log. -/
def Variables.logLevelName : String :=
  "VALKIT_LOG_LEVEL"

------------------------------------------------------------
-- Vocabularies
------------------------------------------------------------

namespace Request

/- The words for the form of a log. -/
def logFormats : List String :=
  ["text", "json"]

/- The words for how much a log tells. -/
def logLevels : List String :=
  ["error", "warn", "info", "debug", "trace"]

/- The options that all commands have. -/
def commonOptions : List (String × (String → Bool)) :=
  [ ("format", fun word => (Style.ofWord? word).isSome),
    ("log-format", fun word => logFormats.contains word),
    ("log-level", fun word => logLevels.contains word) ]

/- An option for a path, which cannot be empty. -/
def pathOption
    (name : String) : String × (String → Bool) :=
  (name, fun path => path != "")

/- What may stand before a command. -/
def leadingVocabulary : Vocabulary :=
  ⟨commonOptions, ["help", "version"],
    [('h', "help"), ('V', "version")], 1⟩

/- What may stand behind a command. -/
def commandVocabulary
    (options : List (String × (String → Bool)))
    (flags : List String)
    (operands : Nat) : Vocabulary :=
  ⟨commonOptions ++ options, "help" :: flags,
    [('h', "help")], operands⟩

/- What may stand behind `check`. -/
def checkVocabulary : Vocabulary :=
  commandVocabulary [pathOption "schema"] [] 0

/- What may stand behind `validate`. -/
def validateVocabulary : Vocabulary :=
  commandVocabulary
    [ pathOption "schema", ("json", fun _ => true),
      pathOption "file" ] [] 1

/- What may stand behind `version`. -/
def versionVocabulary : Vocabulary :=
  commandVocabulary [] ["extended"] 0

------------------------------------------------------------
-- Reading
------------------------------------------------------------

/-
  The variable for the level of the log must hold one, unless
  the option is given on both sides of the command.
-/
def checkLogLevel
    (vars : Variables)
    (before behind : Given) : Except ArgumentError Unit :=
  if (before.value? "log-level").isSome &&
      (behind.value? "log-level").isSome then .ok ()
  else
    match vars.logLevel with
    | none => .ok ()
    | some word =>
        if logLevels.contains word then .ok ()
        else .error (.badValue "log-level" word)

/- The style. What stands behind the command counts first. -/
def styleOf
    (before behind : Given) : Option Style :=
  (behind.value? "format").or (before.value? "format") |>.bind
    Style.ofWord?

/- The path of the document from its option or variable. -/
def schemaOf
    (vars : Variables)
    (g : Given) : Except ArgumentError (Option String) :=
  match g.value? "schema", vars.schemaPath with
  | some path, _ => .ok (some path)
  | none, some "" => .error (.badValue "schema" "")
  | none, path => .ok path

/- The value to be checked, which is given at most once. -/
def subjectOf
    (g : Given) : Except ArgumentError (Option Subject) :=
  match g.value? "json", g.value? "file" with
  | some _, some _ => .error (.together "json" "file")
  | some text, none => .ok (some (.text text))
  | none, some path => .ok (some (.file path))
  | none, none => .ok none

/- The command that what stands behind `check` makes. -/
def checkOf
    (vars : Variables)
    (g : Given) : Except ArgumentError Command :=
  (schemaOf vars g).map Command.check

/- The command that what stands behind `validate` makes. -/
def validateOf
    (vars : Variables)
    (g : Given) : Except ArgumentError Command := do
  let schema ← schemaOf vars g
  let subject ← subjectOf g
  match g.operands with
  | entity :: _ => .ok (.validate entity schema subject)
  | [] => .error (.noOperand "ENTITY")

/- The command that what stands behind `version` makes. -/
def versionOf
    (g : Given) : Except ArgumentError Command :=
  .ok (.version (g.has "extended"))

/-
  Reads what stands behind a command. A question for help is
  answered at once.
-/
def readBehind
    (vars : Variables)
    (known : Vocabulary)
    (make : Given → Except ArgumentError Command)
    (before behind : Given) :
    List String → Except ArgumentError Request
  | [] => do
      let behind ← behind.complete
      checkLogLevel vars before behind
      let command ← make behind
      .ok (.perform (styleOf before behind) command)
  | arg :: rest =>
      match behind.take known arg with
      | .error e => .error e
      | .ok behind =>
          if behind.has "help" then .ok .usage
          else
            readBehind vars known make before behind rest

/- Reads a command and what stands behind it. -/
def readCommand
    (vars : Variables)
    (before : Given)
    (name : String)
    (rest : List String) : Except ArgumentError Request :=
  match name with
  | "check" =>
      readBehind vars checkVocabulary (checkOf vars)
        before Given.nothing rest
  | "validate" =>
      readBehind vars validateVocabulary
        (validateOf vars) before Given.nothing rest
  | "version" =>
      readBehind vars versionVocabulary versionOf
        before Given.nothing rest
  | "help" =>
      match rest with
      | [] => .ok .usage
      | topic :: more =>
          let known := ["check", "validate", "version", "help"]
          if known.contains topic then
            match more with
            | [] => .ok .usage
            | other :: _ => .error (.unknownCommand other)
          else .error (.unknownCommand topic)
  | _ => .error (.unknownCommand name)

/- Reads what stands before a command, and the command. -/
def readBefore
    (vars : Variables)
    (before : Given) :
    List String → Except ArgumentError Request
  | [] => .error .noCommand
  | arg :: rest =>
      match before.take leadingVocabulary arg with
      | .error e => .error e
      | .ok before =>
          if before.has "help" then .ok .usage
          else if before.has "version" then .ok .shortVersion
          else
            match before.operands with
            | [] => readBefore vars before rest
            | name :: _ =>
                if before.closed then .error (.unexpected name)
                else readCommand vars before name rest

/- What arguments ask for. -/
def ofArguments
    (vars : Variables)
    (args : List String) : Except ArgumentError Request :=
  readBefore vars Given.nothing args

end Request

end Conform
