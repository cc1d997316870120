import Conform.Definition.Fault
import Conform.Source.Files

/-
  This file defines the failures of finding and reading a
  document and of compiling what it declares.

  Key definitions include:
    * `LoadError`
    * `Failure`
    * `Failure.message`
-/

namespace Conform

/- Why the bytes of a file give no text. -/
inductive ReadError
  | isDirectory
  | notText
deriving DecidableEq

/- Why a document could not be loaded. -/
inductive LoadError
  | opening (path : String) (why : OpenError)
  | tooLarge (size most : Nat) (path : String)
  | reading (path : String) (why : ReadError)
  | tooLargeWhileReading (path : String)
deriving DecidableEq

namespace LoadError

/- The message for a document that could not be loaded. -/
def text : LoadError → String
  | opening path why =>
      "failed opening " ++ path ++ ": " ++ why.text
  | tooLarge size most path =>
      "document too large (" ++ toString size ++ " bytes, max " ++
        toString most ++ "): " ++ path
  | reading path why =>
      let words :=
        match why with
        | .isDirectory => "Is a directory (os error 21)"
        | .notText => "stream did not contain valid UTF-8"
      "failed reading " ++ path ++ ": " ++ words
  | tooLargeWhileReading path =>
      "document too large while reading: " ++ path

end LoadError

/- Why there is no document, or no schema for a name in it. -/
inductive Failure
  | noPath
  | unsupportedExtension (path : String)
  | notFound (path : String)
  | noDocument (path : String)
  | load (error : LoadError)
  | malformed (source : String)
  | rootNotMapping (source : String)
  | missingEntity (name : String)
  | fault (f : Fault)
deriving DecidableEq

namespace Failure

/-
  Stands in messages for the details of malformed text,
  which are not told.
-/
def details : String :=
  "*"

/- The message for text that is no document. -/
def parseText
    (source detail : String) : String :=
  "failed to parse schema document " ++ source ++ ": " ++ detail

/- The message for a failure. -/
def message : Failure → String
  | noPath =>
      "no schema path configured (set VALKIT_SCHEMA_PATH)"
  | unsupportedExtension path =>
      "unsupported schema file extension: " ++ path
  | notFound path => "schema file not found: " ++ path
  | noDocument path =>
      "no schema file with a json, yaml or yml extension at " ++
        path
  | load error =>
      "failed to load schema document: " ++ error.text
  | malformed source => parseText source details
  | rootNotMapping source =>
      parseText source ("document root must be a mapping of " ++
        "entity names to definitions")
  | missingEntity name =>
      "schema '" ++ name ++ "' is not defined in the document"
  | fault f => f.message

end Failure

end Conform
