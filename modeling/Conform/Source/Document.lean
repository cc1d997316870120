import Conform.Json.Reader
import Conform.Yaml.Reader
import Conform.Source.Location

/-
  This file loads documents: the text of a file is read up to
  a size, and the text is parsed as a mapping of names to
  definitions.

  Key definitions include:
    * `readText`
    * `Document`
    * `Document.ofJson?`
    * `Document.parse`
    * `Document.load`
-/

namespace Conform

------------------------------------------------------------
-- Reading
------------------------------------------------------------

/- The greatest size that can be asked for. -/
def sizeLimit : Nat :=
  Nat.pow 2 64 - 1

/- The text that bytes encode. -/
def textOfBytes?
    (bytes : List UInt8) : Option String :=
  String.fromUTF8? (ByteArray.mk bytes.toArray)

/-
  Reads the text under a path. The size that the entry is
  said to have is checked first. Since it may deliver more,
  one byte more than allowed is read, which must not be
  there.
-/
def readText
    (files : Files)
    (path : String)
    (maxSize : Nat) : Except LoadError String :=
  match files path with
  | .error e => .error (.opening path e)
  | .ok entry =>
      if maxSize < entry.size then
        .error (.tooLarge entry.size maxSize path)
      else
        match entry.content? with
        | none => .error (.reading path .isDirectory)
        | some content =>
            let bytes := content.take (min (maxSize + 1) sizeLimit)
            match textOfBytes? bytes with
            | none => .error (.reading path .notText)
            | some text =>
                if maxSize < bytes.length then
                  .error (.tooLargeWhileReading path)
                else .ok text

------------------------------------------------------------
-- Documents
------------------------------------------------------------

/- Definitions in order of their names. -/
structure Document where
  definitions : List (String × Json)
  ordered : Fields.Ordered definitions

namespace Document

/- The document of pairs, of which later ones count. -/
def ofPairs
    (pairs : List (String × Json)) : Document :=
  ⟨Fields.ofPairs pairs, Fields.ordered_ofPairs pairs⟩

/- The document that JSON data holds, if it is an object. -/
def ofJson?
    (j : Json) : Option Document :=
  j.asObject?.map ofPairs

/- The data that a text denotes in a format. -/
def parseJson?
    (format : Format)
    (text : String) : Option Json :=
  match format with
  | .json => Json.parse? Json.documentDepth text
  | .yaml => Yaml.parse? Json.documentDepth text

/- The document that data hold, with its source for errors. -/
def ofData
    (source : String)
    (j : Json) : Except Failure Document :=
  match ofJson? j with
  | some document => .ok document
  | none => .error (.rootNotMapping source)

/- The document of a text, with its source for errors. -/
def parse
    (format : Format)
    (text source : String) : Except Failure Document :=
  match parseJson? format text with
  | some j => ofData source j
  | none => .error (.malformed source)

/- The source of a document that is not from a file. -/
def inline : String :=
  "<inline>"

/- Loads the document at a location, and returns its path. -/
def load
    (files : Files)
    (location : Location) :
    Except Failure (String × Document) := do
  let path ← location.resolve files
  match Format.ofPath? path with
  | none => .error (.unsupportedExtension path)
  | some format =>
      match readText files path location.maxSize with
      | .error e => .error (.load e)
      | .ok text =>
          let document ← parse format text path
          .ok (path, document)

end Document

end Conform
