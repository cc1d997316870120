import Conform.Text.Split

/-
  This file defines the parts of file paths that matter for
  finding documents: the name of the file that a path leads
  to, and the extension of that name.

  Key definitions include:
    * `Path.maxName`
    * `Path.maxPath`
    * `Path.segments`
    * `Path.fileName?`
    * `Path.extension?`
    * `Path.withExtension`
-/

namespace Conform

namespace Path

/- The most bytes that a name in a path may have. -/
def maxName : Nat :=
  255

/- The most bytes that a path may have. -/
def maxPath : Nat :=
  4095

/-
  The names that a path goes through. Empty names and single
  dots stand for no step.
-/
def segments
    (path : String) : List String :=
  ((Text.pieces '/' path).map String.ofList).filter
    fun s => s != "" && s != "."

/-
  The name of the file that a path leads to. A path that
  ends with a step up has none.
-/
def fileName?
    (path : String) : Option String :=
  (segments path).getLast?.filter fun s => s != ".."

/- A text before and after its last dot. -/
def splitLastDot?
    (cs : List Char) : Option (List Char × List Char) :=
  let after := cs.reverse.takeWhile fun c => c != '.'
  match cs.reverse.dropWhile fun c => c != '.' with
  | [] => none
  | _ :: before => some (before.reverse, after.reverse)

/-
  What follows the last dot of the name of a file. A dot at
  the start of the name starts no extension.
-/
def extension?
    (path : String) : Option String :=
  match (fileName? path).bind fun n => splitLastDot? n.toList with
  | none => none
  | some ([], _) => none
  | some (_ :: _, after) => some (String.ofList after)

/- A path with an extension put behind it. -/
def withExtension
    (path extension : String) : String :=
  path ++ "." ++ extension

end Path

end Conform
