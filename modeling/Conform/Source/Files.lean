import Conform.Fields
import Conform.Source.Path

/-
  This file defines what can be found under a path. Files
  deliver bytes; a device may deliver more of them than it
  says, and even without an end.

  Key definitions include:
    * `Content`
    * `Content.take`
    * `Entry`
    * `OpenError`
    * `OpenError.text`
    * `Files`
    * `Tree`
    * `Tree.files`
-/

namespace Conform

------------------------------------------------------------
-- Contents
------------------------------------------------------------

/- The bytes that a file delivers. -/
inductive Content
  | bytes (all : List UInt8)
  | endless (byteAt : Nat → UInt8)

namespace Content

/- The first bytes, up to a number of them. -/
def take
    (n : Nat) : Content → List UInt8
  | bytes all => all.take n
  | endless byteAt => (List.range n).map byteAt

end Content

------------------------------------------------------------
-- Entries
------------------------------------------------------------

/-
  What is found under a path: a regular file, a device, or a
  directory, each with the size that it is said to have.
-/
inductive Entry
  | file (size : Nat) (content : Content)
  | device (size : Nat) (content : Content)
  | directory (size : Nat)

namespace Entry

/- Whether an entry is a regular file. -/
def isFile : Entry → Bool
  | file _ _ => true
  | device _ _ => false
  | directory _ => false

/- The size that an entry is said to have. -/
def size : Entry → Nat
  | file n _ => n
  | device n _ => n
  | directory n => n

/- What an entry delivers, if it is no directory. -/
def content? : Entry → Option Content
  | file _ c => some c
  | device _ c => some c
  | directory _ => none

end Entry

/-
  Why nothing is found under a path. A path can lead through
  something that is no directory, and there are paths that
  cannot lead anywhere.
-/
inductive OpenError
  | missing
  | notDirectory
  | tooLong
  | hasNull
deriving DecidableEq

/- The words for why nothing is found. -/
def OpenError.text : OpenError → String
  | missing => "No such file or directory (os error 2)"
  | notDirectory => "Not a directory (os error 20)"
  | tooLong => "File name too long (os error 36)"
  | hasNull => "file name contained an unexpected NUL byte"

/- What is found under each path. -/
abbrev Files :=
  String → Except OpenError Entry

/- Whether a path leads to a regular file. -/
def Files.isFile
    (files : Files)
    (path : String) : Bool :=
  match files path with
  | .ok entry => entry.isFile
  | .error _ => false

------------------------------------------------------------
-- Trees
------------------------------------------------------------

/- A tree of named directories and files. -/
inductive Tree
  | leaf (entry : Entry)
  | branch (children : List (String × Tree))

namespace Tree

/- The size that directories are said to have. -/
def directorySize : Nat :=
  4096

/- What stands at a place of a tree. -/
def entry : Tree → Entry
  | leaf e => e
  | branch _ => .directory directorySize

/-
  Follows names down from a place. The places above it are
  kept for steps up, and the root has itself above. Names
  that are too long are refused where they are looked up.
-/
def walk
    (above : List Tree)
    (here : Tree) :
    List String → Except OpenError Tree
  | [] => .ok here
  | name :: rest =>
      match here with
      | leaf _ => .error .notDirectory
      | branch children =>
          if name == ".." then
            match above with
            | [] => walk [] here rest
            | parent :: above => walk above parent rest
          else
            if Path.maxName < name.utf8ByteSize then
              .error .tooLong
            else
              match children.lookup name with
              | none => .error .missing
              | some child => walk (here :: above) child rest

/-
  What is found in a tree under a path from its root. A path
  with a slash or a dot at its end must lead to a directory.
-/
def files
    (root : Tree) : Files :=
  fun path =>
    if path.toList.contains '\x00' then .error .hasNull
    else if path.isEmpty then .error .missing
    else if Path.maxPath < path.utf8ByteSize then
      .error .tooLong
    else
      match walk [] root (Path.segments path) with
      | .error e => .error e
      | .ok (leaf e) =>
          match (Text.pieces '/' path).getLast? with
          | some [] => .error .notDirectory
          | some ['.'] => .error .notDirectory
          | _ => .ok e
      | .ok (branch children) => .ok (branch children).entry

/- Puts a tree in the place that names lead to. -/
def insert
    (added : Tree) : List String → Tree → Tree
  | [], _ => added
  | name :: rest, here =>
      let children :=
        match here with
        | branch children => children
        | leaf _ => []
      let child := (children.lookup name).getD (branch [])
      branch (Fields.insert name (insert added rest child)
        children)

end Tree

end Conform
