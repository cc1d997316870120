import Conform.Text.Cluster

/-
  This file defines the width of a text, which is the number
  of columns that it takes up where every character takes
  the same space.

  Key definitions include:
    * `Text.measure`
    * `Text.width`
    * `Text.padTo`
-/

namespace Conform

namespace Text

/-
  The number of columns of a text, and what its characters
  are the start of.
-/
def measure
    (cs : List Char) : Int × Tail :=
  cs.foldr
    (fun c rest =>
      let (n, tail) := rest.2.step c
      (n + rest.1, tail))
    (0, Tail.start)

/- The number of columns that a text takes up. -/
def width
    (cs : List Char) : Nat :=
  (measure cs).1.toNat

/- A text with blanks behind it, up to a width. -/
def padTo
    (columns : Nat)
    (cs : List Char) : List Char :=
  cs ++ List.replicate (columns - width cs) ' '

end Text

end Conform
