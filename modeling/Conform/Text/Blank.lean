/-
  This file defines the blank characters, which are those
  with the Unicode property White_Space, and the removal of
  blanks around a text.

  Key definitions include:
    * `Text.blankRanges`
    * `Text.inRanges`
    * `Text.isBlank`
    * `Text.dropBlanks`
    * `Text.trim`
-/

namespace Conform

namespace Text

/- The first and last code points of each run of blanks. -/
def blankRanges : List (Nat × Nat) :=
  [ (0x0009, 0x000d), (0x0020, 0x0020), (0x0085, 0x0085),
    (0x00a0, 0x00a0), (0x1680, 0x1680), (0x2000, 0x200a),
    (0x2028, 0x2029), (0x202f, 0x202f), (0x205f, 0x205f),
    (0x3000, 0x3000) ]

/- A character whose code point lies in one of the ranges. -/
def inRanges
    (ranges : List (Nat × Nat))
    (c : Char) : Bool :=
  ranges.any fun r =>
    decide (r.1 ≤ c.toNat) && decide (c.toNat ≤ r.2)

/- A character that counts as white space. -/
def isBlank
    (c : Char) : Bool :=
  inRanges blankRanges c

/- A text without the blanks at its front. -/
def dropBlanks
    (cs : List Char) : List Char :=
  cs.dropWhile isBlank

/- A text without the blanks at both ends. -/
def trim
    (text : String) : String :=
  String.ofList
    (dropBlanks (dropBlanks text.toList).reverse).reverse

end Text

end Conform
