import Conform.Text.Blank
import Conform.Text.CaseTable

/-
  This file turns texts into lower and upper case. A letter
  may become several letters, and the capital sigma has a
  form of its own at the end of a word.

  Key definitions include:
    * `Text.mapRun?`
    * `Text.lowerChar`
    * `Text.upperChar`
    * `Text.nextToCased`
    * `Text.lowercase`
    * `Text.uppercase`
-/

namespace Conform

namespace Text

/- The code point that a run maps another to. -/
def mapRun?
    (n : Nat)
    (run : CaseRun) : Option Nat :=
  if run.first ≤ n ∧ n ≤ run.last ∧
      (n - run.first) % run.stride = 0 then
    some (run.target + (n - run.first))
  else
    none

/- A letter mapped by the first of the runs that has it. -/
def mapLetter
    (runs : List CaseRun)
    (c : Char) : Char :=
  match runs.findSome? (mapRun? c.toNat) with
  | some n => Char.ofNat n
  | none => c

/- The lower case of a character by itself. -/
def lowerChar
    (c : Char) : List Char :=
  if c.toNat < 128 then [c.toLower]
  else if c == '\u0130' then ['i', '\u0307']
  else [mapLetter lowerRuns c]

/- The upper case of a character. -/
def upperChar
    (c : Char) : List Char :=
  if c.toNat < 128 then [c.toUpper]
  else
    match upperExpansions.lookup c.toNat with
    | some codes => codes.map Char.ofNat
    | none => [mapLetter upperRuns c]

/-
  A text whose first character, after those that do not
  matter for case, is a letter with case.
-/
def nextToCased
    (cs : List Char) : Bool :=
  match cs.dropWhile (inRanges caseIgnorableRanges) with
  | [] => false
  | c :: _ => inRanges casedRanges c

/-
  The lower case of a text, given the characters before it,
  the last of them first. A capital sigma ends a word if
  there is a letter before it and none after it.
-/
def lowerFrom
    (before : List Char) : List Char → List Char
  | [] => []
  | c :: rest =>
      let lowered :=
        if c == '\u03a3' then
          if nextToCased before && !nextToCased rest then
            ['\u03c2']
          else
            ['\u03c3']
        else
          lowerChar c
      lowered ++ lowerFrom (c :: before) rest

/- A text in lower case. -/
def lowercase
    (text : String) : String :=
  String.ofList (lowerFrom [] text.toList)

/- A text in upper case. -/
def uppercase
    (text : String) : String :=
  String.ofList (text.toList.flatMap upperChar)

end Text

end Conform
