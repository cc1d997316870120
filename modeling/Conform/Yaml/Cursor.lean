/-
  This file defines cursors into YAML text. A cursor knows
  the text that is left and its own line and column, because
  indentation has a meaning. Columns count characters. A
  cursor also knows the number of bytes before it, in which
  distances are told.

  Key definitions include:
    * `Yaml.isBreak`
    * `Yaml.isWhite`
    * `Yaml.endsWord`
    * `Yaml.byteCount`
    * `Yaml.Cursor`
    * `Yaml.Cursor.advance`
    * `Yaml.Cursor.newline`
    * `Yaml.Cursor.atIndicator`
    * `Yaml.fold`
-/

namespace Conform

namespace Yaml

------------------------------------------------------------
-- Characters
------------------------------------------------------------

/- A character that ends a line. -/
def isBreak
    (c : Char) : Bool :=
  c == '\n' || c == '\r' || c == '\u0085' || c == '\u2028' ||
    c == '\u2029'

/- A blank inside a line. -/
def isWhite
    (c : Char) : Bool :=
  c == ' ' || c == '\t'

/- A character that may stand in a name. -/
def isNameChar
    (c : Char) : Bool :=
  c.isAlphanum || c == '_' || c == '-'

/- A character that may stand in a YAML text at all. -/
def isAllowed
    (c : Char) : Bool :=
  c == '\t' || c == '\n' || c == '\r' ||
    (decide (' ' ≤ c) && decide (c ≤ '~')) ||
    c == '\u0085' ||
    (decide ('\u00a0' ≤ c) && decide (c ≤ '\ufffd')) ||
    decide ('\uffff' < c)

/- A text at whose start no word can go on. -/
def endsWord : List Char → Bool
  | [] => true
  | c :: _ => isWhite c || isBreak c

/- A text that starts with one of some characters. -/
def startsWithOne
    (accepted : List Char) : List Char → Bool
  | [] => false
  | c :: _ => accepted.contains c

------------------------------------------------------------
-- Cursors
------------------------------------------------------------

/- The number of bytes that encode a text. -/
def byteCount
    (cs : List Char) : Nat :=
  cs.foldl (fun n c => n + c.utf8Size) 0

/-
  The text that is left, and the place where it starts. Its
  index is the number of bytes before it.
-/
structure Cursor where
  rest : List Char
  index : Nat
  line : Nat
  column : Nat

namespace Cursor

/- The start of a text. -/
def start
    (cs : List Char) : Cursor :=
  ⟨cs, 0, 0, 0⟩

/- Goes past some characters of the line. -/
def advance
    (c : Cursor)
    (n : Nat) : Cursor :=
  ⟨c.rest.drop n, c.index + byteCount (c.rest.take n), c.line,
    c.column + n⟩

/- Goes past the end of the line, which two characters may
  mark, and returns what it stands for in a scalar. -/
def newline
    (c : Cursor) : List Char × Cursor :=
  match c.rest with
  | '\r' :: '\n' :: rest =>
      (['\n'], ⟨rest, c.index + 2, c.line + 1, 0⟩)
  | b :: rest =>
      let text := if b == '\u2028' || b == '\u2029' then b
        else '\n'
      ([text], ⟨rest, c.index + b.utf8Size, c.line + 1, 0⟩)
  | [] => ([], c)

/- Goes past the characters that have a property. -/
def span
    (c : Cursor)
    (p : Char → Bool) : List Char × Cursor :=
  let taken := c.rest.takeWhile p
  (taken, c.advance taken.length)

/- Goes past the rest of the line. -/
def skipLine
    (c : Cursor) : Cursor :=
  (c.span fun x => !isBreak x).2

/- Goes past a comment that starts here. -/
def skipComment
    (c : Cursor) : Cursor :=
  if startsWithOne ['#'] c.rest then c.skipLine else c

/-
  Goes past blanks and a comment to the end of the line.
  Nothing else may be left on the line.
-/
def finishLine?
    (c : Cursor) : Option Cursor :=
  let c := (c.span isWhite).2.skipComment
  match c.rest with
  | [] => some c
  | b :: _ => if isBreak b then some c.newline.2 else none

/- A mark of three characters at the start of a line. -/
def atMark
    (c : Cursor)
    (mark : Char) : Bool :=
  c.column == 0 &&
    (c.rest.take 3 == [mark, mark, mark]) &&
    endsWord (c.rest.drop 3)

/- A mark for the start or the end of a document. -/
def atIndicator
    (c : Cursor) : Bool :=
  c.atMark '-' || c.atMark '.'

end Cursor

------------------------------------------------------------
-- Folding
------------------------------------------------------------

/-
  What the ends of lines between two words stand for: one of
  them stands for a blank, and of more the first vanishes.
-/
def fold
    (first others : List Char) : List Char :=
  if first == ['\n'] then
    if others.isEmpty then [' '] else others
  else
    first ++ others

/-
  The blanks and ends of lines between two words, each run
  with the last of them first. They may start in a line
  whose end is to be ignored.
-/
structure Gap where
  spaces : List Char
  first : List Char
  others : List Char
  broken : Bool

namespace Gap

/- The gap before anything is read. -/
def empty
    (broken : Bool) : Gap :=
  ⟨[], [], [], broken⟩

/- The text that a gap stands for. -/
def text
    (g : Gap) : List Char :=
  if g.broken then fold g.first g.others.reverse
  else g.spaces.reverse

/-
  Reads a gap. A tab may not stand where indentation is due,
  which is before column `margin` of a new line.
-/
def scan?
    (margin : Nat) :
    Nat → Gap → Cursor → Option (Gap × Cursor)
  | 0, g, c => some (g, c)
  | fuel + 1, g, c =>
      match c.rest with
      | [] => some (g, c)
      | x :: _ =>
          if isWhite x then
            if g.broken then
              if x == '\t' && decide (c.column < margin) then none
              else scan? margin fuel g (c.advance 1)
            else
              scan? margin fuel
                { g with spaces := x :: g.spaces } (c.advance 1)
          else if isBreak x then
            let (text, next) := c.newline
            if g.broken then
              scan? margin fuel
                { g with others := text ++ g.others } next
            else
              scan? margin fuel ⟨[], text, [], true⟩ next
          else
            some (g, c)

end Gap

end Yaml

end Conform
