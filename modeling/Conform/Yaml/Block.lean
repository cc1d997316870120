import Conform.Number.Decimal
import Conform.Yaml.Cursor

/-
  This file reads YAML block scalars, whose lines are the
  indented lines below a header. A literal scalar keeps the
  ends of lines, and a folded scalar folds them.

  Key definitions include:
    * `Yaml.Chomp`
    * `Yaml.Header`
    * `Yaml.Header.scan?`
    * `Yaml.blockBreaks?`
    * `Yaml.blockLines?`
    * `Yaml.scanBlock?`
-/

namespace Conform

namespace Yaml

------------------------------------------------------------
-- Headers
------------------------------------------------------------

/- What happens to the ends of lines after the last line. -/
inductive Chomp
  | strip
  | clip
  | keep

/- What the header of a block scalar says. -/
structure Header where
  chomp : Chomp
  indentation : Option Nat

namespace Header

/- A mark for the ends of lines after the last line. -/
def chomp?
    (c : Cursor) : Option (Chomp × Cursor) :=
  match c.rest with
  | '+' :: _ => some (.keep, c.advance 1)
  | '-' :: _ => some (.strip, c.advance 1)
  | _ => none

/-
  The digit for the indentation, where there is one. It may
  not be zero.
-/
def indentation?
    (c : Cursor) : Option (Option Nat × Cursor) :=
  match c.rest with
  | [] => some (none, c)
  | d :: _ =>
      if d == '0' then none
      else if d.isDigit then
        some (some (Decimal.digitValue d), c.advance 1)
      else some (none, c)

/- Reads a header with its two marks in either order. -/
def scan?
    (c : Cursor) : Option (Header × Cursor) :=
  match chomp? c with
  | some (chomp, c) =>
      (indentation? c).map fun r => (⟨chomp, r.1⟩, r.2)
  | none =>
      match indentation? c with
      | none => none
      | some (indentation, c) =>
          match indentation, chomp? c with
          | some n, some (chomp, c) => some (⟨chomp, some n⟩, c)
          | indentation, _ => some (⟨.clip, indentation⟩, c)

end Header

------------------------------------------------------------
-- Lines
------------------------------------------------------------

/- Goes past blanks before a column, or past all of them. -/
def skipIndentation
    (indent : Option Nat)
    (c : Cursor) : Cursor :=
  let spaces := c.rest.takeWhile fun x => x == ' '
  match indent with
  | none => c.advance spaces.length
  | some n => c.advance (min spaces.length (n - c.column))

/-
  Goes past empty lines and indentation. The indentation may
  still be unknown; then the deepest of the empty lines is
  returned as well. A tab may not stand in the indentation.
-/
def blockBreaks?
    (indent : Option Nat) :
    Nat → List Char → Nat → Cursor →
      Option (List Char × Nat × Cursor)
  | 0, done, deepest, c => some (done, deepest, c)
  | fuel + 1, done, deepest, c =>
      let c := skipIndentation indent c
      let deepest := max deepest c.column
      let early :=
        match indent with
        | none => true
        | some n => decide (c.column < n)
      match c.rest with
      | [] => some (done, deepest, c)
      | x :: _ =>
          if early && x == '\t' then none
          else if isBreak x then
            let (text, c) := c.newline
            blockBreaks? indent fuel (text ++ done) deepest c
          else some (done, deepest, c)

/-
  What has been read of a block scalar: its text, the end of
  its last line and the empty lines after it, all with the
  last character first, and whether the last line started
  with a blank.
-/
structure BlockText where
  done : List Char
  ending : List Char
  others : List Char
  indented : Bool

/-
  Reads the lines at the indentation of the scalar. In a
  folded scalar the end of a line becomes a blank, unless
  one of the lines next to it starts with a blank.
-/
def blockLines?
    (literal : Bool)
    (indent : Nat) :
    Nat → BlockText → Cursor → Option (BlockText × Cursor)
  | 0, t, c => some (t, c)
  | fuel + 1, t, c =>
      match c.rest with
      | [] => some (t, c)
      | x :: _ =>
          if c.column ≠ indent then some (t, c)
          else
            let indented := isWhite x
            let ending :=
              if !literal && t.ending == ['\n'] &&
                  !t.indented && !indented then
                if t.others.isEmpty then [' '] else []
              else t.ending
            let before := t.others ++ (ending ++ t.done)
            let (line, c) := c.span fun x => !isBreak x
            let (ending, c) := c.newline
            match blockBreaks? (some indent) fuel [] 0 c with
            | none => none
            | some (others, _, c) =>
                blockLines? literal indent fuel
                  ⟨line.reverse ++ before, ending, others,
                    indented⟩
                  c

/-
  Reads a block scalar whose header mark is at the cursor,
  inside a block of a given indentation.
-/
def scanBlock?
    (fuel : Nat)
    (literal : Bool)
    (parent : Int)
    (c : Cursor) : Option (String × Cursor) := do
  let (header, c) ← Header.scan? (c.advance 1)
  let c ← c.finishLine?
  let outer := (max parent 0).toNat
  let given := header.indentation.map fun n => outer + n
  let (others, deepest, c) ← blockBreaks? given fuel [] 0 c
  let indent :=
    given.getD (max deepest (max (parent + 1).toNat 1))
  let (t, _, c) ←
    (blockLines? literal indent fuel ⟨[], [], others, false⟩
      c).map fun r => (r.1, (), r.2)
  let ending :=
    match header.chomp with
    | .strip => []
    | .clip => t.ending
    | .keep => t.others ++ t.ending
  some (String.ofList (ending ++ t.done).reverse, c)

end Yaml

end Conform
