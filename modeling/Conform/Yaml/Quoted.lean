import Conform.Json.Token
import Conform.Yaml.Cursor

/-
  This file reads YAML scalars in quotation marks. They may
  go over several lines, whose ends are folded. In double
  quotation marks a backslash starts an escape.

  Key definitions include:
    * `Yaml.simpleEscape?`
    * `Yaml.escape?`
    * `Yaml.quotedWord?`
    * `Yaml.scanQuoted?`
-/

namespace Conform

namespace Yaml

/- The character that an escape of one letter stands for. -/
def simpleEscape?
    (c : Char) : Option Char :=
  match c with
  | '0' => some '\x00'
  | 'a' => some '\x07'
  | 'b' => some '\x08'
  | 't' => some '\t'
  | '\t' => some '\t'
  | 'n' => some '\n'
  | 'v' => some '\x0b'
  | 'f' => some '\x0c'
  | 'r' => some '\r'
  | 'e' => some '\x1b'
  | ' ' => some ' '
  | '"' => some '"'
  | '/' => some '/'
  | '\\' => some '\\'
  | 'N' => some '\u0085'
  | '_' => some '\u00a0'
  | 'L' => some '\u2028'
  | 'P' => some '\u2029'
  | _ => none

/- The number of hexadecimal digits after a letter. -/
def codeLength?
    (c : Char) : Option Nat :=
  match c with
  | 'x' => some 2
  | 'u' => some 4
  | 'U' => some 8
  | _ => none

/- The number that hexadecimal digits spell. -/
def hexNumber?
    (cs : List Char) : Option Nat :=
  cs.foldlM
    (fun n c => (Json.Token.hexDigit? c).map fun d => 16 * n + d)
    0

/-
  The character that an escape stands for, and the number of
  characters of the escape after the backslash.
-/
def escape?
    (cs : List Char) : Option (Char × Nat) :=
  match cs with
  | [] => none
  | c :: rest =>
      match codeLength? c with
      | none => (simpleEscape? c).map fun x => (x, 1)
      | some n =>
          let digits := rest.take n
          if digits.length = n then do
            let code ← hexNumber? digits
            if h : code.isValidChar then
              some (Char.ofNatAux code h, n + 1)
            else none
          else none

/-
  A word inside quotation marks, as far as a blank, the end
  of the line or the closing mark. The characters read come
  last first. The flag says that an escaped end of a line
  has been passed.
-/
def quotedWord?
    (single : Bool) :
    Nat → List Char → Cursor →
      Option (List Char × Bool × Cursor)
  | 0, done, c => some (done, false, c)
  | fuel + 1, done, c =>
      match c.rest with
      | [] => some (done, false, c)
      | x :: rest =>
          if isWhite x || isBreak x then some (done, false, c)
          else if single && x == '\'' then
            if startsWithOne ['\''] rest then
              quotedWord? single fuel ('\'' :: done)
                (c.advance 2)
            else some (done, false, c)
          else if !single && x == '"' then some (done, false, c)
          else if !single && x == '\\' then
            match rest with
            | [] => none
            | y :: _ =>
                if isBreak y then
                  some (done, true, (c.advance 1).newline.2)
                else
                  match escape? rest with
                  | none => none
                  | some (char, n) =>
                      quotedWord? single fuel (char :: done)
                        (c.advance (n + 1))
          else quotedWord? single fuel (x :: done) (c.advance 1)

/-
  Reads words and the gaps between them up to the closing
  mark. A mark for the start or the end of a document may
  not stand at the start of a line.
-/
def quotedWords?
    (single : Bool) :
    Nat → List Char → Cursor → Option (List Char × Cursor)
  | 0, _, _ => none
  | fuel + 1, done, c =>
      if c.atIndicator then none
      else
        match quotedWord? single fuel done c with
        | none => none
        | some (done, escaped, c) =>
            let closing := if single then '\'' else '"'
            if startsWithOne [closing] c.rest then
              some (done, c.advance 1)
            else if c.rest.isEmpty then none
            else
              match Gap.scan? 0 fuel (Gap.empty escaped) c with
              | none => none
              | some (gap, c) =>
                  quotedWords? single fuel
                    (gap.text.reverse ++ done) c

/- Reads a scalar whose opening mark is at the cursor. -/
def scanQuoted?
    (fuel : Nat)
    (single : Bool)
    (c : Cursor) : Option (String × Cursor) :=
  (quotedWords? single fuel [] (c.advance 1)).map fun r =>
    (String.ofList r.1.reverse, r.2)

end Yaml

end Conform
