import Conform.Json.Numeral

/-
  This file splits JSON text into tokens: the punctuation
  marks, and the literals with the data that they denote.

  Key definitions include:
    * `Json.Token`
    * `Json.Token.scanString?`
    * `Json.Token.next?`
    * `Json.Token.scanAll?`
-/

namespace Conform

namespace Json

/- A token of JSON text. -/
inductive Token
  | openArray
  | closeArray
  | openObject
  | closeObject
  | comma
  | colon
  | text (s : String)
  | literal (j : Json)

namespace Token

------------------------------------------------------------
-- Strings
------------------------------------------------------------

/- The value of a hexadecimal digit. -/
def hexDigit?
    (c : Char) : Option Nat :=
  if c.isDigit then some (c.toNat - '0'.toNat)
  else if 'a' ≤ c ∧ c ≤ 'f' then
    some (c.toNat - 'a'.toNat + 10)
  else if 'A' ≤ c ∧ c ≤ 'F' then
    some (c.toNat - 'A'.toNat + 10)
  else none

/- The value of four hexadecimal digits. -/
def hexWord?
    (a b c d : Char) : Option Nat := do
  let a ← hexDigit? a
  let b ← hexDigit? b
  let c ← hexDigit? c
  let d ← hexDigit? d
  some (((a * 16 + b) * 16 + c) * 16 + d)

/- The character that a one-letter escape stands for. -/
def escaped?
    (c : Char) : Option Char :=
  match c with
  | '"' => some '"'
  | '\\' => some '\\'
  | '/' => some '/'
  | 'b' => some '\x08'
  | 'f' => some '\x0c'
  | 'n' => some '\n'
  | 'r' => some '\r'
  | 't' => some '\t'
  | _ => none

/- The first halves of the pairs of 16-bit units. -/
def isHighHalf
    (n : Nat) : Bool :=
  decide (0xd800 ≤ n) && decide (n ≤ 0xdbff)

/- The second halves of the pairs of 16-bit units. -/
def isLowHalf
    (n : Nat) : Bool :=
  decide (0xdc00 ≤ n) && decide (n ≤ 0xdfff)

/-
  The string up to its closing quotation mark, and the rest.
  The characters read so far come last first. Characters
  beyond the first 65536 are escaped as a pair of units, of
  which no half may stand alone.
-/
def scanString?
    (done : List Char) :
    List Char → Option (String × List Char)
  | '"' :: rest => some (String.ofList done.reverse, rest)
  | '\\' :: 'u' :: a :: b :: c :: d :: rest =>
      match hexWord? a b c d with
      | none => none
      | some high =>
          if isHighHalf high then
            match rest with
            | '\\' :: 'u' :: a :: b :: c :: d :: rest =>
                match hexWord? a b c d with
                | none => none
                | some low =>
                    if isLowHalf low then
                      let code := 0x10000 +
                        (high - 0xd800) * 0x400 + (low - 0xdc00)
                      scanString? (Char.ofNat code :: done) rest
                    else none
            | _ => none
          else if isLowHalf high then none
          else scanString? (Char.ofNat high :: done) rest
  | '\\' :: c :: rest =>
      match escaped? c with
      | none => none
      | some c => scanString? (c :: done) rest
  | c :: rest =>
      if c.toNat < 0x20 then none
      else scanString? (c :: done) rest
  | [] => none

------------------------------------------------------------
-- Tokens
------------------------------------------------------------

/- A blank character of JSON text. -/
def isSpace
    (c : Char) : Bool :=
  c == ' ' || c == '\n' || c == '\t' || c == '\r'

/-
  The token at the front of a text that starts with no
  blank, and the rest.
-/
def next?
    (cs : List Char) : Option (Token × List Char) :=
  match cs with
  | '[' :: rest => some (openArray, rest)
  | ']' :: rest => some (closeArray, rest)
  | '\x7b' :: rest => some (openObject, rest)
  | '\x7d' :: rest => some (closeObject, rest)
  | ',' :: rest => some (comma, rest)
  | ':' :: rest => some (colon, rest)
  | '"' :: rest =>
      (scanString? [] rest).map fun r => (text r.1, r.2)
  | 'n' :: 'u' :: 'l' :: 'l' :: rest =>
      some (literal null, rest)
  | 't' :: 'r' :: 'u' :: 'e' :: rest =>
      some (literal (bool true), rest)
  | 'f' :: 'a' :: 'l' :: 's' :: 'e' :: rest =>
      some (literal (bool false), rest)
  | cs => do
      let (numeral, rest) ← Numeral.scan? cs
      let j ← numeral.toJson?
      some (literal j, rest)

/-
  The tokens of a text after those already found, which come
  last first. Each token takes a character, so no more of
  them are sought than the text has characters.
-/
def scanFrom?
    (done : List Token) :
    Nat → List Char → Option (List Token)
  | 0, cs =>
      if cs.all isSpace then some done.reverse else none
  | fuel + 1, cs =>
      match cs.dropWhile isSpace with
      | [] => some done.reverse
      | c :: rest =>
          match next? (c :: rest) with
          | none => none
          | some (token, rest) =>
              scanFrom? (token :: done) fuel rest

/- All tokens of a text. -/
def scanAll?
    (text : String) : Option (List Token) :=
  let cs := text.toList
  scanFrom? [] cs.length cs

end Token

end Json

end Conform
