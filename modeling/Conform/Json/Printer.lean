import Conform.Json
import Conform.Number.Text

/-
  This file writes JSON data as compact text, without blanks
  and with the members of an object in order of name.

  Key definitions include:
    * `Json.escape`
    * `Json.quote`
    * `Json.render`
-/

namespace Conform

namespace Json

/- A character with a given escape of one letter. -/
def shortEscape?
    (c : Char) : Option Char :=
  match c with
  | '"' => some '"'
  | '\\' => some '\\'
  | '\x08' => some 'b'
  | '\x0c' => some 'f'
  | '\n' => some 'n'
  | '\r' => some 'r'
  | '\t' => some 't'
  | _ => none

/-
  A character inside a string. Only the quotation mark, the
  backslash and the control characters are escaped.
-/
def escape
    (c : Char) : List Char :=
  match shortEscape? c with
  | some letter => ['\\', letter]
  | none =>
      if c.toNat < 0x20 then
        let digits := Nat.toDigits 16 c.toNat
        '\\' :: 'u' ::
          (List.replicate (4 - digits.length) '0' ++ digits)
      else
        [c]

/- A text in quotation marks. -/
def quote
    (s : String) : String :=
  "\"" ++ String.ofList (s.toList.flatMap escape) ++ "\""

mutual

/- JSON data as compact text. -/
def render : Json → String
  | null => "null"
  | bool b => if b then "true" else "false"
  | int i => toString i
  | float x => x.jsonText
  | string s => quote s
  | array items =>
      "[" ++ String.intercalate "," (renderItems items) ++ "]"
  | object members =>
      "\x7b" ++
        String.intercalate "," (renderMembers members) ++
        "\x7d"

/- The texts of several data. -/
def renderItems : List Json → List String
  | [] => []
  | j :: rest => render j :: renderItems rest

/- The texts of several members. -/
def renderMembers : List (String × Json) → List String
  | [] => []
  | (name, j) :: rest =>
      (quote name ++ ":" ++ render j) :: renderMembers rest

end

end Json

end Conform
