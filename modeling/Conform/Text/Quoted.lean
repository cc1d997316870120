import Conform.Text.Blank
import Conform.Text.Visible

/-
  This file quotes texts for people who diagnose a problem:
  everything that cannot be seen is shown by an escape.

  Key definitions include:
    * `Text.quoteChar`
    * `Text.quoted`
    * `Text.quotedOption`
    * `Text.quotedList`
-/

namespace Conform

namespace Text

/- A character as an escape that tells its code point. -/
def codeEscape
    (c : Char) : List Char :=
  '\\' :: 'u' :: '\x7b' ::
    (Nat.toDigits 16 c.toNat ++ ['\x7d'])

/- A character inside quotation marks. -/
def quoteChar
    (c : Char) : List Char :=
  match c with
  | '\x00' => ['\\', '0']
  | '\t' => ['\\', 't']
  | '\r' => ['\\', 'r']
  | '\n' => ['\\', 'n']
  | '\\' => ['\\', '\\']
  | '"' => ['\\', '"']
  | c =>
      if inRanges extendingRanges c then codeEscape c
      else if inRanges invisibleRanges c then codeEscape c
      else [c]

/- A text in quotation marks. -/
def quoted
    (text : String) : String :=
  "\"" ++ String.ofList (text.toList.flatMap quoteChar) ++ "\""

/- A text that may be missing. -/
def quotedOption : Option String → String
  | none => "None"
  | some text => "Some(" ++ quoted text ++ ")"

/- A list of texts. -/
def quotedList
    (texts : List String) : String :=
  "[" ++ String.intercalate ", " (texts.map quoted) ++ "]"

end Text

end Conform
