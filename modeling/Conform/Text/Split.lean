/-
  This file splits texts at the places of a character.

  Key definitions include:
    * `Text.split`
    * `Text.pieces`
-/

namespace Conform

namespace Text

/-
  The pieces of a text between the places of a character,
  with the first piece begun already, in reverse.
-/
def split
    (separator : Char)
    (current : List Char) : List Char → List (List Char)
  | [] => [current.reverse]
  | c :: rest =>
      if c = separator then
        current.reverse :: split separator [] rest
      else split separator (c :: current) rest

/- The pieces of a text between the places of a character. -/
def pieces
    (separator : Char)
    (text : String) : List (List Char) :=
  split separator [] text.toList

end Text

end Conform
