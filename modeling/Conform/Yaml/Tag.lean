import Conform.Yaml.Cursor
import Conform.Yaml.Quoted
import Conform.Yaml.Token

/-
  This file reads the parts of YAML text that describe other
  parts: tags, anchors and aliases, and directives.

  Key definitions include:
    * `Yaml.scanHandle?`
    * `Yaml.scanUri?`
    * `Yaml.tagOctets`
    * `Yaml.scanTag?`
    * `Yaml.scanName?`
    * `Yaml.scanDirective?`
-/

namespace Conform

namespace Yaml

------------------------------------------------------------
-- Tags
------------------------------------------------------------

/-
  A tag handle: an exclamation mark, a name, and a second
  exclamation mark if there is one. In a directive only the
  single mark may go without the second.
-/
def scanHandle?
    (inDirective : Bool)
    (c : Cursor) : Option (List Char × Cursor) :=
  match c.rest with
  | '!' :: _ =>
      let (name, c) := (c.advance 1).span isNameChar
      match c.rest with
      | '!' :: _ => some ('!' :: (name ++ ['!']), c.advance 1)
      | _ =>
          if inDirective && !name.isEmpty then none
          else some ('!' :: name, c)
  | _ => none

/- A character that may stand in a tag. -/
def isUriChar
    (verbatim : Bool)
    (c : Char) : Bool :=
  isNameChar c || ";/?:@&=+$.%!~*'()".toList.contains c ||
    (verbatim && [',', '[', ']'].contains c)

/- The octet that an escape at the start of a text names. -/
def escapedOctet?
    (cs : List Char) : Option Nat :=
  match cs with
  | '%' :: a :: b :: _ => hexNumber? [a, b]
  | _ => none

/-
  The number of octets that a first octet announces, which
  is that of the encoding of a character.
-/
def announcedOctets
    (first : Nat) : Nat :=
  if first < 0x80 then 1
  else if first / 0x20 = 0x06 then 2
  else if first / 0x10 = 0x0e then 3
  else if first / 0x08 = 0x1e then 4
  else 0

/-
  The octets that escapes at the start of a text name. As
  many have to follow the first one as it announces, but
  they need not encode a character.
-/
def uriEscapes?
    (cs : List Char) : Option Octets := do
  let first ← escapedOctet? cs
  let count := announcedOctets first
  let octets ← (List.range count).mapM fun i =>
    escapedOctet? (cs.drop (3 * i))
  if count = 0 then none
  else if (octets.drop 1).all fun o => o / 0x40 = 0x02 then
    some (octets.map UInt8.ofNat)
  else none

/- The octets of a tag, the last of them first. -/
def scanUri?
    (verbatim : Bool) :
    Nat → Octets → Cursor → Option (Octets × Cursor)
  | 0, done, c => some (done, c)
  | fuel + 1, done, c =>
      match c.rest with
      | [] => some (done, c)
      | x :: _ =>
          if !isUriChar verbatim x then some (done, c)
          else if x == '%' then
            match uriEscapes? c.rest with
            | none => none
            | some octets =>
                scanUri? verbatim fuel (octets.reverse ++ done)
                  (c.advance (3 * octets.length))
          else
            scanUri? verbatim fuel (UInt8.ofNat x.toNat :: done)
              (c.advance 1)

/-
  The tag, or the part of one, that octets make up, the last
  of them given first. It ends before the first null.
-/
def tagOctets
    (octets : Octets) : Octets :=
  octets.reverse.takeWhile fun o => o != 0

/- A tag between angle brackets, which is taken as it is. -/
def scanVerbatim?
    (fuel : Nat)
    (c : Cursor) : Option (Token × Cursor) := do
  let (suffix, c) ← scanUri? true fuel [] (c.advance 2)
  if suffix.isEmpty then none
  else
    match c.rest with
    | '>' :: _ => some (.tag "" (tagOctets suffix), c.advance 1)
    | _ => none

/-
  A tag with a handle in front. What looks like a handle
  without its second mark is the start of the tag itself,
  and the mark alone is a tag of its own.
-/
def scanShorthand?
    (fuel : Nat)
    (c : Cursor) : Option (Token × Cursor) := do
  let (handle, c) ← scanHandle? false c
  if 2 ≤ handle.length ∧ handle.getLast? = some '!' then
    let (suffix, c) ← scanUri? false fuel [] c
    if suffix.isEmpty then none
    else
      some (.tag (String.ofList handle) (tagOctets suffix), c)
  else
    let start := Octets.ofText (String.ofList (handle.drop 1))
    let (suffix, c) ← scanUri? false fuel start.reverse c
    if suffix.isEmpty then some (.tag "" (Octets.ofText "!"), c)
    else some (.tag "!" (tagOctets suffix), c)

/- Reads a tag, after which a blank has to follow. -/
def scanTag?
    (fuel : Nat)
    (inFlow : Bool)
    (c : Cursor) : Option (Token × Cursor) := do
  let (token, c) ←
    if startsWithOne ['<'] (c.rest.drop 1) then
      scanVerbatim? fuel c
    else scanShorthand? fuel c
  if endsWord c.rest || (inFlow && startsWithOne [','] c.rest)
  then some (token, c)
  else none

------------------------------------------------------------
-- Anchors and Aliases
------------------------------------------------------------

/-
  Reads the name of an anchor or an alias, whose mark is at
  the cursor.
-/
def scanName?
    (c : Cursor) : Option (String × Cursor) :=
  let (name, c) := (c.advance 1).span isNameChar
  let followed := endsWord c.rest ||
    startsWithOne ['?', ':', ',', ']', '\x7d', '%', '@', '\x60']
      c.rest
  if name.isEmpty || !followed then none
  else some (String.ofList name, c)

------------------------------------------------------------
-- Directives
------------------------------------------------------------

/- A number of at most nine digits. -/
def scanVersionNumber?
    (c : Cursor) : Option (Nat × Cursor) :=
  let (digits, c) := c.span Char.isDigit
  if digits.isEmpty || decide (9 < digits.length) then none
  else some (Decimal.ofDigits digits, c)

/- The version that a directive names. -/
def scanVersion?
    (c : Cursor) : Option (Token × Cursor) := do
  let (major, c) ← scanVersionNumber? (c.span isWhite).2
  match c.rest with
  | '.' :: _ =>
      let (minor, c) ← scanVersionNumber? (c.advance 1)
      some (.versionDirective major minor, c)
  | _ => none

/- The tag handle that a directive defines. -/
def scanHandleDefinition?
    (fuel : Nat)
    (c : Cursor) : Option (Token × Cursor) := do
  let (handle, c) ← scanHandle? true (c.span isWhite).2
  let (gap, c) := c.span isWhite
  let (start, c) ← scanUri? true fuel [] c
  if gap.isEmpty || start.isEmpty || !endsWord c.rest then none
  else
    some (.tagDirective (String.ofList handle)
      (tagOctets start), c)

/- Reads a directive, which takes its line up. -/
def scanDirective?
    (fuel : Nat)
    (c : Cursor) : Option (Token × Cursor) := do
  let (name, c) := (c.advance 1).span isNameChar
  let (token, c) ←
    match String.ofList name with
    | "YAML" => if endsWord c.rest then scanVersion? c else none
    | "TAG" =>
        if endsWord c.rest then scanHandleDefinition? fuel c
        else none
    | _ => none
  let c ← c.finishLine?
  some (token, c)

end Yaml

end Conform
