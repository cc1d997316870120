import Conform.Text.Blank
import Conform.Text.EmojiTable
import Conform.Text.Visible
import Conform.Text.WidthTable

/-
  This file says how wide a character is where it stands. A
  few characters merge with the characters behind them: the
  parts of emoji do, and the letters of some scripts.

  A text is read from its end. What matters of the
  characters behind a character is kept as a `Tail`, and a
  character adds to the width of the text what it takes up
  on top of its tail, which may be less than nothing.

  Key definitions include:
    * `Text.charWidth`
    * `Text.Tail`
    * `Text.Tail.start`
    * `Text.Tail.merge?`
    * `Text.Tail.step`
-/

namespace Conform

namespace Text

------------------------------------------------------------
-- Characters by Themselves
------------------------------------------------------------

/- The number of columns of a character by itself. -/
def charWidth
    (c : Char) : Nat :=
  if c.toNat < 0x7f then 1
  else if c == '\u17d8' then 3
  else if c == '\u115f' || c == '\u17a4' then 2
  else if c == '\u2d7f' then 1
  else if inRanges extendingRanges c then 0
  else if inRanges joinedRanges c then 0
  else if inRanges wideRanges c then 2
  else 1

/- One of the letters that stand for regions in flags. -/
def isRegion
    (c : Char) : Bool :=
  inRanges [(0x1f1e6, 0x1f1ff)] c

/- A skin tone, which changes the emoji before it. -/
def isTone
    (c : Char) : Bool :=
  inRanges [(0x1f3fb, 0x1f3ff)] c

/-
  A letter in the description of the flag of a part of a
  country.
-/
def isTagLetter
    (c : Char) : Bool :=
  inRanges [(0xe0061, 0xe007a)] c

/-
  A digit in the description of the flag of a part of a
  country.
-/
def isTagDigit
    (c : Char) : Bool :=
  inRanges [(0xe0030, 0xe0039)] c

/- A quotation mark with a wide and a narrow style. -/
def isStyledQuote
    (c : Char) : Bool :=
  ['\u2018', '\u2019', '\u201c', '\u201d'].contains c

/- The Arabic letter alef, with any marks. -/
def isAlef
    (c : Char) : Bool :=
  inRanges
    [ (0x0622, 0x0623), (0x0625, 0x0625), (0x0627, 0x0627),
      (0x0671, 0x0673), (0x0675, 0x0675), (0x0773, 0x0774),
      (0x0870, 0x0882) ] c

/- The Arabic letter lam, with any marks. -/
def isLam
    (c : Char) : Bool :=
  inRanges
    [ (0x0644, 0x0644), (0x06b5, 0x06b8), (0x076a, 0x076a),
      (0x08a6, 0x08a6), (0x08c7, 0x08c7) ] c

/- A Khmer letter with a form that goes below the line. -/
def isSubscriptLetter
    (c : Char) : Bool :=
  inRanges
    [ (0x1780, 0x1782), (0x1784, 0x1787), (0x1789, 0x178c),
      (0x178e, 0x1793), (0x1795, 0x1798), (0x179b, 0x179d),
      (0x17a0, 0x17a0), (0x17a2, 0x17a2), (0x17a7, 0x17a7),
      (0x17ab, 0x17ac), (0x17af, 0x17af) ] c

/- A consonant of Tifinagh. -/
def isTifinagh
    (c : Char) : Bool :=
  inRanges [(0x2d31, 0x2d65), (0x2d6f, 0x2d6f)] c

/- A mark that can be ignored between letters that merge. -/
def isTransparent
    (c : Char) : Bool :=
  inRanges
    [ (0x034f, 0x034f), (0x17b4, 0x17b5), (0x180b, 0x180d),
      (0x180f, 0x180f), (0xfe00, 0xfe0f),
      (0xe0100, 0xe01ef) ] c

/- A mark that can be ignored between Arabic letters. -/
def isArabicMark
    (c : Char) : Bool :=
  charWidth c == 0 && !inRanges separatingRanges c

/- The character that joins those beside it. -/
def joiner : Char :=
  '\u200d'

------------------------------------------------------------
-- Tails
------------------------------------------------------------

/-
  The styles that a selector asks for: a wide one with
  colours, a narrow one without, and a wide one for
  quotation marks.
-/
inductive Style
  | emoji
  | text
  | wideQuote
deriving DecidableEq

/-
  What the characters behind a character are the start of.
  Flags are made of one region, or of two and more of them.
  After a joiner, all parts of an emoji have been counted.
  The description of a flag has letters and digits, which
  are counted up to its end. Letters that merge may have a
  joiner before them.
-/
inductive Part
  | nothing
  | tone
  | region
  | regions
  | emoji
  | joinedEmoji
  | joinedKeycap
  | joinedRegion
  | joinedRegions (even : Bool)
  | tagEnd
  | tagLetters (count : Nat)
  | tagDigits (count : Nat)
  | kiratRaiE
  | kiratRaiAi
  | alef
  | lamed (joined : Bool)
  | bugineseYa (joined : Bool)
  | bugineseIYa
  | tifinagh (joined : Bool)
  | tifinaghPair
  | lisuTone
  | orkhonI (joined : Bool)
  | subscriptLetter
deriving DecidableEq

namespace Part

/- Letters that merge with letters before them. -/
def isLetter : Part → Bool
  | alef => true
  | lamed _ => true
  | bugineseYa _ => true
  | bugineseIYa => true
  | tifinagh _ => true
  | tifinaghPair => true
  | lisuTone => true
  | orkhonI _ => true
  | subscriptLetter => true
  | _ => false

/- Letters of scripts in which joiners may stand between. -/
def skipsMarks
    (p : Part) : Bool :=
  p.isLetter && p != alef

/- An emoji that is joined to the one before it. -/
def isJoined : Part → Bool
  | joinedEmoji => true
  | joinedKeycap => true
  | _ => false

/- What a joiner before a letter makes of it. -/
def withJoiner : Part → Part
  | lamed _ => lamed true
  | bugineseYa _ => bugineseYa true
  | tifinagh _ => tifinagh true
  | orkhonI _ => orkhonI true
  | p => p

/- What a character is the start of by itself. -/
def ofChar
    (c : Char) : Part :=
  if isRegion c then region
  else if isTone c then tone
  else if inRanges emojiRanges c then emoji
  else if isAlef c then alef
  else if c == '\u05dc' then lamed false
  else if isSubscriptLetter c then subscriptLetter
  else if c == '\u1a10' then bugineseYa false
  else if isTifinagh c then tifinagh false
  else if c == '\ua4fc' || c == '\ua4fd' then lisuTone
  else if c.toNat = 0x10c03 then orkhonI false
  else if c.toNat = 0x16d67 then kiratRaiE
  else if c.toNat = 0x16d68 then kiratRaiAi
  else nothing

end Part

/-
  What matters of the characters behind a character, with
  the style that they ask for.
-/
structure Tail where
  part : Part
  style : Option Style

namespace Tail

/- The end of a text. -/
def start : Tail :=
  ⟨.nothing, none⟩

/- A tail that asks for no style. -/
def plain
    (p : Part) : Tail :=
  ⟨p, none⟩

/- The style that a selector asks for. -/
def selected?
    (c : Char) : Option Style :=
  if c == '\ufe0f' then some .emoji
  else if c == '\ufe0e' then some .text
  else if c == '\ufe01' then some .wideQuote
  else none

/-
  A selector in front of something. A style for emoji may
  be asked for in front of a joiner.
-/
def select
    (s : Style)
    (p : Part) : Tail :=
  if p.isLetter || (p.isJoined && s == .emoji) then ⟨p, some s⟩
  else ⟨.nothing, some s⟩

/-
  The columns of a character that takes on the style that
  is asked for, if it has one. In front of a joiner its
  emoji has been counted.
-/
def styled?
    (c : Char)
    (tail : Tail) : Option (Int × Tail) :=
  match tail.style with
  | none => none
  | some .emoji =>
      if inRanges styledRanges c then
        some (if tail.part.isJoined then 0 else 2, plain .emoji)
      else none
  | some .text =>
      if inRanges styledRanges c && inRanges emojiRanges c &&
          !inRanges [(0x1f200, 0x1f2ff)] c then
        some (1, start)
      else none
  | some .wideQuote =>
      if isStyledQuote c then some (2, start) else none

/-
  What is left of a tail if the style that it asks for is
  of no use. Only letters can be seen past a selector.
-/
def dropStyle
    (tail : Tail) : Part :=
  if tail.style.isNone || tail.part.isLetter then tail.part
  else .nothing

------------------------------------------------------------
-- Merging
------------------------------------------------------------

/- The parts of emoji that merge. -/
def mergeEmoji?
    (c : Char) : Part → Option (Int × Part)
  | .tone =>
      if inRanges tonedRanges c then some (0, .emoji)
      else if c == joiner then some (0, .joinedEmoji)
      else none
  | .region => if isRegion c then some (1, .regions) else none
  | .regions =>
      if isRegion c then some (1, .regions)
      else if c == joiner then some (0, .joinedEmoji)
      else none
  | .emoji =>
      if c == joiner then some (0, .joinedEmoji) else none
  | .joinedEmoji =>
      if c == '\u20e3' then some (0, .joinedKeycap)
      else if isRegion c then some (1, .joinedRegion)
      else if isTone c then some (0, .tone)
      else if c.toNat = 0xe007f then some (0, .tagEnd)
      else if inRanges emojiRanges c then some (0, .emoji)
      else none
  | .joinedRegion =>
      if isRegion c then some (-1, .joinedRegions true)
      else none
  | .joinedRegions even =>
      if isRegion c then
        some (if even then 3 else -1, .joinedRegions (!even))
      else if c == joiner then some (0, .joinedEmoji)
      else none
  | .tagEnd =>
      if isTagLetter c then some (0, .tagLetters 1)
      else if isTagDigit c then some (0, .tagDigits 1)
      else none
  | .tagLetters n =>
      if isTagLetter c && decide (n < 6) then
        some (0, .tagLetters (n + 1))
      else if isTagDigit c && decide (n ≤ 4) then
        some (0, .tagDigits 1)
      else if c.toNat = 0x1f3f4 ∧ 3 ≤ n then some (0, .emoji)
      else none
  | .tagDigits n =>
      if isTagDigit c && decide (n < 3) then
        some (0, .tagDigits (n + 1))
      else if c.toNat = 0x1f3f4 ∧ n = 3 then some (0, .emoji)
      else none
  | _ => none

/- The letters that merge. -/
def mergeLetter?
    (c : Char) : Part → Option (Int × Part)
  | .kiratRaiE =>
      if c.toNat = 0x16d63 then some (0, .nothing)
      else if c.toNat = 0x16d67 then some (0, .kiratRaiAi)
      else if c.toNat = 0x16d68 then some (1, .kiratRaiE)
      else if c.toNat = 0x16d69 then some (0, .nothing)
      else none
  | .kiratRaiAi =>
      if c.toNat = 0x16d63 then some (0, .nothing) else none
  | .alef =>
      if isLam c then some (0, .nothing)
      else if isArabicMark c then some (0, .alef)
      else none
  | .lamed true =>
      if c == '\u05d0' then some (0, .nothing) else none
  | .bugineseYa true =>
      if c == '\u1a17' then some (0, .bugineseIYa) else none
  | .bugineseIYa =>
      if c == '\u1a15' then some (0, .nothing) else none
  | .tifinagh joined =>
      if c == '\u2d7f' then some (1, .tifinaghPair)
      else if joined && isTifinagh c then some (0, .nothing)
      else none
  | .tifinaghPair =>
      if isTifinagh c then some (-1, .nothing) else none
  | .lisuTone =>
      if inRanges [(0xa4f8, 0xa4fb)] c then some (0, .nothing)
      else none
  | .orkhonI true =>
      if c.toNat = 0x10c32 then some (0, .nothing) else none
  | .subscriptLetter =>
      if c == '\u17d2' then some (-1, .nothing) else none
  | _ => none

/-
  The columns of a character that merges with what follows,
  and what it is a part of then.
-/
def merge?
    (c : Char)
    (p : Part) : Option (Int × Part) :=
  if p.skipsMarks && c == joiner then some (0, p.withJoiner)
  else if p.skipsMarks && isTransparent c then some (0, p)
  else
    match mergeEmoji? c p with
    | some r => some r
    | none => mergeLetter? c p

/-
  The columns that a character takes up on top of its tail,
  and the tail that it is the start of.
-/
def step
    (c : Char)
    (tail : Tail) : Int × Tail :=
  match styled? c tail with
  | some r => r
  | none =>
      if c.toNat ≤ 0xa0 then (1, start)
      else
        let p := tail.dropStyle
        match selected? c with
        | some s => (0, select s p)
        | none =>
            match merge? c p with
            | some (n, p) => (n, plain p)
            | none => (charWidth c, plain (Part.ofChar c))

end Tail

end Text

end Conform
