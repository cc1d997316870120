import Conform.Yaml.Block
import Conform.Yaml.Plain
import Conform.Yaml.Quoted
import Conform.Yaml.Tag

/-
  This file splits YAML text into tokens. The indentation of
  each line is compared with the blocks that are open, and
  each change becomes a token.

  A key is recognised only when its colon is found. Until
  then the place where it may start is remembered, once for
  each level of brackets, and the tokens for the start of
  the key are then inserted at that place. Such a place is
  given up when the line ends or after 1024 characters.

  Key definitions include:
    * `Yaml.KeyStart`
    * `Yaml.Layout`
    * `Yaml.Layout.unroll`
    * `Yaml.Layout.roll`
    * `Yaml.Layout.fetch?`
    * `Yaml.Token.scanAll?`
-/

namespace Conform

namespace Yaml

/-
  A place where a key may start. A required key is one that
  nothing else can stand for at its indentation.
-/
structure KeyStart where
  required : Bool
  place : Nat
  index : Nat
  line : Nat
  column : Nat

/-
  The state of splitting a text: the cursor, the tokens found
  so far with the last of them first, the indentation of the
  open blocks with the innermost first, the number of open
  brackets, whether a key may start here, and the places
  where one may have started.
-/
structure Layout where
  cursor : Cursor
  tokens : List Token
  count : Nat
  indent : Int
  outer : List Int
  depth : Nat
  keyAllowed : Bool
  keys : List (Option KeyStart)

namespace Layout

/- The state at the start of a text. -/
def start
    (cs : List Char) : Layout where
  cursor := Cursor.start cs
  tokens := []
  count := 0
  indent := -1
  outer := []
  depth := 0
  keyAllowed := true
  keys := [none]

/- Whether brackets are open. -/
def inFlow
    (l : Layout) : Bool :=
  decide (0 < l.depth)

------------------------------------------------------------
-- Tokens
------------------------------------------------------------

/- Adds a token at the end. -/
def push
    (t : Token)
    (l : Layout) : Layout :=
  { l with tokens := t :: l.tokens, count := l.count + 1 }

/- Inserts a token before those from a place on. -/
def insertAt
    (place : Nat)
    (t : Token)
    (l : Layout) : Layout :=
  let n := l.count - place
  { l with
    tokens := l.tokens.take n ++ t :: l.tokens.drop n
    count := l.count + 1 }

/- Adds a token for characters that the cursor goes past. -/
def mark
    (n : Nat)
    (t : Token)
    (l : Layout) : Layout :=
  { l.push t with cursor := l.cursor.advance n }

------------------------------------------------------------
-- Indentation
------------------------------------------------------------

/- Closes the blocks that are deeper than a column. -/
def unrollFrom
    (column : Int) :
    List Int → Layout → Layout
  | [], l => l
  | outer :: rest, l =>
      if column < l.indent then
        unrollFrom column rest
          { l.push .blockEnd with indent := outer, outer := rest }
      else l

/- Closes the blocks that are deeper than a column, unless
  brackets are open. -/
def unroll
    (column : Int)
    (l : Layout) : Layout :=
  if l.inFlow then l else unrollFrom column l.outer l

/-
  Opens a block at a column if it is deeper than the blocks
  that are open. The token is inserted at a place if one is
  given.
-/
def roll
    (column : Nat)
    (place : Option Nat)
    (t : Token)
    (l : Layout) : Layout :=
  if !l.inFlow && decide (l.indent < column) then
    let l := { l with
      indent := column, outer := l.indent :: l.outer }
    match place with
    | some p => l.insertAt p t
    | none => l.push t
  else l

------------------------------------------------------------
-- Keys
------------------------------------------------------------

/- Gives up the place of the innermost level. -/
def dropKey?
    (l : Layout) : Option Layout :=
  match l.keys with
  | some k :: rest =>
      if k.required then none
      else some { l with keys := none :: rest }
  | _ => some l

/- Remembers the cursor as a place where a key may start. -/
def saveKey?
    (l : Layout) : Option Layout :=
  if l.keyAllowed then
    l.dropKey?.map fun l =>
      let k : KeyStart :=
        {
          required := !l.inFlow &&
            decide (l.indent = l.cursor.column)
          place := l.count
          index := l.cursor.index
          line := l.cursor.line
          column := l.cursor.column
        }
      { l with keys := some k :: l.keys.drop 1 }
  else some l

/- The most bytes that a key may take up. -/
def maxKey : Nat :=
  1024

/-
  A place that is too far away from the cursor: a key stays
  in its line and has a length that is limited.
-/
def isStale
    (c : Cursor)
    (k : KeyStart) : Bool :=
  decide (k.line < c.line) ||
    decide (k.index + maxKey < c.index)

/- Gives up the places that are too far away. -/
def dropStale?
    (l : Layout) : Option Layout :=
  let stale := fun (k : Option KeyStart) =>
    k.any (isStale l.cursor)
  if l.keys.any fun k =>
      stale k && k.any KeyStart.required then none
  else
    some { l with
      keys := l.keys.map fun k => if stale k then none else k }

------------------------------------------------------------
-- The Next Token
------------------------------------------------------------

/-
  Goes past blanks, comments and ends of lines. A tab may
  not stand where a key may start. Outside brackets a key
  may start on a new line. A mark for the order of bytes
  may start a line, in which it takes up a column.
-/
def skipToToken : Nat → Layout → Layout
  | 0, l => l
  | fuel + 1, l =>
      let c := l.cursor
      let c :=
        if c.column = 0 ∧ startsWithOne ['\ufeff'] c.rest then
          c.advance 1
        else c
      let tabs := l.inFlow || !l.keyAllowed
      let c := (c.span fun x =>
        x == ' ' || (tabs && x == '\t')).2
      let c := c.skipComment
      match c.rest with
      | [] => { l with cursor := c }
      | x :: _ =>
          if isBreak x then
            skipToToken fuel { l with
              cursor := c.newline.2
              keyAllowed := l.keyAllowed || !l.inFlow }
          else { l with cursor := c }

/- Ends all blocks, and forbids a key to start. -/
def endBlocks?
    (l : Layout) : Option Layout :=
  (l.unroll (-1)).dropKey?.map fun l =>
    { l with keyAllowed := false }

/- The mark for the start or the end of a document. -/
def fetchIndicator?
    (t : Token)
    (l : Layout) : Option Layout :=
  l.endBlocks?.map fun l => l.mark 3 t

/- A directive. -/
def fetchDirective?
    (fuel : Nat)
    (l : Layout) : Option Layout := do
  let l ← l.endBlocks?
  let (token, c) ← scanDirective? fuel l.cursor
  some { l.push token with cursor := c }

/- An opening bracket. -/
def fetchOpen?
    (t : Token)
    (l : Layout) : Option Layout :=
  l.saveKey?.map fun l =>
    { l.mark 1 t with
      keyAllowed := true
      depth := l.depth + 1
      keys := none :: l.keys }

/- A closing bracket. -/
def fetchClose?
    (t : Token)
    (l : Layout) : Option Layout :=
  l.dropKey?.map fun l =>
    { l.mark 1 t with
      keyAllowed := false
      depth := l.depth - 1
      keys := if l.inFlow then l.keys.drop 1 else l.keys }

/- A comma between brackets. -/
def fetchFlowEntry?
    (l : Layout) : Option Layout :=
  l.dropKey?.map fun l =>
    { l.mark 1 .flowEntry with keyAllowed := true }

/- The hyphen in front of an item. -/
def fetchBlockEntry?
    (l : Layout) : Option Layout :=
  if !l.inFlow && !l.keyAllowed then none
  else
    let l := l.roll l.cursor.column none .blockSequenceStart
    l.dropKey?.map fun l =>
      { l.mark 1 .blockEntry with keyAllowed := true }

/- The question mark in front of a key. -/
def fetchKey?
    (l : Layout) : Option Layout :=
  if !l.inFlow && !l.keyAllowed then none
  else
    let l := l.roll l.cursor.column none .blockMappingStart
    l.dropKey?.map fun l =>
      { l.mark 1 .key with keyAllowed := !l.inFlow }

/- The colon after a key. -/
def fetchValue?
    (l : Layout) : Option Layout :=
  match l.keys with
  | some k :: rest =>
      let l := l.insertAt k.place .key
      let l := l.roll k.column (some k.place) .blockMappingStart
      some { l.mark 1 .value with
        keyAllowed := false, keys := none :: rest }
  | _ =>
      if !l.inFlow && !l.keyAllowed then none
      else
        let l := l.roll l.cursor.column none .blockMappingStart
        some { l.mark 1 .value with keyAllowed := !l.inFlow }

/- An anchor or an alias. -/
def fetchName?
    (t : String → Token)
    (l : Layout) : Option Layout := do
  let l ← l.saveKey?
  let (name, c) ← scanName? l.cursor
  some { l.push (t name) with cursor := c, keyAllowed := false }

/- A tag. -/
def fetchTag?
    (fuel : Nat)
    (l : Layout) : Option Layout := do
  let l ← l.saveKey?
  let (token, c) ← scanTag? fuel l.inFlow l.cursor
  some { l.push token with cursor := c, keyAllowed := false }

/- A block scalar. -/
def fetchBlock?
    (fuel : Nat)
    (literal : Bool)
    (l : Layout) : Option Layout := do
  let l ← l.dropKey?
  let (text, c) ← scanBlock? fuel literal l.indent l.cursor
  some { l.push (.scalar text false) with
    cursor := c, keyAllowed := true }

/- A scalar in quotation marks. -/
def fetchQuoted?
    (fuel : Nat)
    (single : Bool)
    (l : Layout) : Option Layout := do
  let l ← l.saveKey?
  let (text, c) ← scanQuoted? fuel single l.cursor
  some { l.push (.scalar text false) with
    cursor := c, keyAllowed := false }

/- A scalar without quotation marks. -/
def fetchPlain?
    (fuel : Nat)
    (l : Layout) : Option Layout := do
  let l ← l.saveKey?
  let (text, broken, c) ← scanPlain? fuel l.inFlow
    (l.indent + 1).toNat l.cursor
  some { l.push (.scalar text true) with
    cursor := c, keyAllowed := broken }

/- The marks that no plain scalar may start with. -/
def reservedMarks : List Char :=
  [ '-', '?', ':', ',', '[', ']', '\x7b', '\x7d', '#', '&', '*',
    '!', '|', '>', '\'', '"', '%', '@', '\x60' ]

/-
  Whether a plain scalar may start with a character that
  another follows.
-/
def startsPlain
    (inFlow : Bool)
    (x : Char)
    (rest : List Char) : Bool :=
  let followed := !endsWord rest
  (!isWhite x && !reservedMarks.contains x) ||
    (x == '-' && !startsWithOne [' ', '\t'] rest) ||
    (!inFlow && (x == '?' || x == ':') && followed)

/- The token that starts with a given character. -/
def fetchAt?
    (fuel : Nat)
    (x : Char)
    (rest : List Char)
    (l : Layout) : Option Layout :=
  let apart := l.inFlow || endsWord rest
  if l.cursor.column = 0 ∧ x = '%' then l.fetchDirective? fuel
  else if l.cursor.atMark '-' then
    l.fetchIndicator? .documentStart
  else if l.cursor.atMark '.' then
    l.fetchIndicator? .documentEnd
  else if x == '[' then l.fetchOpen? .flowSequenceStart
  else if x == '\x7b' then l.fetchOpen? .flowMappingStart
  else if x == ']' then l.fetchClose? .flowSequenceEnd
  else if x == '\x7d' then l.fetchClose? .flowMappingEnd
  else if x == ',' then l.fetchFlowEntry?
  else if x == '-' && endsWord rest then l.fetchBlockEntry?
  else if x == '?' && apart then l.fetchKey?
  else if x == ':' && apart then l.fetchValue?
  else if x == '*' then l.fetchName? .alias
  else if x == '&' then l.fetchName? .anchor
  else if x == '!' then l.fetchTag? fuel
  else if x == '|' && !l.inFlow then l.fetchBlock? fuel true
  else if x == '>' && !l.inFlow then l.fetchBlock? fuel false
  else if x == '\'' then l.fetchQuoted? fuel true
  else if x == '"' then l.fetchQuoted? fuel false
  else if startsPlain l.inFlow x rest then l.fetchPlain? fuel
  else none

/-
  Goes on to the next token. The flag says that there is
  another one, and not the end of the text.
-/
def fetch?
    (fuel : Nat)
    (l : Layout) : Option (Bool × Layout) := do
  let l := l.skipToToken fuel
  let l ← l.dropStale?
  let l := l.unroll l.cursor.column
  match l.cursor.rest with
  | [] =>
      let l ← l.endBlocks?
      some (false, l)
  | x :: rest =>
      let l ← l.fetchAt? fuel x rest
      some (true, l)

/-
  Goes on to the end of the text. Each token takes a
  character.
-/
def run? : Nat → Layout → Option Layout
  | 0, _ => none
  | fuel + 1, l =>
      match l.fetch? fuel with
      | none => none
      | some (true, l) => run? fuel l
      | some (false, l) => some l

end Layout

/- All tokens of a text. -/
def Token.scanAll?
    (text : String) : Option (List Token) :=
  let cs := text.toList
  if cs.all isAllowed then
    (Layout.run? (cs.length + 2) (Layout.start cs)).map fun l =>
      l.tokens.reverse
  else none

end Yaml

end Conform
