import Conform.Yaml.Token

/-
  This file defines the nodes of YAML documents and reads
  them off the tokens of a text.

  Each function for a part of a document takes the tokens
  that are left and returns those after the part. Lists of
  items and pairs are collected with the last one first.

  Key definitions include:
    * `Yaml.Node`
    * `Yaml.Handles`
    * `Yaml.Properties`
    * `Yaml.nodeAt?`
    * `Yaml.Document`
    * `Yaml.Document.ofTokens?`
-/

namespace Conform

namespace Yaml

/-
  A node with the names of its anchor, or of the anchor that
  it is an alias for, and with its tag. A plain scalar is
  one without quotation marks.
-/
inductive Node (α : Type)
  | scalar (anchor : Option α) (tag : Option Octets)
      (text : String) (plain : Bool)
  | sequence (anchor : Option α) (tag : Option Octets)
      (items : List (Node α))
  | mapping (anchor : Option α) (tag : Option Octets)
      (pairs : List (Node α × Node α))
  | alias (target : α)

namespace Node

/- The node that stands where nothing is written. -/
def blank
    {α : Type} : Node α :=
  scalar none none "" true

end Node

------------------------------------------------------------
-- Tags and Anchors
------------------------------------------------------------

/- Tag handles with what they stand for. -/
abbrev Handles :=
  List (String × Octets)

/- The anchor and the tag in front of a node. -/
structure Properties where
  anchor : Option String
  tag : Option Octets

namespace Properties

/- Whether there are no properties. -/
def isEmpty
    (p : Properties) : Bool :=
  p.anchor.isNone && p.tag.isNone

/- The tag that a handle and a suffix give. -/
def resolve?
    (handles : Handles)
    (handle : String)
    (suffix : Octets) : Option Octets :=
  if handle.isEmpty then some suffix
  else (handles.lookup handle).map fun start => start ++ suffix

/- Reads properties in either order. -/
def take?
    (handles : Handles) :
    List Token → Option (Properties × List Token)
  | .anchor a :: .tag h s :: rest =>
      (resolve? handles h s).map fun t =>
        (⟨some a, some t⟩, rest)
  | .tag h s :: .anchor a :: rest =>
      (resolve? handles h s).map fun t =>
        (⟨some a, some t⟩, rest)
  | .anchor a :: rest => some (⟨some a, none⟩, rest)
  | .tag h s :: rest =>
      (resolve? handles h s).map fun t => (⟨none, some t⟩, rest)
  | rest => some (⟨none, none⟩, rest)

end Properties

------------------------------------------------------------
-- Where Nothing Is Written
------------------------------------------------------------

/- Tokens before which an item of a block may be missing. -/
def blankItem : List Token → Bool
  | .blockEntry :: _ => true
  | .blockEnd :: _ => true
  | _ => false

/- Tokens before which a part of a pair may be missing. -/
def blankPart : List Token → Bool
  | .key :: _ => true
  | .value :: _ => true
  | .blockEnd :: _ => true
  | _ => false

/- Tokens before which contents in brackets may be missing. -/
def blankFlow
    (inSequence : Bool) : List Token → Bool
  | .flowEntry :: _ => true
  | .flowSequenceEnd :: _ => inSequence
  | .flowMappingEnd :: _ => !inSequence
  | _ => false

/-
  Tokens before which a key in brackets may be missing: its
  colon, or the end of its entry.
-/
def blankFlowKey
    (inSequence : Bool) : List Token → Bool
  | .value :: _ => true
  | tokens => blankFlow inSequence tokens

------------------------------------------------------------
-- Nodes
------------------------------------------------------------

/-
  What is allowed at the place of a node: blocks, and items
  of a block that are not indented.
-/
structure Place where
  block : Bool
  bareItems : Bool

/- The place of an item of a block, or of a document. -/
def Place.item : Place :=
  ⟨true, false⟩

/- The place of a part of a pair in a block. -/
def Place.part : Place :=
  ⟨true, true⟩

/- A place between brackets. -/
def Place.flow : Place :=
  ⟨false, false⟩

/- The comma before every entry but the first one. -/
def separator?
    (first : Bool) : List Token → Option (List Token)
  | .flowEntry :: rest =>
      if first then some (.flowEntry :: rest) else some rest
  | tokens => if first then some tokens else none

mutual

/- The node at the front of the tokens. -/
def nodeAt?
    (handles : Handles)
    (place : Place) :
    Nat → List Token → Option (Node String × List Token)
  | 0, _ => none
  | fuel + 1, tokens =>
      match tokens with
      | .alias name :: rest => some (.alias name, rest)
      | tokens =>
          match Properties.take? handles tokens with
          | none => none
          | some (p, tokens) =>
              match tokens with
              | .scalar text plain :: rest =>
                  some (.scalar p.anchor p.tag text plain, rest)
              | .flowSequenceStart :: rest =>
                  (flowItems? handles fuel true [] rest).map
                    fun r => (.sequence p.anchor p.tag r.1, r.2)
              | .flowMappingStart :: rest =>
                  (flowPairs? handles fuel true [] rest).map
                    fun r => (.mapping p.anchor p.tag r.1, r.2)
              | .blockEntry :: rest =>
                  if place.bareItems then
                    (bareItems? handles fuel []
                        (.blockEntry :: rest)).map
                      fun r =>
                        (.sequence p.anchor p.tag r.1, r.2)
                  else blankWith? p (.blockEntry :: rest)
              | .blockSequenceStart :: rest =>
                  if place.block then
                    (blockItems? handles fuel [] rest).map
                      fun r =>
                        (.sequence p.anchor p.tag r.1, r.2)
                  else blankWith? p (.blockSequenceStart :: rest)
              | .blockMappingStart :: rest =>
                  if place.block then
                    (blockPairs? handles fuel [] rest).map
                      fun r =>
                        (.mapping p.anchor p.tag r.1, r.2)
                  else blankWith? p (.blockMappingStart :: rest)
              | tokens => blankWith? p tokens
where
  blankWith?
      (p : Properties)
      (tokens : List Token) :
      Option (Node String × List Token) :=
    if p.isEmpty then none
    else some (.scalar p.anchor p.tag "" true, tokens)

/- The items of an indented sequence. -/
def blockItems?
    (handles : Handles) :
    Nat → List (Node String) → List Token →
      Option (List (Node String) × List Token)
  | 0, _, _ => none
  | fuel + 1, done, tokens =>
      match tokens with
      | .blockEntry :: rest =>
          if blankItem rest then
            blockItems? handles fuel (.blank :: done) rest
          else
            match nodeAt? handles .item fuel rest with
            | none => none
            | some (node, rest) =>
                blockItems? handles fuel (node :: done) rest
      | .blockEnd :: rest => some (done.reverse, rest)
      | _ => none

/- The items of a sequence that is not indented. -/
def bareItems?
    (handles : Handles) :
    Nat → List (Node String) → List Token →
      Option (List (Node String) × List Token)
  | 0, _, _ => none
  | fuel + 1, done, tokens =>
      match tokens with
      | .blockEntry :: rest =>
          if blankItem rest || blankPart rest then
            bareItems? handles fuel (.blank :: done) rest
          else
            match nodeAt? handles .item fuel rest with
            | none => none
            | some (node, rest) =>
                bareItems? handles fuel (node :: done) rest
      | tokens => some (done.reverse, tokens)

/- The pairs of an indented mapping. -/
def blockPairs?
    (handles : Handles) :
    Nat → List (Node String × Node String) → List Token →
      Option (List (Node String × Node String) × List Token)
  | 0, _, _ => none
  | fuel + 1, done, tokens =>
      match tokens with
      | .key :: rest =>
          match blockPart? handles fuel rest with
          | none => none
          | some (key, rest) =>
              match rest with
              | .value :: rest =>
                  match blockPart? handles fuel rest with
                  | none => none
                  | some (contents, rest) =>
                      blockPairs? handles fuel
                        ((key, contents) :: done) rest
              | rest =>
                  blockPairs? handles fuel
                    ((key, .blank) :: done) rest
      | .blockEnd :: rest => some (done.reverse, rest)
      | _ => none

/- The key or the contents of a pair in a block. -/
def blockPart?
    (handles : Handles) :
    Nat → List Token → Option (Node String × List Token)
  | 0, _ => none
  | fuel + 1, tokens =>
      if blankPart tokens then some (.blank, tokens)
      else nodeAt? handles .part fuel tokens

/- The items of a sequence in brackets. -/
def flowItems?
    (handles : Handles) :
    Nat → Bool → List (Node String) → List Token →
      Option (List (Node String) × List Token)
  | 0, _, _, _ => none
  | fuel + 1, first, done, tokens =>
      match tokens with
      | .flowSequenceEnd :: rest => some (done.reverse, rest)
      | tokens =>
          match separator? first tokens with
          | none => none
          | some (.flowSequenceEnd :: rest) =>
              some (done.reverse, rest)
          | some (.key :: rest) =>
              match singlePair? handles fuel rest with
              | none => none
              | some (node, rest) =>
                  flowItems? handles fuel false (node :: done)
                    rest
          | some tokens =>
              match nodeAt? handles .flow fuel tokens with
              | none => none
              | some (node, rest) =>
                  flowItems? handles fuel false (node :: done)
                    rest

/-
  A mapping of one pair that is an item of a sequence in
  brackets. Where its key is missing, the token in the place
  of the key is passed over.
-/
def singlePair?
    (handles : Handles) :
    Nat → List Token → Option (Node String × List Token)
  | 0, _ => none
  | fuel + 1, tokens =>
      let key :=
        if blankFlowKey true tokens then
          some (.blank, tokens.drop 1)
        else nodeAt? handles .flow fuel tokens
      match key with
      | none => none
      | some (key, rest) =>
          match flowValue? handles fuel true rest with
          | none => none
          | some (contents, rest) =>
              some (.mapping none none [(key, contents)], rest)

/- The contents of a pair in brackets, after its colon. -/
def flowValue?
    (handles : Handles) :
    Nat → Bool → List Token →
      Option (Node String × List Token)
  | 0, _, _ => none
  | fuel + 1, inSequence, tokens =>
      match tokens with
      | .value :: rest =>
          if blankFlow inSequence rest then some (.blank, rest)
          else nodeAt? handles .flow fuel rest
      | tokens => some (.blank, tokens)

/- The pairs of a mapping in brackets. -/
def flowPairs?
    (handles : Handles) :
    Nat → Bool → List (Node String × Node String) →
      List Token →
      Option (List (Node String × Node String) × List Token)
  | 0, _, _, _ => none
  | fuel + 1, first, done, tokens =>
      match tokens with
      | .flowMappingEnd :: rest => some (done.reverse, rest)
      | tokens =>
          match separator? first tokens with
          | none => none
          | some (.flowMappingEnd :: rest) =>
              some (done.reverse, rest)
          | some (.key :: rest) =>
              let key :=
                if blankFlowKey false rest then
                  some (.blank, rest)
                else nodeAt? handles .flow fuel rest
              match key with
              | none => none
              | some (key, rest) =>
                  match flowValue? handles fuel false rest with
                  | none => none
                  | some (contents, rest) =>
                      flowPairs? handles fuel false
                        ((key, contents) :: done) rest
          | some tokens =>
              match nodeAt? handles .flow fuel tokens with
              | none => none
              | some (key, rest) =>
                  flowPairs? handles fuel false
                    ((key, .blank) :: done) rest

end

------------------------------------------------------------
-- Documents
------------------------------------------------------------

/- What the directives of a document say. -/
structure Directives where
  version : Bool
  handles : Handles

namespace Directives

/- The handles that every document has. -/
def usual : Handles :=
  [ ("!", Octets.ofText "!"),
    ("!!", Octets.ofText "tag:yaml.org,2002:") ]

/-
  Reads directives. There may be one version, which must be
  a known one, and one definition for each handle.
-/
def take?
    (d : Directives) :
    List Token → Option (Directives × List Token)
  | .versionDirective major minor :: rest =>
      if !d.version && major == 1 &&
          (minor == 1 || minor == 2) then
        take? { d with version := true } rest
      else none
  | .tagDirective handle start :: rest =>
      if (d.handles.lookup handle).isSome then none
      else
        take? { d with handles := (handle, start) :: d.handles }
          rest
  | rest => some (d, rest)

end Directives

/- Goes past marks for the end of a document. -/
def skipEnds : List Token → List Token
  | .documentEnd :: rest => skipEnds rest
  | rest => rest

/- Tokens before which a document may be left empty. -/
def blankDocument : List Token → Bool
  | [] => true
  | .versionDirective _ _ :: _ => true
  | .tagDirective _ _ :: _ => true
  | .documentStart :: _ => true
  | .documentEnd :: _ => true
  | _ => false

namespace Document

/-
  The only document of a text. A text without any document
  has a blank one. A document with directives must have a
  mark for its start.
-/
def ofTokens?
    (tokens : List Token) : Option (Node String) := do
  let fuel := 2 * tokens.length + 2
  match tokens with
  | [] => some .blank
  | tokens =>
      let (directives, rest) ←
        Directives.take? ⟨false, []⟩ tokens
      let handles := directives.handles ++ Directives.usual
      let explicit := blankDocument tokens
      let (node, rest) ←
        match rest with
        | .documentStart :: rest =>
            if blankDocument rest then some (.blank, rest)
            else nodeAt? handles .item fuel rest
        | rest =>
            if explicit then none
            else nodeAt? handles .item fuel rest
      if (skipEnds rest).isEmpty then some node else none

end Document

end Yaml

end Conform
