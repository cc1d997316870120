import Conform.Yaml.Layout
import Conform.Yaml.Node
import Conform.Yaml.Scalar

/-
  This file reads YAML text as JSON data.

  An alias stands for a copy of the node that it names. Each
  anchor gets as its number the count of different names
  before it, and of two nodes with one number the later
  counts. So that copies of copies stay within bounds, there
  may be no more than a hundred copies for each event, which
  is the start or the end of a collection, a scalar or an
  alias.

  Key definitions include:
    * `Yaml.numberNode?`
    * `Yaml.anchored`
    * `Yaml.eventCount`
    * `Yaml.expand?`
    * `Yaml.parse?`
-/

namespace Conform

namespace Yaml

------------------------------------------------------------
-- Numbering Anchors
------------------------------------------------------------

/- The names of anchors so far with their numbers. -/
abbrev Anchors :=
  List (String × Nat)

/- Numbers an anchor, where there is one. -/
def numberAnchor
    (known : Anchors) : Option String → Anchors × Option Nat
  | none => (known, none)
  | some name =>
      let others := known.filter fun a => a.1 != name
      ((name, known.length) :: others, some known.length)

mutual

/-
  Replaces names of anchors by numbers, in the order of the
  text. An alias must name an anchor before it.
-/
def numberNode?
    (known : Anchors) :
    Node String → Option (Anchors × Node Nat)
  | .scalar anchor tag text plain =>
      let (known, a) := numberAnchor known anchor
      some (known, .scalar a tag text plain)
  | .sequence anchor tag items =>
      let (known, a) := numberAnchor known anchor
      (numberItems? known items).map fun r =>
        (r.1, .sequence a tag r.2)
  | .mapping anchor tag pairs =>
      let (known, a) := numberAnchor known anchor
      (numberPairs? known pairs).map fun r =>
        (r.1, .mapping a tag r.2)
  | .alias name =>
      (known.lookup name).map fun n => (known, .alias n)

/- Numbers the anchors of several nodes. -/
def numberItems?
    (known : Anchors) :
    List (Node String) → Option (Anchors × List (Node Nat))
  | [] => some (known, [])
  | node :: rest => do
      let (known, node) ← numberNode? known node
      let (known, rest) ← numberItems? known rest
      some (known, node :: rest)

/- Numbers the anchors of several pairs. -/
def numberPairs?
    (known : Anchors) :
    List (Node String × Node String) →
      Option (Anchors × List (Node Nat × Node Nat))
  | [] => some (known, [])
  | (key, contents) :: rest => do
      let (known, key) ← numberNode? known key
      let (known, contents) ← numberNode? known contents
      let (known, rest) ← numberPairs? known rest
      some (known, (key, contents) :: rest)

end

mutual

/- The nodes with anchors below a node, itself first. -/
def anchored : Node Nat → List (Nat × Node Nat)
  | .scalar (some a) tag text plain =>
      [(a, .scalar (some a) tag text plain)]
  | .scalar none _ _ _ => []
  | .sequence (some a) tag items =>
      (a, .sequence (some a) tag items) :: anchoredItems items
  | .sequence none _ items => anchoredItems items
  | .mapping (some a) tag pairs =>
      (a, .mapping (some a) tag pairs) :: anchoredPairs pairs
  | .mapping none _ pairs => anchoredPairs pairs
  | .alias _ => []

/- The nodes with anchors in several nodes. -/
def anchoredItems : List (Node Nat) → List (Nat × Node Nat)
  | [] => []
  | node :: rest => anchored node ++ anchoredItems rest

/- The nodes with anchors in several pairs. -/
def anchoredPairs :
    List (Node Nat × Node Nat) → List (Nat × Node Nat)
  | [] => []
  | (key, contents) :: rest =>
      anchored key ++ (anchored contents ++ anchoredPairs rest)

end

------------------------------------------------------------
-- Counting Events
------------------------------------------------------------

mutual

/- The number of events of a node. -/
def eventCount : Node Nat → Nat
  | .scalar _ _ _ _ => 1
  | .sequence _ _ items => itemEvents items + 2
  | .mapping _ _ pairs => pairEvents pairs + 2
  | .alias _ => 1

/- The number of events of several nodes. -/
def itemEvents : List (Node Nat) → Nat
  | [] => 0
  | node :: rest => eventCount node + itemEvents rest

/- The number of events of several pairs. -/
def pairEvents : List (Node Nat × Node Nat) → Nat
  | [] => 0
  | (key, contents) :: rest =>
      eventCount key + eventCount contents + pairEvents rest

end

------------------------------------------------------------
-- Data
------------------------------------------------------------

/- A result together with the copies that may still follow. -/
abbrev Bounded (α : Type) :=
  StateT Nat Option α

/- The node that a node is or is an alias for. -/
def follow
    (table : List (Nat × Node Nat))
    (node : Node Nat) : Bounded (Node Nat) :=
  match node with
  | .alias a => do
      match ← get with
      | 0 => failure
      | n + 1 =>
          set n
          match table.lookup a with
          | some found => pure found
          | none => failure
  | node => pure node

/- The name that a key gives. Only scalars can be names. -/
def expandKey?
    (table : List (Nat × Node Nat))
    (node : Node Nat) : Bounded String := do
  match ← follow table node with
  | .scalar _ _ text _ => pure text
  | _ => failure

/-
  The data that a node denotes, nested up to a depth. The
  last of several pairs with one name counts.
-/
def expand?
    (table : List (Nat × Node Nat)) :
    Nat → Node Nat → Bounded Json
  | 0, node => do
      match ← follow table node with
      | .scalar _ tag text plain =>
          (scalarJson? tag text plain : Option Json)
      | _ => failure
  | depth + 1, node => do
      match ← follow table node with
      | .scalar _ tag text plain =>
          (scalarJson? tag text plain : Option Json)
      | .sequence _ tag items =>
          if refusesTag tag then failure
          else
            let items ← items.mapM (expand? table depth)
            pure (.array items)
      | .mapping _ tag pairs =>
          if refusesTag tag then failure
          else
            let members ← pairs.mapM fun pair => do
              let name ← expandKey? table pair.1
              let contents ← expand? table depth pair.2
              pure (name, contents)
            pure (.object (Fields.ofPairs members))
      | .alias _ => failure

/- The data of the only document of a text. -/
def parse?
    (depth : Nat)
    (text : String) : Option Json := do
  let tokens ← Token.scanAll? text
  let node ← Document.ofTokens? tokens
  let (_, node) ← numberNode? [] node
  let table := (anchored node).reverse
  let copies := 100 * eventCount node
  let (j, _) ← (expand? table depth node).run copies
  some j

end Yaml

end Conform
