/-
  This file defines the tokens of YAML text. Indentation
  shows as tokens of its own, so that the structure of a
  document can be read off the tokens alone.

  Key definitions include:
    * `Yaml.Octets`
    * `Yaml.Octets.ofText`
    * `Yaml.Octets.text?`
    * `Yaml.Token`
-/

namespace Conform

namespace Yaml

/-
  What tags are made of. Escapes in a tag name octets, which
  need not encode any characters.
-/
abbrev Octets :=
  List UInt8

namespace Octets

/- The octets that encode a text. -/
def ofText
    (text : String) : Octets :=
  text.toUTF8.data.toList

/- The text that octets encode. -/
def text?
    (octets : Octets) : Option String :=
  String.fromUTF8? (ByteArray.mk octets.toArray)

end Octets

/- A token of YAML text. -/
inductive Token
  | versionDirective (major minor : Nat)
  | tagDirective (handle : String) (start : Octets)
  | documentStart
  | documentEnd
  | blockSequenceStart
  | blockMappingStart
  | blockEnd
  | blockEntry
  | flowSequenceStart
  | flowSequenceEnd
  | flowMappingStart
  | flowMappingEnd
  | flowEntry
  | key
  | value
  | alias (name : String)
  | anchor (name : String)
  | tag (handle : String) (suffix : Octets)
  | scalar (text : String) (plain : Bool)

end Yaml

end Conform
