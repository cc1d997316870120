/-
  This file defines the tags by which a definition says what
  kind of node it declares.

  Key definitions include:
    * `Tag`
    * `Tag.name`
    * `Tag.ofName?`
-/

namespace Conform

/- The kinds of node that can be declared. -/
inductive Tag
  | string
  | number
  | boolean
  | date
  | any
  | enumeration
  | literal
  | object
  | array
  | tuple
  | union
  | record
  | nullable
  | optional
  | mapped
  | lazy
deriving DecidableEq

namespace Tag

/- All tags. -/
def all : List Tag :=
  [ string, number, boolean, date, any, enumeration, literal,
    object, array, tuple, union, record, nullable, optional,
    mapped, lazy ]

/- The text of a tag in a definition. -/
def name : Tag → String
  | string => "string"
  | number => "number"
  | boolean => "boolean"
  | date => "date"
  | any => "any"
  | enumeration => "enum"
  | literal => "literal"
  | object => "object"
  | array => "array"
  | tuple => "tuple"
  | union => "union"
  | record => "record"
  | nullable => "nullable"
  | optional => "optional"
  | mapped => "transform"
  | lazy => "lazy"

/- The tag with a given text. -/
def ofName?
    (text : String) : Option Tag :=
  all.find? fun tag => tag.name == text

end Tag

end Conform
