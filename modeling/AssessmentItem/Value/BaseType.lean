/-!
# Base types and cardinalities

A value is typed by a base type, which says what its members are, and by a cardinality, which
says how its members are put together.  Both are known by their exact spelling alone.

## Main definitions

* `BaseType`, `Cardinality` : the types and the cardinalities.
* `BaseType.ofName?`, `Cardinality.ofName?` : the one of a name.
-/

namespace AssessmentItem

/-- What a scalar is. -/
inductive BaseType
  | identifier
  | boolean
  | integer
  | float
  | string
  | point
  | pair
  | directedPair
  | duration
  | file
  | uri
  deriving DecidableEq

namespace BaseType

/-- All base types, in the order of the constructors of `BaseType`. -/
def all : List BaseType :=
  [identifier, boolean, integer, float, string, point, pair, directedPair, duration, file, uri]

/-- The spelling of a base type in documents, such as `directedPair`. -/
def name : BaseType → String
  | identifier => "identifier"
  | boolean => "boolean"
  | integer => "integer"
  | float => "float"
  | string => "string"
  | point => "point"
  | pair => "pair"
  | directedPair => "directedPair"
  | duration => "duration"
  | file => "file"
  | uri => "uri"

/-- The base type whose `name` is `s`. -/
def ofName? (s : String) : Option BaseType := all.find? fun t ↦ t.name == s

/-- The numbers are of type `integer` or `float`. -/
def isNumeric : BaseType → Bool
  | integer | float => true
  | _ => false

end BaseType

/-- How the members of a value are put together. -/
inductive Cardinality
  | single
  /-- A multiset of members: `Value.equal` does not see their order. -/
  | multiple
  /-- A sequence of members. -/
  | ordered
  /-- A map from names to members. -/
  | record
  deriving DecidableEq

namespace Cardinality

/-- All cardinalities, in the order of the constructors of `Cardinality`. -/
def all : List Cardinality := [single, multiple, ordered, record]

/-- The spelling of a cardinality in documents, such as `multiple`. -/
def name : Cardinality → String
  | single => "single"
  | multiple => "multiple"
  | ordered => "ordered"
  | record => "record"

/-- The cardinality whose `name` is `s`. -/
def ofName? (s : String) : Option Cardinality := all.find? fun c ↦ c.name == s

/-- Values of cardinality `multiple` and `ordered` hold a `Container`. -/
def isContainer : Cardinality → Bool
  | multiple | ordered => true
  | _ => false

end Cardinality

end AssessmentItem
