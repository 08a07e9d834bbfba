import AssessmentItem.Expression.Operator

/-!
# Signatures of operators

A signature says how many operands an operator has, of which cardinalities and base types they
may be, and whether NULL among them makes the result NULL.

## Main definitions

* `Arity`, `BaseTypes` : sets of operand counts and of base types.
* `Signature` : what an operator demands of its operands.
* `Operator.signature` : the signature of an operator.
-/

namespace AssessmentItem

/-- How many operands there may be: `exactly` a number of them, or `atLeast` one. -/
inductive Arity
  | exactly (n : Nat)
  | atLeast (n : Nat)
  deriving DecidableEq

namespace Arity

/-- Whether there may be `n` operands. -/
def accepts (a : Arity) (n : Nat) : Bool :=
  match a with
  | exactly k => n == k
  | atLeast k => k ≤ n

/-- The wording of an arity in messages. -/
def text : Arity → String
  | exactly 1 => "exactly 1 operand"
  | exactly k => "exactly " ++ toString k ++ " operands"
  | atLeast k => "at least " ++ toString k ++ " operands"

end Arity

/-- The `texts` with "or" between them. -/
def alternatives (texts : List String) : String := String.intercalate " or " texts

/-- A set of base types: `all` of them, `only` some, or all `except` some. -/
inductive BaseTypes
  | all
  | only (types : List BaseType)
  | except (types : List BaseType)
  deriving DecidableEq

namespace BaseTypes

/-- Whether the base type `t` belongs to the set. -/
def accepts (types : BaseTypes) (t : BaseType) : Bool :=
  match types with
  | all => true
  | only l => l.contains t
  | except l => !l.contains t

/-- The wording of a set of base types in messages. -/
def text : BaseTypes → String
  | all => "any"
  | only l => alternatives (l.map BaseType.name)
  | except l => "any except " ++ alternatives (l.map BaseType.name)

/-- The base types `integer` and `float`. -/
def numeric : BaseTypes := only [.integer, .float]

/-- All base types whose values are compared exactly: `float` and `duration` are not among them. -/
def exact : BaseTypes := except [.float, .duration]

end BaseTypes

/-- What an operator demands of its operands, all of which have to satisfy it. -/
structure Signature where
  arity : Arity
  cardinalities : List Cardinality
  baseTypes : BaseTypes
  /-- Whether NULL among the operands makes the result NULL. -/
  nullPropagates : Bool
  deriving DecidableEq

namespace Signature

/-- The cardinalities of values that are no `record`. -/
def nonRecord : List Cardinality := [.single, .multiple, .ordered]

/-- The cardinalities `multiple` and `ordered`. -/
def containers : List Cardinality := [.multiple, .ordered]

/-- The signature of an operator whose result is NULL where an operand is: `nullPropagates`
holds. -/
def strict (arity : Arity) (cardinalities : List Cardinality) (baseTypes : BaseTypes) : Signature :=
  ⟨arity, cardinalities, baseTypes, true⟩

/-- The signature of an operator that takes NULL as an operand. -/
def tolerant (arity : Arity) (cardinalities : List Cardinality) (baseTypes : BaseTypes) :
    Signature :=
  ⟨arity, cardinalities, baseTypes, false⟩

end Signature

open Signature in
/-- The signature of an operator: its arity, and what its operands may be. -/
def Operator.signature : Operator → Signature
  | multiple => tolerant (.atLeast 0) [.single, .multiple] .all
  | ordered => tolerant (.atLeast 0) [.single, .ordered] .all
  | repeated _ => tolerant (.atLeast 1) [.single, .ordered] .all
  | record _ => tolerant (.atLeast 0) [.single] .all
  | containerSize => tolerant (.exactly 1) containers .all
  | isNull => tolerant (.exactly 1) Cardinality.all .all
  | and | or | anyN .. => tolerant (.atLeast 1) [.single] (.only [.boolean])
  | index _ => strict (.exactly 1) [.ordered] .all
  | fieldValue _ => strict (.exactly 1) [.record] .all
  | random => strict (.exactly 1) containers .all
  | member | delete => strict (.exactly 2) nonRecord .exact
  | contains => strict (.exactly 2) containers (.except [.duration])
  | substring _ | stringMatch .. => strict (.exactly 2) [.single] (.only [.string])
  | patternMatch _ => strict (.exactly 1) [.single] (.only [.string])
  | not => strict (.exactly 1) [.single] (.only [.boolean])
  | same => strict (.exactly 2) Cardinality.all .exact
  | equal .. | equalRounded .. | lt | gt | lte | gte | subtract | divide | power =>
    strict (.exactly 2) [.single] .numeric
  | durationLT | durationGTE => strict (.exactly 2) [.single] (.only [.duration])
  | inside _ => strict (.exactly 1) nonRecord (.only [.point])
  | sum | product => strict (.atLeast 1) [.single] .numeric
  | integerDivide | integerModulus => strict (.exactly 2) [.single] (.only [.integer])
  | truncate | round | roundTo .. => strict (.exactly 1) [.single] .numeric
  | integerToFloat => strict (.exactly 1) [.single] (.only [.integer])
  | max | min => strict (.atLeast 1) nonRecord .numeric
  | gcd | lcm => strict (.atLeast 1) nonRecord (.only [.integer])
  | statistic _ => strict (.exactly 1) containers .numeric
  | math f => strict (.exactly f.arity) [.single] .numeric

end AssessmentItem
