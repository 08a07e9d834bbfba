import AssessmentItem.Area
import AssessmentItem.Rounding
import AssessmentItem.Value.Scalar

/-!
# Operators

A node of an expression is a leaf, which has no operands, or an operator, which is applied to the
values of its children.  Both may carry literal operands of their own; some of these are given by
naming a template variable instead.

## Main definitions

* `Literal` : a literal operand, or the template variable that holds it.
* `Leaf`, `Operator` : the two sorts of nodes, with their names.
* `Operator.namedVariables`, `Leaf.namedVariables` : the template variables that literal operands
  name.
-/

namespace AssessmentItem

/-- A literal operand, `given` itself or by the template variable that holds it. -/
inductive Literal (α : Type)
  | given (value : α)
  | named (identifier : String)
  deriving DecidableEq

/-- The variable of a `named` operand. -/
def Literal.variable? {α : Type} : Literal α → Option String
  | given _ => none
  | named identifier => some identifier

/-- How far two numbers may be apart to count as equal under `Operator.equal`. -/
inductive ToleranceMode
  | exact
  | absolute
  /-- The tolerance is a share of the second number, in percent. -/
  | relative
  deriving DecidableEq

/-- A statistic of a container of numbers; `sample` and `population` say by what the squares are
divided. -/
inductive Statistic
  | mean
  | sampleVariance
  | sampleDeviation
  | populationVariance
  | populationDeviation
  deriving DecidableEq

/-- A function of one number, or of two for `atan2`. -/
inductive MathFunction
  | sin | cos | tan | sec | csc | cot
  | asin | acos | atan | atan2 | asec | acsc | acot
  | sinh | cosh | tanh | sech | csch | coth
  | log | ln | exp
  | abs | signum | floor | ceil
  | toDegrees | toRadians
  deriving DecidableEq

namespace MathFunction

/-- The number of operands, two for `atan2` and one for all others. -/
def arity : MathFunction → Nat
  | atan2 => 2
  | _ => 1

/-- Whether the value of an integer is an integer.  `signum`, `floor` and `ceil` give one for a
float, too. -/
def isIntegerValued : MathFunction → Bool
  | abs | signum | floor | ceil => true
  | _ => false

end MathFunction

/-- A constant that a `mathConstant` stands for. -/
inductive MathConstant
  | pi
  | e
  deriving DecidableEq

/-- An expression without operands.  These are exactly the nodes that have no `Signature`. -/
inductive Leaf
  | baseValue (value : Scalar)
  | valueOf (identifier : String)
  | correctOf (identifier : String)
  | defaultOf (identifier : String)
  | mapResponse (identifier : String)
  | mapResponsePoint (identifier : String)
  | null
  | randomInteger (min max step : Literal Int64)
  | randomFloat (min max : Literal Float)
  | mathConstant (constant : MathConstant)

namespace Leaf

/-- The name of a leaf, such as `variable` for `valueOf`. -/
def name : Leaf → String
  | baseValue _ => "baseValue"
  | valueOf _ => "variable"
  | correctOf _ => "correct"
  | defaultOf _ => "default"
  | mapResponse _ => "mapResponse"
  | mapResponsePoint _ => "mapResponsePoint"
  | null => "null"
  | randomInteger .. => "randomInteger"
  | randomFloat .. => "randomFloat"
  | mathConstant _ => "mathConstant"

/-- The template variables that the `Literal` operands of a leaf name. -/
def namedVariables : Leaf → List String
  | randomInteger min max step => [min, max, step].filterMap Literal.variable?
  | randomFloat min max => [min, max].filterMap Literal.variable?
  | _ => []

end Leaf

/-- An operator on the values of its children.  Every operator has a `Signature`. -/
inductive Operator
  -- containers
  | multiple
  | ordered
  | containerSize
  | isNull
  | index (n : Literal Int64)
  | fieldValue (field : String)
  | random
  | member
  | delete
  | contains
  | repeated (times : Literal Int64)
  /-- A record; `fields` has one name for each child. -/
  | record (fields : List String)
  -- logic
  | not
  | and
  | or
  | anyN (least most : Literal Int64)
  -- comparison
  | same
  | substring (caseSensitive : Bool)
  | stringMatch (caseSensitive substring : Bool)
  | patternMatch (pattern : String)
  /-- Equality up to a tolerance.  A single one of the `tolerances` applies to both bounds. -/
  | equal (mode : ToleranceMode) (tolerances : List (Literal Float))
      (includesLower includesUpper : Bool)
  | equalRounded (mode : RoundingMode) (figures : Literal Int64)
  | inside (area : Area)
  | lt
  | gt
  | lte
  | gte
  | durationLT
  | durationGTE
  -- arithmetic
  | sum
  | product
  | subtract
  | divide
  | power
  | integerDivide
  | integerModulus
  | truncate
  | round
  | integerToFloat
  | roundTo (mode : RoundingMode) (figures : Literal Int64)
  | max
  | min
  | gcd
  | lcm
  | statistic (statistic : Statistic)
  | math (function : MathFunction)

namespace Operator

/-- The name of an operator, such as `match` for `same`. -/
def name : Operator → String
  | multiple => "multiple"
  | ordered => "ordered"
  | containerSize => "containerSize"
  | isNull => "isNull"
  | index _ => "index"
  | fieldValue _ => "fieldValue"
  | random => "random"
  | member => "member"
  | delete => "delete"
  | contains => "contains"
  | repeated _ => "repeat"
  | record _ => "recordEx"
  | not => "not"
  | and => "and"
  | or => "or"
  | anyN .. => "anyN"
  | same => "match"
  | substring _ => "substring"
  | stringMatch .. => "stringMatch"
  | patternMatch _ => "patternMatch"
  | equal .. => "equal"
  | equalRounded .. => "equalRounded"
  | inside _ => "inside"
  | lt => "lt"
  | gt => "gt"
  | lte => "lte"
  | gte => "gte"
  | durationLT => "durationLT"
  | durationGTE => "durationGTE"
  | sum => "sum"
  | product => "product"
  | subtract => "subtract"
  | divide => "divide"
  | power => "power"
  | integerDivide => "integerDivide"
  | integerModulus => "integerModulus"
  | truncate => "truncate"
  | round => "round"
  | integerToFloat => "integerToFloat"
  | roundTo .. => "roundTo"
  | max => "max"
  | min => "min"
  | gcd => "gcd"
  | lcm => "lcm"
  | statistic _ => "statsOperator"
  | math _ => "mathOperator"

/-- The template variables that the `Literal` operands of an operator name. -/
def namedVariables : Operator → List String
  | anyN least most => [least, most].filterMap Literal.variable?
  | index n | repeated n | equalRounded _ n | roundTo _ n => n.variable?.toList
  | equal _ tolerances _ _ => tolerances.filterMap Literal.variable?
  | _ => []

end Operator

end AssessmentItem
