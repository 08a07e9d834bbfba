import AssessmentItem.Expression.Signature
import AssessmentItem.Store

/-!
# Faults of evaluation

An expression that cannot be evaluated is the fault of the author of the item.  The error names
the operator at which it arose and the path of its node.

## Main definitions

* `Fault` : why an operator has no value.
* `EvaluationError` : a fault and where it arose, with its wording.
-/

namespace AssessmentItem

/-- The greatest number of members that `multiple`, `ordered` or `repeated` may put into a
container. -/
def maxMembers : Nat := 1048576

/-- Why a leaf or an operator has no value. -/
inductive Fault
  | missingNode
  | arity (expected : Arity) (found : Nat)
  | cardinality (operand : Nat) (expected : List Cardinality) (found : Cardinality)
  | baseType (operand : Nat) (expected : BaseTypes) (found : BaseType)
  /-- An operand has not the form that the signature promises.  After `checkOperands` this does not
  arise. -/
  | unreadable
  | unknownVariable (identifier : String)
  /-- A variable that should hold a `Literal` operand holds no integer. -/
  | notInteger (identifier : String) (found : Value)
  | notNumber (identifier : String) (found : Value)
  | noCorrectResponse (identifier : String) (kind : VariableKind)
  | noMapping (identifier : String)
  | noAreaMapping (identifier : String)
  | recordResponse
  | notPoint (identifier : String) (found : BaseType)
  | step (found : Int64)
  | maxBelowMin (max min : Int64)
  | wideRange
  | floatRange (min max : Float)
  /-- The width of a range of floating-point numbers is not finite (`Generator.between`). -/
  | rangeOverflow
  | index (found : Int64)
  | tooManyMembers (times members : Nat)
  | container (fault : ContainerFault)
  | noTolerance
  | rounding (fault : RoundingFault)
  | pattern

/-- The wording of a fault.  After `invalid pattern` no reason is told. -/
def Fault.message : Fault → String
  | missingNode => "node does not exist"
  | arity expected found => "expects " ++ expected.text ++ ", found " ++ toString found
  | cardinality operand expected found =>
    "operand " ++ toString operand ++ " has cardinality " ++ found.name ++ ", expected " ++
      alternatives (expected.map Cardinality.name)
  | baseType operand expected found =>
    "operand " ++ toString operand ++ " has base type " ++ found.name ++ ", expected " ++
      expected.text
  | unreadable => "unreadable operand"
  | unknownVariable identifier => "unknown variable '" ++ identifier ++ "'"
  | notInteger identifier found =>
    "variable '" ++ identifier ++ "' must hold a single integer, found " ++ found.text
  | notNumber identifier found =>
    "variable '" ++ identifier ++ "' must hold a single number, found " ++ found.text
  | noCorrectResponse identifier kind =>
    "'" ++ identifier ++ "' is a " ++ kind.name ++
      " variable; only response variables have a correct response"
  | noMapping identifier => "response variable '" ++ identifier ++ "' has no mapping"
  | noAreaMapping identifier => "response variable '" ++ identifier ++ "' has no areaMapping"
  | recordResponse => "cannot map a record response"
  | notPoint identifier found =>
    "response '" ++ identifier ++ "' holds " ++ found.name ++ " values, expected point"
  | step found => "step must be positive, got " ++ Integer.text found
  | maxBelowMin max min =>
    "max " ++ Integer.text max ++ " is below min " ++ Integer.text min
  | wideRange => "range does not fit in a 64-bit integer"
  | floatRange min max =>
    "invalid range [" ++ Binary64.plainText min ++ ", " ++ Binary64.plainText max ++ "]"
  | rangeOverflow => "range overflow"
  | index found => "index must be at least 1, got " ++ Integer.text found
  | tooManyMembers times members =>
    toString times ++ " copies of " ++ toString members ++ " members exceeds the limit of " ++
      toString maxMembers
  | container fault => fault.message
  | noTolerance => "tolerance mode requires a tolerance"
  | rounding fault => fault.message
  | pattern => "invalid pattern"

/-- The node at which a fault arose, by the name of its `operator` and its `path`. -/
structure Site where
  operator : String
  path : String
  deriving DecidableEq

/-- A `fault` and the `site` where it arose. -/
structure EvaluationError where
  site : Site
  fault : Fault

/-- The wording of an error.  Most errors name the `operator` and the `path`, some only one of
them. -/
def EvaluationError.message (e : EvaluationError) : String :=
  match e.fault with
  | .unknownVariable _ => e.fault.message ++ " referenced at " ++ e.site.path
  | .noMapping _ | .noAreaMapping _ => e.fault.message ++ " for " ++ e.site.operator
  | fault => e.site.operator ++ " at " ++ e.site.path ++ ": " ++ fault.message

end AssessmentItem
