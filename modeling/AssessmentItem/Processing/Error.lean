import AssessmentItem.Evaluation.Fault

/-!
# Errors of processing

Rules fail where an expression cannot be evaluated or a value cannot be assigned.  Either is the
fault of the author of the item.

## Main definitions

* `RuleFault` : why a rule cannot assign its value.
* `AuthoringError` : the errors of processing, with their wording.
-/

namespace AssessmentItem

/-- Why a rule cannot assign its value or cannot run. -/
inductive RuleFault
  | missingRule
  | undeclared
  | wrongKind (found : VariableKind)
  | assignment (fault : AssignmentFault)
  deriving DecidableEq

/-- The wording of a `RuleFault`. -/
def RuleFault.message : RuleFault → String
  | missingRule => "rule does not exist"
  | undeclared => "variable is not declared"
  | wrongKind found => "cannot assign to a " ++ found.name ++ " variable"
  | assignment fault => fault.message

/-- An error of the author of an item, in an expression, in a rule, or in a table that is
missing. -/
inductive AuthoringError
  | evaluation (error : EvaluationError)
  | rule (name identifier : String) (fault : RuleFault)
  | noTable (identifier : String)

/-- The wording of an error; that of an `evaluation` names the operator and its path. -/
def AuthoringError.message : AuthoringError → String
  | evaluation error => error.message
  | rule name identifier fault => name ++ " '" ++ identifier ++ "': " ++ fault.message
  | noTable identifier => "outcome variable '" ++ identifier ++ "' has no lookup table"

end AssessmentItem
