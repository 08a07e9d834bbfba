import AssessmentItem.Rule

/-!
# Reports of processing

A report tells how a list of rules ended and lists the values that were assigned, in their order.

## Main definitions

* `Outcome` : how a list of rules ends.
* `Assignment` : a value that a rule has assigned.
* `Report` : the report of a run.
-/

namespace AssessmentItem

/-- How a list of rules ends: with `completed` after its last one, or where a rule ends all
processing. -/
inductive Outcome
  /-- All rules have run that had to. -/
  | completed
  | exited (phase : Phase)
  | constraintFailed
  deriving DecidableEq

/-- The name of an outcome in reports, such as `exitResponse`. -/
def Outcome.name : Outcome → String
  | completed => "completed"
  | exited .response => "exitResponse"
  | exited .template => "exitTemplate"
  | constraintFailed => "templateConstraintFailed"

/-- A value that the rule `ruleId` has assigned, as it was before the store took it. -/
structure Assignment where
  identifier : String
  value : Value
  kind : AssignmentKind
  ruleId : NodeId

/-- The report of a run: how it ended, and what was assigned in this order. -/
structure Report where
  outcome : Outcome
  assignments : List Assignment

namespace Report

/-- The last value that was noted for `identifier`, whatever part of its slot was written. -/
def lastValue? (r : Report) (identifier : String) : Option Value :=
  (r.assignments.reverse.find? fun a ↦ a.identifier == identifier).map (·.value)

end Report

/-- An assignment as an object, with the name of its kind under `rule`. -/
def Assignment.toJson (a : Assignment) : Json :=
  .fields [("identifier", .string a.identifier), ("value", a.value.toJson),
    ("rule", .string a.kind.name), ("ruleId", .ofNat a.ruleId)]

/-- A report as an object, with `outcome` and `assignments`. -/
def Report.toJson (r : Report) : Json :=
  .fields [("outcome", .string r.outcome.name),
    ("assignments", .array (r.assignments.map Assignment.toJson))]

end AssessmentItem
