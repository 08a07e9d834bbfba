import AssessmentItem.Item.Basic
import AssessmentItem.Value.Literal

/-!
# Binding of responses

A candidate submits texts or a file for some variables.  What can be read as a value of the
declared type is bound; the other identifiers are bad: those that are not declared as responses,
those that the session itself writes, and those whose data cannot be read.

## Main definitions

* `ResponseData`, `Submission` : what a candidate submits.
* `Item.bindResponse?` : the value of what is submitted for a variable.
* `Item.bindResponses` : the values and the bad identifiers of a submission.
-/

namespace AssessmentItem

/-- What is submitted for a variable: texts, or what is known of a file. -/
inductive ResponseData
  | texts (texts : List String)
  | file (info : FileInfo)

/-- What a candidate submits, by the identifier of the variable. -/
abbrev Submission := FieldMap ResponseData

/-- Whether a candidate gives the values of `d`: it is a response other than `duration` and
`numAttempts`. -/
def VariableDeclaration.isCandidateResponse (d : VariableDeclaration) : Bool :=
  d.kind == .response && d.identifier != BuiltIn.duration.identifier &&
    d.identifier != BuiltIn.numAttempts.identifier

/-- The value of what is submitted for `d`, if it can be read.  Blank texts do not count. -/
def VariableDeclaration.readResponse? (d : VariableDeclaration) (data : ResponseData) :
    Option Value :=
  match d.baseType, data with
  | none, _ => none
  | some .file, .file info => if d.cardinality = .single then some (.single (.file info)) else none
  | some .file, .texts _ => none
  | some _, .file _ => none
  | some t, .texts texts =>
    let given := texts.filter fun text ↦ !(Text.trim text.toList).isEmpty
    (Value.read given d.cardinality t).toOption

namespace Item

/-- The value of what is submitted for `identifier`, unless it is bad: no candidate response, or not
readable. -/
def bindResponse? (item : Item) (identifier : String) (data : ResponseData) : Option Value := do
  let d ← item.declaration? identifier
  if d.isCandidateResponse then d.readResponse? data else none

/-- The values that are bound, and the bad identifiers in increasing order. -/
def bindResponses (item : Item) (submission : Submission) : FieldMap Value × List String :=
  let bound := submission.entries.map fun e ↦ (e.1, item.bindResponse? e.1 e.2)
  (.ofList (bound.filterMap fun e ↦ e.2.map fun v ↦ (e.1, v)),
    (bound.filter fun e ↦ e.2.isNone).map (·.1))

end Item

end AssessmentItem
