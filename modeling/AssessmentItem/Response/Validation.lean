import AssessmentItem.Evaluation.Fault
import AssessmentItem.Pattern.Limits

/-!
# Validation of responses

A response is valid if it has as many members as its constraints allow and the pattern mask
matches every text among them as a whole.

## Main definitions

* `validateResponses` : the identifiers of the responses that are not valid.
-/

namespace AssessmentItem

/-- Whether `n` members are allowed: between `minValues` and `maxValues`. -/
def ResponseConstraints.allowsCount (c : ResponseConstraints) (n : Nat) : Bool :=
  c.minValues.toNat ≤ n && c.maxValues.all fun most ↦ n ≤ most.toNat

/-- Whether `mask` matches every text among the members; members without a text are not looked
at. -/
def maskAccepts [PatternLibrary] (mask : PatternLibrary.Regex) (members : List Scalar) : Bool :=
  members.all fun s ↦ s.text?.all fun text ↦ PatternLibrary.occursIn mask text

/-- Whether the members of the response `identifier` satisfy `c`; a mask that is no pattern is a
fault of the author. -/
def ResponseConstraints.accepts [PatternLibrary] (c : ResponseConstraints) (identifier : String)
    (members : List Scalar) : Except EvaluationError Bool := do
  let mask ← c.patternMask.mapM fun text ↦
    match PatternLibrary.whole? text with
    | some mask => .ok mask
    | none => .error ⟨⟨"patternMask", identifier⟩, .pattern⟩
  return c.allowsCount members.length && mask.all fun mask ↦ maskAccepts mask members

/-- Whether the value of `d` is valid; variables that are no responses always are. -/
def isValid [PatternLibrary] (store : Store) (d : VariableDeclaration) :
    Except EvaluationError Bool :=
  match d.response?, store.value? d.identifier with
  | some details, some v => details.constraints.accepts d.identifier v.members
  | _, _ => .ok true

/-- The identifiers of the responses whose value `isValid` does not accept, in the order of their
declarations. -/
def validateResponses [PatternLibrary] (item : Item) (store : Store) :
    Except EvaluationError (List String) := do
  let checked ← (item.declarationsOf .response).mapM fun d ↦
    return (d.identifier, ← isValid store d)
  return (checked.filter fun e ↦ !e.2).map (·.1)

end AssessmentItem
