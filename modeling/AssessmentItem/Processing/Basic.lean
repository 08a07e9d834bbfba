import AssessmentItem.Evaluation.Basic
import AssessmentItem.Processing.Error
import AssessmentItem.Processing.Report

/-!
# Processing of rules

Rules run one after the other on one store.  What a rule assigns stays assigned where a later one
fails, and so do the draws it has made.  A rule that exits ends the whole list, from within
conditions and fragments too.

## Main definitions

* `Run` : the state of a run.
* `Processing` : computations on a run that may fail.
* `runRules` : the run of a list of rules.
* `execute` : the outcome of a list of rules on a store and the run it leaves.
-/

namespace AssessmentItem

/-- The state of a run: the `store`, the `generator`, and what has been assigned so far, the last
one last. -/
structure Run where
  store : Store
  generator : Generator
  assignments : List Assignment

/-- A computation on a `Run`, whose effects stay where it fails. -/
abbrev Processing (α : Type) := ExceptT AuthoringError (StateM Run) α

namespace Processing

open Evaluation

/-! ### Steps -/

/-- The value of the expression `e` for the current store. -/
def value (item : Item) (e : ExpressionTree) : Processing Value :=
  ExceptT.mk fun run ↦
    let (result, generator) := (evaluate ⟨item, run.store⟩ e).run run.generator
    (result.mapError .evaluation, { run with generator })

/-- A single value that `read?` reads, or the fault of it; NULL has the result `whenNull`. -/
def readSingle {α : Type} (v : Value) (whenNull : α) (expected : BaseTypes)
    (read? : Scalar → Option α) : Except Fault α :=
  match v with
  | .null => .ok whenNull
  | .single s =>
    match read? s with
    | some a => .ok a
    | none => .error (.baseType 0 expected s.baseType)
  | v => .error (.cardinality 0 [.single] (v.cardinality?.getD .single))

/-- The result `r`, whose faults arise at the expression `e` of the rule called `name`. -/
def atRule {α : Type} (item : Item) (name : String) (e : ExpressionTree) (r : Except Fault α) :
    Processing α :=
  match r with
  | .ok a => return a
  | .error fault => throw (.evaluation ⟨⟨name, item.path e.id⟩, fault⟩)

/-- Whether a guard holds.  It has to be a single `boolean`; NULL counts as `false`. -/
def guardHolds (item : Item) (name : String) (guard : ExpressionTree) : Processing Bool := do
  let v ← value item guard
  atRule item name guard (readSingle v false (.only [.boolean]) Scalar.boolean?)

/-- The declaration of the variable `identifier` that a rule writes, which has to be one of the
`targets` of `kind`. -/
def target (kind : AssignmentKind) (identifier : String) : Processing VariableDeclaration := do
  match (← get).store.declaration? identifier with
  | none => throw (.rule kind.name identifier .undeclared)
  | some d =>
    if d.kind ∈ kind.targets then return d
    else throw (.rule kind.name identifier (.wrongKind d.kind))

/-- The value that the table of the outcome `d` has for the number `v`; NULL for NULL. -/
def lookUp (item : Item) (d : VariableDeclaration) (identifier : String) (e : ExpressionTree)
    (v : Value) : Processing Value := do
  match d.table? with
  | none => throw (.noTable identifier)
  | some table =>
    let found (x : Float) : Value := ((table.find? x).map Value.single).getD .null
    atRule item AssignmentKind.lookup.name e
      (readSingle v .null .numeric fun s ↦ s.number?.map found)

/-- The part of a slot that an assignment of a kind writes. -/
def part : AssignmentKind → SlotPart
  | .correctResponse => .correct
  | .defaultValue => .default
  | .outcomeValue | .templateValue | .lookup => .value

/-- Assigns `v` and notes it.  What is noted is `v` itself, before the store takes it. -/
def assign (id : NodeId) (kind : AssignmentKind) (identifier : String) (v : Value) :
    Processing Unit := do
  let run ← get
  match run.store.write (part kind) identifier v with
  | .error fault => throw (.rule kind.name identifier (.assignment fault))
  | .ok store =>
    let noted : Assignment := ⟨identifier, v, kind, id⟩
    set { run with store, assignments := run.assignments ++ [noted] }

/-- The run of an assignment: its value, the check of its `target`, and the writing. -/
def runAssignment (item : Item) (id : NodeId) (kind : AssignmentKind) (identifier : String)
    (e : ExpressionTree) : Processing Unit := do
  let v ← value item e
  let d ← target kind identifier
  if kind = .lookup then
    assign id kind identifier (← lookUp item d identifier e v)
  else
    assign id kind identifier v

/-! ### Rules -/

mutual

/-- The run of a rule.  A condition and a fragment end as the rules below them do. -/
def runRule (item : Item) : RuleTree → Processing Outcome
  | .missing id => throw (.rule "rule" id.text .missingRule)
  | .node _ (.condition phase branches otherwise) => do
    let name := (Rule.condition phase branches otherwise).name
    match ← runBranches item name branches with
    | some outcome => return outcome
    | none => runRules item otherwise
  | .node id (.assign kind identifier e) => do
    runAssignment item id kind identifier e
    return .completed
  | .node _ (.exit phase) => return .exited phase
  | .node _ (.constraint condition) => do
    if ← guardHolds item "templateConstraint" condition then return .completed
    else return .constraintFailed
  | .node _ (.fragment rules) => runRules item rules

/-- The run of rules in their order, up to the first that does not end with `completed`. -/
def runRules (item : Item) : List RuleTree → Processing Outcome
  | [] => return .completed
  | rule :: rules => do
    match ← runRule item rule with
    | .completed => runRules item rules
    | outcome => return outcome

/-- The run of the first branch whose guard holds; there is `none` if no guard does. -/
def runBranches (item : Item) (name : String) :
    List (Branch ExpressionTree RuleTree) → Processing (Option Outcome)
  | [] => return none
  | ⟨guard, rules⟩ :: branches => do
    if ← guardHolds item name guard then
      return some (← runRules item rules)
    else runBranches item name branches

end

end Processing

/-- The outcome of a list of rules on a `store`, and the run that it leaves. -/
def execute (item : Item) (rules : List RuleTree) (store : Store) (generator : Generator) :
    Except AuthoringError Outcome × Run :=
  (Processing.runRules item rules).run ⟨store, generator, []⟩

end AssessmentItem
