import AssessmentItem.Declaration
import AssessmentItem.Expression.Basic

/-!
# Rules

A rule assigns the value of an expression to a variable, branches, groups other rules, ends the
processing or demands that a condition holds.  A rule refers to expressions and to other rules:
by their trees where it is written or unfolded, and by their ids in an arena.

## Main definitions

* `Rule` : a rule over the expressions and rules that it refers to.
* `RuleSyntax`, `RuleTree` : rules as they are written, and as they are unfolded from an arena.
* `RuleSyntax.layOut`, `Layout.ruleTree` : the way into an arena and back.
-/

namespace AssessmentItem

/-- The two phases in which rules run, each with a list of rules of its own. -/
inductive Phase
  | template
  | response
  deriving DecidableEq

/-- The name of the list of rules of a phase, such as `templateProcessing`. -/
def Phase.name : Phase → String
  | template => "templateProcessing"
  | response => "responseProcessing"

/-- What an assignment writes: a value, a default, or a correct response. -/
inductive AssignmentKind
  | outcomeValue
  | templateValue
  | correctResponse
  | defaultValue
  /-- The value of an outcome, looked up in its `LookupTable`. -/
  | lookup
  deriving DecidableEq

namespace AssignmentKind

/-- The name of the rule, such as `setOutcomeValue`. -/
def name : AssignmentKind → String
  | outcomeValue => "setOutcomeValue"
  | templateValue => "setTemplateValue"
  | correctResponse => "setCorrectResponse"
  | defaultValue => "setDefaultValue"
  | lookup => "lookupOutcomeValue"

/-- The kinds of variables that an assignment may write; a default may be that of a response or an
outcome. -/
def targets : AssignmentKind → List VariableKind
  | outcomeValue | lookup => [.outcome]
  | templateValue => [.template]
  | correctResponse => [.response]
  | defaultValue => [.response, .outcome]

end AssignmentKind

/-- A `guard` with the `rules` that run if it holds. -/
structure Branch (E R : Type) where
  guard : E
  rules : List R

/-- A rule that refers to expressions by `E` and to rules by `R`. -/
inductive Rule (E R : Type)
  /-- The first branch whose guard holds, or the rules `otherwise`. -/
  | condition (phase : Phase) (branches : List (Branch E R)) (otherwise : List R)
  | assign (kind : AssignmentKind) (identifier : String) (value : E)
  | exit (phase : Phase)
  | constraint (condition : E)
  | fragment (rules : List R)

namespace Rule

variable {E R : Type}

/-- The name of a rule, such as `responseCondition`. -/
def name : Rule E R → String
  | condition .response _ _ => "responseCondition"
  | condition .template _ _ => "templateCondition"
  | assign kind .. => kind.name
  | exit .response => "exitResponse"
  | exit .template => "exitTemplate"
  | constraint _ => "templateConstraint"
  | fragment _ => "responseProcessingFragment"

/-- The rules that a rule refers to, branch by branch and `otherwise` last. -/
def children : Rule E R → List R
  | condition _ branches otherwise => branches.flatMap Branch.rules ++ otherwise
  | fragment rules => rules
  | assign .. | exit _ | constraint _ => []

/-- The expressions that a rule refers to; those of a condition are its guards. -/
def expressions : Rule E R → List E
  | condition _ branches _ => branches.map Branch.guard
  | assign _ _ value => [value]
  | constraint c => [c]
  | exit _ | fragment _ => []

/-- The variable that an assignment writes; no other rule writes one. -/
def target? : Rule E R → Option String
  | assign _ identifier _ => some identifier
  | _ => none

end Rule

/-- A rule as it is written, with everything below it. -/
inductive RuleSyntax
  | node (rule : Rule Expression RuleSyntax)

/-- A rule unfolded from an arena, with the id of every node. -/
inductive RuleTree
  /-- There is no rule with this `id`. -/
  | missing (id : NodeId)
  | node (id : NodeId) (rule : Rule ExpressionTree RuleTree)

/-- A rule in an arena, which refers to expressions and rules by their ids. -/
abbrev RuleNode := Rule NodeId NodeId

/-- The two arenas of an item: its `expressions` and its `rules`. -/
structure Layout where
  expressions : Arena ExpressionNode
  rules : Arena RuleNode

/-! ### Laying out -/

namespace Layout

/-- The layout without nodes. -/
def empty : Layout := ⟨.empty, .empty⟩

/-- Adds an expression to the arena of `expressions`, by `Expression.layOut`. -/
def addExpression (l : Layout) (e : Expression) : NodeId × Layout :=
  let (id, expressions) := e.layOut l.expressions
  (id, { l with expressions })

/-- Adds `rule`, whose expressions and rules are already there. -/
def push (l : Layout) (rule : RuleNode) : NodeId × Layout :=
  let (id, rules) := l.rules.push rule rule.children
  (id, { l with rules })

end Layout

namespace RuleSyntax

mutual

/-- Adds a rule to a layout, after everything it refers to, and gives the id of the rule. -/
def layOut : RuleSyntax → Layout → NodeId × Layout
  | node (.condition phase branches otherwise), l =>
    let (branches, l) := layOutBranches branches l
    let (otherwise, l) := layOutAll otherwise l
    l.push (.condition phase branches otherwise)
  | node (.assign kind identifier value), l =>
    let (value, l) := l.addExpression value
    l.push (.assign kind identifier value)
  | node (.exit phase), l => l.push (.exit phase)
  | node (.constraint condition), l =>
    let (condition, l) := l.addExpression condition
    l.push (.constraint condition)
  | node (.fragment rules), l =>
    let (rules, l) := layOutAll rules l
    l.push (.fragment rules)

/-- Adds rules in their order, each by `layOut`. -/
def layOutAll : List RuleSyntax → Layout → List NodeId × Layout
  | [], l => ([], l)
  | rule :: rules, l =>
    let (id, l) := layOut rule l
    let (ids, l) := layOutAll rules l
    (id :: ids, l)

/-- Adds branches in their order, each guard before its rules. -/
def layOutBranches :
    List (Branch Expression RuleSyntax) → Layout → List (Branch NodeId NodeId) × Layout
  | [], l => ([], l)
  | ⟨guard, rules⟩ :: branches, l =>
    let (guard, l) := l.addExpression guard
    let (rules, l) := layOutAll rules l
    let (branches, l) := layOutBranches branches l
    (⟨guard, rules⟩ :: branches, l)

end

end RuleSyntax

/-! ### Unfolding -/

namespace Rule

variable {E E' R R' : Type}

/-- A rule with every expression `e` replaced by `f e` and every rule `r` by `g r`. -/
def map (f : E → E') (g : R → R') : Rule E R → Rule E' R'
  | condition phase branches otherwise =>
    condition phase (branches.map fun b ↦ ⟨f b.guard, b.rules.map g⟩) (otherwise.map g)
  | assign kind identifier value => assign kind identifier (f value)
  | exit phase => exit phase
  | constraint c => constraint (f c)
  | fragment rules => fragment (rules.map g)

end Rule

namespace Layout

/-- The rule below an id.  `fuel` bounds the depth. -/
def unfoldRule (l : Layout) : Nat → NodeId → RuleTree
  | 0, id => .missing id
  | fuel + 1, id =>
    match l.rules.get? id with
    | some rule => .node id (rule.map l.expressions.expressionTree (unfoldRule l fuel))
    | none => .missing id

/-- The rule below `id`.  Where rules stand behind the rules they refer to, no branch is longer than
the arena. -/
def ruleTree (l : Layout) (id : NodeId) : RuleTree := l.unfoldRule l.rules.size id

end Layout

end AssessmentItem
