import AssessmentItem.Item.Basic

/-!
# References of an item

Every rule and every expression that a rule reaches has to be there, and every variable they name
has to be declared as one of the right kind.  The first fault found is reported: the rules are
visited in their order, a rule before the rules below it and an expression before its operands.

## Main definitions

* `Item.checkReferences` : the check of an item.
-/

namespace AssessmentItem.Item

/-- The check of a name: it is declared, and as one of the kinds `allowed`. -/
def checkName (item : Item) (context identifier : String) (allowed : List VariableKind) :
    Except DefinitionError Unit :=
  match item.declaration? identifier with
  | none => .error (.unresolved context identifier)
  | some d =>
    if d.kind ∈ allowed then .ok () else .error (.wrongKind context identifier allowed d.kind)

/-- The check of what a node of an expression itself names: the variable of a leaf, template
variables for literals, and as many `fields` as children. -/
def checkKind (item : Item) (context : String) (kind : ExpressionKind) (children : Nat) :
    Except DefinitionError Unit :=
  match kind with
  | .leaf (.valueOf identifier) | .leaf (.defaultOf identifier) =>
    item.checkName context identifier VariableKind.all
  | .leaf (.correctOf identifier) | .leaf (.mapResponse identifier)
  | .leaf (.mapResponsePoint identifier) => item.checkName context identifier [.response]
  | .operator (.record fields) =>
    if fields.length = children then .ok ()
    else .error (.malformed context (.fieldCount fields.length children))
  | _ => .ok ()

mutual

/-- The check of an expression; `rule` is the context of its rule. -/
def checkExpression (item : Item) (rule : String) : ExpressionTree → Except DefinitionError Unit
  | .missing id => .error (.malformed rule (.missingExpression id))
  | .node id kind children => do
    let context := rule ++ " " ++ item.path id
    item.checkKind context kind children.length
    kind.namedVariables.forM fun name ↦ item.checkName context name [.template]
    checkExpressions item rule children

/-- The check of expressions from left to right, up to the first error. -/
def checkExpressions (item : Item) (rule : String) :
    List ExpressionTree → Except DefinitionError Unit
  | [] => .ok ()
  | e :: es => do
    checkExpression item rule e
    checkExpressions item rule es

end

mutual

/-- The check of a rule in `phase`: its expressions, its target and the rules below it. -/
def checkRule (item : Item) (phase : Phase) : RuleTree → Except DefinitionError Unit
  | .missing id => .error (.malformed phase.name (.missingRule id))
  | .node _ (.condition kind branches otherwise) => do
    let context := phase.name ++ "/" ++ (Rule.condition kind branches otherwise).name
    if branches.isEmpty then throw (.malformed context .noBranch)
    item.checkExpressions context (branches.map Branch.guard)
    checkBranches item phase branches
    checkRules item phase otherwise
  | .node _ (.assign kind identifier value) => do
    let context := phase.name ++ "/" ++ kind.name
    item.checkName context identifier kind.targets
    item.checkExpression context value
  | .node _ (.exit _) => .ok ()
  | .node _ (.constraint condition) =>
    item.checkExpression (phase.name ++ "/templateConstraint") condition
  | .node _ (.fragment rules) => checkRules item phase rules

/-- The check of rules in their order, up to the first error. -/
def checkRules (item : Item) (phase : Phase) : List RuleTree → Except DefinitionError Unit
  | [] => .ok ()
  | rule :: rules => do
    checkRule item phase rule
    checkRules item phase rules

/-- The check of the rules of branches; their guards are checked before. -/
def checkBranches (item : Item) (phase : Phase) :
    List (Branch ExpressionTree RuleTree) → Except DefinitionError Unit
  | [] => .ok ()
  | ⟨_, rules⟩ :: branches => do
    checkRules item phase rules
    checkBranches item phase branches

end

/-- The check of an item: the rules of template processing, then those of response processing.  If
it succeeds, every name in them is that of a variable of a fitting kind. -/
def checkReferences (item : Item) : Except DefinitionError Unit := do
  checkRules item .template (item.ruleTrees .template)
  checkRules item .response (item.ruleTrees .response)

end AssessmentItem.Item
