import AssessmentItem.Evaluation.Operators

/-!
# Evaluation of expressions

An expression is evaluated from the bottom to the top and from left to right.  The operands of an
operator are counted, evaluated, all of them, and then checked; where NULL propagates an operand
that is NULL settles the result before the check.  Leaves take no operands and do not look at
their children.

## Main definitions

* `evaluate` : the value of an expression.
-/

namespace AssessmentItem.Evaluation

/-- An item with a store of its variables, in which expressions are evaluated. -/
structure Scope where
  item : Item
  store : Store

/-- The place of the node `id`: the name of its kind and its `Item.path`. -/
def Scope.site (scope : Scope) (id : NodeId) (kind : ExpressionKind) : Site :=
  ⟨kind.name, scope.item.path id⟩

/-- The computation `d`, whose faults arise at the node `id`. -/
def Scope.within {α : Type} (scope : Scope) (id : NodeId) (kind : ExpressionKind)
    (d : Drawing Fault α) : Drawing EvaluationError α :=
  ExceptT.adapt (fun fault ↦ ⟨scope.site id kind, fault⟩) d

/-- The value of `op` for the operands `vs`: NULL where one of them is and `nullPropagates` holds,
else what `operatorValue` gives for operands that pass `checkOperands`. -/
def applyOperator [PatternLibrary] (store : Store) (op : Operator) (vs : List Value) :
    Drawing Fault Value :=
  if op.signature.nullPropagates && vs.any Value.isNull then return .null
  else do
    settled (checkOperands op.signature 0 vs)
    operatorValue store op vs

/-- The check that the number `n` of operands is one that the signature of `op` accepts. -/
def checkArity (op : Operator) (n : Nat) : Except Fault Unit :=
  if op.signature.arity.accepts n then .ok () else .error (.arity op.signature.arity n)

mutual

/-- The value of an expression.  A leaf does not look at its children; an operator evaluates all of
them from left to right before `applyOperator`. -/
def evaluate [PatternLibrary] (scope : Scope) : ExpressionTree → Drawing EvaluationError Value
  | .missing id => throw ⟨⟨"expression", id.text⟩, .missingNode⟩
  | .node id (.leaf leaf) _ => scope.within id (.leaf leaf) (leafValue scope.store leaf)
  | .node id (.operator op) children => do
    scope.within id (.operator op) (settled (checkArity op children.length))
    let vs ← evaluateAll scope children
    scope.within id (.operator op) (applyOperator scope.store op vs)

/-- The values of expressions from left to right, up to the first error. -/
def evaluateAll [PatternLibrary] (scope : Scope) :
    List ExpressionTree → Drawing EvaluationError (List Value)
  | [] => return []
  | e :: es => do
    let v ← evaluate scope e
    let vs ← evaluateAll scope es
    return v :: vs

end

end AssessmentItem.Evaluation
