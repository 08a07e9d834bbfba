import AssessmentItem.Arena
import AssessmentItem.Expression.Operator

/-!
# Expressions

An expression is a tree of leaves and operators.  The expressions of an item are laid out in an
arena, children in front of their parents, and an error names the node at which it arose by the
path from its root.  An arena may hold ids without a node, so the tree that is unfolded from it
has a place for them.

## Main definitions

* `Expression` : expressions as they are written.
* `Expression.layOut` : adds an expression to an arena.
* `ExpressionTree` : an expression unfolded from an arena; `Arena.expressionTree` unfolds it.
* `Arena.path` : the path of a node.
-/

namespace AssessmentItem

/-- What a node of an expression is: a `Leaf`, which has a value of its own, or an `Operator`, which
is applied to the values of its children. -/
inductive ExpressionKind
  | leaf (leaf : Leaf)
  | operator (operator : Operator)

namespace ExpressionKind

/-- The name of a leaf or an operator, which messages and paths show. -/
def name : ExpressionKind → String
  | leaf l => l.name
  | operator o => o.name

/-- The template variables that its `Literal` operands name. -/
def namedVariables : ExpressionKind → List String
  | leaf l => l.namedVariables
  | operator o => o.namedVariables

end ExpressionKind

/-- An expression as it is written.  A leaf may have children, too. -/
inductive Expression
  | node (kind : ExpressionKind) (children : List Expression)

/-- A node of an expression in an `Arena`, with the ids of its children. -/
structure ExpressionNode where
  kind : ExpressionKind
  children : List NodeId

/-- An expression unfolded from an arena, with the id of every node. -/
inductive ExpressionTree
  /-- There is no node with this `id`. -/
  | missing (id : NodeId)
  | node (id : NodeId) (kind : ExpressionKind) (children : List ExpressionTree)

/-- The id of the node at the top, whether the node exists or not. -/
def ExpressionTree.id : ExpressionTree → NodeId
  | missing id | node id _ _ => id

/-! ### Laying out -/

mutual

/-- Adds an expression to an arena, the children before the node, and gives the id of the node. -/
def Expression.layOut : Expression → Arena ExpressionNode → NodeId × Arena ExpressionNode
  | node kind children, a =>
    let (ids, a) := layOutAll children a
    a.push ⟨kind, ids⟩ ids

/-- Adds expressions to an arena from left to right, each by `layOut`. -/
def Expression.layOutAll :
    List Expression → Arena ExpressionNode → List NodeId × Arena ExpressionNode
  | [], a => ([], a)
  | e :: es, a =>
    let (id, a) := layOut e a
    let (ids, a) := layOutAll es a
    (id :: ids, a)

end

namespace Arena

/-! ### Unfolding -/

/-- The expression below a node.  `fuel` bounds the depth. -/
def unfoldExpression (a : Arena ExpressionNode) : Nat → NodeId → ExpressionTree
  | 0, id => .missing id
  | fuel + 1, id =>
    match a.get? id with
    | some node => .node id node.kind (node.children.map (unfoldExpression a fuel))
    | none => .missing id

/-- The expression below the node `id`.  Where children stand in front of their parents no branch is
longer than the arena. -/
def expressionTree (a : Arena ExpressionNode) (id : NodeId) : ExpressionTree :=
  a.unfoldExpression a.size id

/-! ### Paths -/

/-- The place of the node `id` among the children of its parent; a root has none. -/
def position? (a : Arena ExpressionNode) (id : NodeId) : Option Nat := do
  let parent ← a.get? (← a.parent? id)
  parent.children.idxOf? id

/-- The name of the node `id`, with its `position?` in brackets, such as `product[0]`. -/
def segment? (a : Arena ExpressionNode) (id : NodeId) : Option String := do
  let node ← a.get? id
  match a.position? id with
  | some i => some (node.kind.name ++ "[" ++ toString i ++ "]")
  | none => some node.kind.name

/-- The path of a node from its root, such as `sum/product[0]/variable[1]`. -/
def path (a : Arena ExpressionNode) (id : NodeId) : String :=
  String.intercalate "/" ((a.ancestors id).reverse.filterMap a.segment?)

end Arena

end AssessmentItem
