import AssessmentItem.Proofs.Document.Expressions
import AssessmentItem.Proofs.Evaluation.Basic
import AssessmentItem.Proofs.Evaluation.Signatures

/-!
# The nodes that evaluation visits

To evaluate an expression is to come to its nodes one after the other, children in front of their
parents and from left to right, each of them once: a node takes the values of its children from the
top of a stack and leaves its own value there.  The nodes below a leaf are not among them.  The
number of children of an operator is checked and that of a leaf is not, so that a leaf with children
has its value in spite of them.

## Main definitions

* `Visit` : a node with the number of its children; `Visit.Allowed` if there may be so many.
* `ExpressionTree.nodes`, `ExpressionTree.visits` : all nodes and those that evaluation comes to.
* `Evaluation.performAll` : evaluates nodes one after the other.

## Main results

* `Evaluation.ends_performAll_visits` : an expression is evaluated by way of its visits.
* `ExpressionTree.visits_eq_nodes_iff` : nothing is left out if no leaf has children.
* `ItemDocument.visitLaws` : what evaluation has done if it comes to a value.
-/

namespace AssessmentItem

/-- The number of operands that a `signature` allows, where leaves have none. -/
def ExpressionKind.arity : ExpressionKind → Arity
  | leaf _ => .exactly 0
  | operator op => op.signature.arity

/-- A node of an expression, with the number of its `children`. -/
structure Visit where
  id : NodeId
  kind : ExpressionKind
  children : Nat

namespace Visit

variable {n : Visit}

/-- The `arity` of the node allows so many children. -/
def Allowed (n : Visit) : Prop := n.kind.arity.accepts n.children

instance : DecidablePred Allowed := fun n ↦ inferInstanceAs (Decidable (n.kind.arity.accepts _))

/-- The children of the node are as many as its `signature` demands, if it is an operator. -/
def Counted (n : Visit) : Prop :=
  ∀ op, n.kind = .operator op → op.signature.arity.accepts n.children

/-- The node has no children, if it is a leaf. -/
def Bare (n : Visit) : Prop := ∀ leaf, n.kind = .leaf leaf → n.children = 0

theorem allowed_iff : n.Allowed ↔ n.Counted ∧ n.Bare := by
  obtain ⟨id, kind, children⟩ := n
  cases kind with
  | leaf leaf => simp [Allowed, Counted, Bare, ExpressionKind.arity, Arity.accepts]
  | operator op => simp [Allowed, Counted, Bare, ExpressionKind.arity]

/-- How many values the node takes from the stack. -/
def operands (n : Visit) : Nat :=
  match n.kind with
  | .leaf _ => 0
  | .operator _ => n.children

end Visit

/-! ### Nodes and visits -/

namespace ExpressionTree

mutual

/-- The nodes of a tree, children before their parents. -/
def nodes : ExpressionTree → List Visit
  | missing _ => []
  | node id kind children => nodesAll children ++ [⟨id, kind, children.length⟩]

/-- The nodes of trees, from left to right. -/
def nodesAll : List ExpressionTree → List Visit
  | [] => []
  | tree :: trees => nodes tree ++ nodesAll trees

end

mutual

/-- The nodes of a tree that evaluation comes to: those that are not below a leaf. -/
def visits : ExpressionTree → List Visit
  | missing _ => []
  | node id (.leaf leaf) children => [⟨id, .leaf leaf, children.length⟩]
  | node id (.operator op) children => visitsAll children ++ [⟨id, .operator op, children.length⟩]

/-- The nodes of trees that evaluation comes to, from left to right. -/
def visitsAll : List ExpressionTree → List Visit
  | [] => []
  | tree :: trees => visits tree ++ visitsAll trees

end

mutual

/-- No node of a tree is `missing`. -/
def Whole : ExpressionTree → Prop
  | missing _ => False
  | node _ _ children => WholeAll children

/-- No node of trees is `missing`. -/
def WholeAll : List ExpressionTree → Prop
  | [] => True
  | tree :: trees => tree.Whole ∧ WholeAll trees

end

mutual

theorem map_id_nodes : (tree : ExpressionTree) → tree.nodes.map Visit.id = tree.ids
  | missing _ => rfl
  | node id kind children => by
      rw [nodes, ids, List.map_append, map_id_nodesAll children, List.map_cons, List.map_nil]

theorem map_id_nodesAll : (trees : List ExpressionTree) →
    (nodesAll trees).map Visit.id = idsAll trees
  | [] => rfl
  | tree :: trees => by
      rw [nodesAll, idsAll, List.map_append, map_id_nodes tree, map_id_nodesAll trees]

end

mutual

theorem visits_sublist_nodes : (tree : ExpressionTree) → tree.visits.Sublist tree.nodes
  | missing _ => .refl _
  | node id (.leaf leaf) children => by
      rw [visits, nodes]
      exact List.sublist_append_right _ _
  | node id (.operator op) children => by
      rw [visits, nodes]
      exact (visitsAll_sublist_nodesAll children).append_right _

theorem visitsAll_sublist_nodesAll : (trees : List ExpressionTree) →
    (visitsAll trees).Sublist (nodesAll trees)
  | [] => .refl _
  | tree :: trees => by
      rw [visitsAll, nodesAll]
      exact (visits_sublist_nodes tree).append (visitsAll_sublist_nodesAll trees)

end

theorem eq_nil_of_nodesAll_eq_nil {trees : List ExpressionTree} (hwhole : WholeAll trees)
    (h : nodesAll trees = []) : trees = [] := by
  match trees, hwhole with
  | [], _ => rfl
  | node id kind children :: trees, _ =>
    rw [nodesAll, nodes] at h
    simp at h

mutual

/-- Nothing of a tree is left out of its `visits` exactly if no leaf that evaluation comes to has
children. -/
theorem visits_eq_nodes_iff : (tree : ExpressionTree) → tree.Whole →
    (tree.visits = tree.nodes ↔ ∀ n ∈ tree.visits, n.Bare)
  | node id (.leaf leaf) children, hwhole => by
      rw [visits, nodes, List.forall_mem_singleton]
      constructor
      · intro h leaf' _
        rw [eq_nil_of_nodesAll_eq_nil hwhole (List.append_left_eq_self.1 h.symm), List.length_nil]
      · intro h
        rw [List.eq_nil_of_length_eq_zero (h leaf rfl), nodesAll, List.nil_append]
  | node id (.operator op) children, hwhole => by
      rw [visits, nodes, List.append_cancel_right_eq, visitsAll_eq_nodesAll_iff children hwhole,
        List.forall_mem_append, List.forall_mem_singleton]
      exact (and_iff_left (fun leaf hleaf ↦ by cases hleaf)).symm

theorem visitsAll_eq_nodesAll_iff : (trees : List ExpressionTree) → WholeAll trees →
    (visitsAll trees = nodesAll trees ↔ ∀ n ∈ visitsAll trees, n.Bare)
  | [], _ => iff_of_true rfl nofun
  | tree :: trees, hwhole => by
      rw [visitsAll, nodesAll, List.forall_mem_append, ← visits_eq_nodes_iff tree hwhole.1,
        ← visitsAll_eq_nodesAll_iff trees hwhole.2]
      constructor
      · intro h
        have hlength := congrArg List.length h
        have hhead := visits_sublist_nodes tree
        have htail := visitsAll_sublist_nodesAll trees
        rw [List.length_append, List.length_append] at hlength
        exact ⟨hhead.eq_of_length_le (by have := htail.length_le; omega),
          htail.eq_of_length_le (by have := hhead.length_le; omega)⟩
      · rintro ⟨hhead, htail⟩
        rw [hhead, htail]

end

end ExpressionTree

mutual

theorem Expression.whole_number : (e : Expression) → (n : NodeId) → (e.number n).1.Whole
  | node kind children, n => by
      rw [number, ExpressionTree.Whole]
      exact wholeAll_numberAll children n

theorem Expression.wholeAll_numberAll : (es : List Expression) → (n : NodeId) →
    ExpressionTree.WholeAll (numberAll es n).1
  | [], _ => trivial
  | e :: es, n => by
      rw [numberAll, ExpressionTree.WholeAll]
      exact ⟨whole_number e n, wholeAll_numberAll es _⟩

end

/-! ### Evaluation by visits -/

namespace Evaluation

/-- The value of a node whose `operands` have values. -/
def nodeValue (scope : Scope) (id : NodeId) (kind : ExpressionKind) (operands : List Value) :
    Drawing EvaluationError Value :=
  match kind with
  | .leaf leaf => scope.within id (.leaf leaf) (leafValue scope.store leaf)
  | .operator op => scope.within id (.operator op) (applyOperator scope.store op operands)

/-- Evaluates a node on the operands at the top of a `stack`, the last one first, and leaves its
value there in their place. -/
def perform (scope : Scope) (stack : List Value) (n : Visit) :
    Drawing EvaluationError (List Value) := do
  let v ← nodeValue scope n.id n.kind (stack.take n.operands).reverse
  return v :: stack.drop n.operands

/-- Evaluates the nodes `ns` one after the other. -/
def performAll (scope : Scope) (ns : List Visit) (stack : List Value) :
    Drawing EvaluationError (List Value) :=
  ns.foldlM (perform scope) stack

section Visits

variable {scope : Scope}

mutual

/-- The run of `evaluate` comes to an operator's value only if it has as many children as its
signature demands. -/
theorem ends_evaluate_counted : (tree : ExpressionTree) → (g : Generator) →
    Ends (evaluate scope tree) g (fun _ _ ↦ ∀ n ∈ tree.visits, n.Counted) fun _ _ ↦ True
  | .missing _, _ => trivial
  | .node id (.leaf leaf) children, g => by
      refine (ends_any _ g).mono (fun _ _ _ ↦ ?_) fun _ _ _ ↦ trivial
      rw [ExpressionTree.visits, List.forall_mem_singleton]
      exact fun op hop ↦ by cases hop
  | .node id (.operator op) children, g => by
      rw [ExpressionTree.visits]
      by_cases hcount : op.signature.arity.accepts children.length
      · rw [ends_evaluate_operator hcount]
        refine (ends_evaluateAll_counted children g).mono (fun vs g' hvs ↦ ?_) fun _ _ _ ↦ trivial
        refine (ends_any _ g').mono (fun _ _ _ ↦ ?_) fun _ _ _ ↦ trivial
        rw [List.forall_mem_append, List.forall_mem_singleton]
        exact ⟨hvs, fun op' hop ↦ by cases hop; exact hcount⟩
      · rw [evaluate, checkArity, if_neg hcount]
        trivial

theorem ends_evaluateAll_counted : (trees : List ExpressionTree) → (g : Generator) →
    Ends (evaluateAll scope trees) g
      (fun _ _ ↦ ∀ n ∈ ExpressionTree.visitsAll trees, n.Counted) fun _ _ ↦ True
  | [], _ => nofun
  | tree :: trees, g => by
      rw [ExpressionTree.visitsAll]
      simp only [evaluateAll, ends_bind, ends_pure]
      refine (ends_evaluate_counted tree g).mono (fun _ g' hhead ↦ ?_) fun _ _ _ ↦ trivial
      refine (ends_evaluateAll_counted trees g').mono (fun _ _ htail ↦ ?_) fun _ _ _ ↦ trivial
      rw [List.forall_mem_append]
      exact ⟨hhead, htail⟩

end

theorem performAll_append (ns ns' : List Visit) (stack : List Value) :
    performAll scope (ns ++ ns') stack =
      performAll scope ns stack >>= fun stack' ↦ performAll scope ns' stack' :=
  List.foldlM_append

theorem performAll_singleton (n : Visit) (stack : List Value) :
    performAll scope [n] stack = perform scope stack n := by
  rw [performAll, List.foldlM_cons]
  exact bind_pure _

mutual

/-- The `visits` of a tree, evaluated one after the other, leave its value on the stack. -/
theorem ends_performAll_visits : (tree : ExpressionTree) → tree.Whole →
    (∀ n ∈ tree.visits, n.Counted) → ∀ (stack : List Value) (g : Generator)
      {Q : List Value → Generator → Prop} {E : EvaluationError → Generator → Prop},
    Ends (performAll scope tree.visits stack) g Q E ↔
      Ends (evaluate scope tree) g (fun v ↦ Q (v :: stack)) E
  | .node id (.leaf leaf) children, _, _, stack, g, Q, E => by
      rw [ExpressionTree.visits, performAll_singleton, perform, ends_bind, evaluate]
      rfl
  | .node id (.operator op) children, hwhole, hcounted, stack, g, Q, E => by
      rw [ExpressionTree.visits, List.forall_mem_append, List.forall_mem_singleton] at hcounted
      obtain ⟨hchildren, hcount⟩ := hcounted
      rw [ExpressionTree.visits, performAll_append, ends_bind,
        ends_performAll_visitsAll children hwhole hchildren stack g,
        ends_evaluate_operator (hcount op rfl)]
      refine ends_congr fun vs g' hvs ↦ ?_
      -- The values of the children are at the top of the stack, the last one first.
      have hlength : vs.reverse.length = children.length :=
        List.length_reverse.trans (length_of_evaluateAll hvs)
      rw [performAll_singleton, perform, ends_bind]
      simp only [Visit.operands]
      rw [List.take_left' hlength, List.drop_left' hlength, List.reverse_reverse, nodeValue,
        ends_within]
      rfl

theorem ends_performAll_visitsAll : (trees : List ExpressionTree) →
    ExpressionTree.WholeAll trees → (∀ n ∈ ExpressionTree.visitsAll trees, n.Counted) →
    ∀ (stack : List Value) (g : Generator)
      {Q : List Value → Generator → Prop} {E : EvaluationError → Generator → Prop},
    Ends (performAll scope (ExpressionTree.visitsAll trees) stack) g Q E ↔
      Ends (evaluateAll scope trees) g (fun vs ↦ Q (vs.reverse ++ stack)) E
  | [], _, _, stack, g, Q, E => Iff.rfl
  | tree :: trees, hwhole, hcounted, stack, g, Q, E => by
      rw [ExpressionTree.visitsAll, List.forall_mem_append] at hcounted
      rw [ExpressionTree.visitsAll, performAll_append, ends_bind,
        ends_performAll_visits tree hwhole.1 hcounted.1 stack g]
      simp only [evaluateAll, ends_bind, ends_pure]
      refine ends_congr fun v g' _ ↦ ?_
      rw [ends_performAll_visitsAll trees hwhole.2 hcounted.2 (v :: stack) g']
      simp only [List.reverse_cons, List.append_assoc, List.singleton_append]

end

/-- An expression comes to a value if its operators have as many children as they may have and its
`visits` come to it. -/
theorem run_evaluate_eq_ok_iff {tree : ExpressionTree} (hwhole : tree.Whole) {g g' : Generator}
    {v : Value} :
    (evaluate scope tree).run g = (.ok v, g') ↔
      (∀ n ∈ tree.visits, n.Counted) ∧
        (performAll scope tree.visits []).run g = (.ok [v], g') := by
  have hperform (h : ∀ n ∈ tree.visits, n.Counted) :
      (performAll scope tree.visits []).run g = (.ok [v], g') ↔
        (evaluate scope tree).run g = (.ok v, g') := by
    rw [← ends_eq_iff, ← ends_eq_iff, ends_performAll_visits tree hwhole h]
    simp only [List.cons.injEq, and_true]
  constructor
  · intro h
    have hcounted := (ends_evaluate_counted tree g).of_run_eq_ok h
    exact ⟨hcounted, (hperform hcounted).2 h⟩
  · rintro ⟨hcounted, h⟩
    exact (hperform hcounted).1 h

end Visits

/-! ### Expressions of an item -/

/-- What `evaluate` does to come to the value of `tree`. -/
structure VisitLaws (tree : ExpressionTree) : Prop where
  /-- The operators have as many children as they may have, and the `visits`, one after the other,
  come to the value. -/
  run_eq_ok_iff : ∀ (scope : Scope) (g g' : Generator) (v : Value),
    (evaluate scope tree).run g = (.ok v, g') ↔
      (∀ n ∈ tree.visits, n.Counted) ∧ (performAll scope tree.visits []).run g = (.ok [v], g')
  nodup : (tree.nodes.map Visit.id).Nodup
  sublist : tree.visits.Sublist tree.nodes
  visits_eq_iff : tree.visits = tree.nodes ↔ ∀ n ∈ tree.visits, n.Bare
  /-- The table of operators is kept to throughout, and every node is evaluated once, if no leaf
  that is visited has children, so that it is `Bare`. -/
  complete_iff : ∀ (scope : Scope) (g g' : Generator) (v : Value),
    (evaluate scope tree).run g = (.ok v, g') →
      ((∀ n ∈ tree.visits, n.Bare) ↔ (∀ n ∈ tree.nodes, n.Allowed) ∧
        (performAll scope tree.nodes []).run g = (.ok [v], g'))

end Evaluation

open Evaluation in
/-- An expression of an item has a value exactly if its operators have as many children as they may
have and its `visits` come to the value, one after the other. Every node is visited once and every
node has as many children as it may have, if no leaf that is visited has any. -/
theorem ItemDocument.visitLaws {d : ItemDocument} {item : Item} (lowered : d.item = .ok item)
    {id : NodeId} (hid : id < item.layout.expressions.size) :
    VisitLaws (item.layout.expressions.expressionTree id) := by
  obtain ⟨e, n, htree⟩ := (laidOut_of_item lowered).expressionTree_eq hid
  have hwhole := e.whole_number n
  have hids := e.range_append_ids n
  rw [← htree] at hwhole hids
  generalize item.layout.expressions.expressionTree id = tree at hwhole hids
  exact
    { run_eq_ok_iff := fun scope g g' v ↦ run_evaluate_eq_ok_iff hwhole
      nodup := by
        rw [ExpressionTree.map_id_nodes]
        exact (hids ▸ List.nodup_range).of_append_right
      sublist := tree.visits_sublist_nodes
      visits_eq_iff := tree.visits_eq_nodes_iff hwhole
      complete_iff := fun scope g g' v h ↦ by
        obtain ⟨hcounted, hrun⟩ := (run_evaluate_eq_ok_iff hwhole).1 h
        constructor
        · intro hbare
          rw [← (tree.visits_eq_nodes_iff hwhole).2 hbare]
          exact ⟨fun n hn ↦ Visit.allowed_iff.2 ⟨hcounted n hn, hbare n hn⟩, hrun⟩
        · rintro ⟨hall, -⟩ n hn
          exact (Visit.allowed_iff.1 (hall n (tree.visits_sublist_nodes.subset hn))).2 }

/-- A document with a `sum` whose first operand is a literal with a child, which would draw. -/
def burdenedDocument : ItemDocument :=
  let die : Json := .fields [("op", .string "randomInteger"), ("min", .natural 1),
    ("max", .natural 6)]
  let five : Json := .fields [("op", .string "baseValue"), ("baseType", .string "integer"),
    ("value", .string "5"), ("children", .array [die])]
  let two : Json := .fields [("op", .string "baseValue"), ("baseType", .string "integer"),
    ("value", .string "2")]
  { identifier := "burdened"
    title := none
    adaptive := false
    declarations := []
    templateProcessing := [.fields [("rule", .string "templateConstraint"),
      ("expression", .fields [("op", .string "sum"), ("children", .array [five, two])])]]
    responseProcessing := [] }

/-- The tree of `burdenedDocument` has four nodes, of which three are visited. -/
theorem visitLaws_burdenedDocument :
    ∃ item, burdenedDocument.item = .ok item ∧
      (item.layout.expressions.expressionTree 3).nodes.map Visit.id = [0, 1, 2, 3] ∧
      (item.layout.expressions.expressionTree 3).visits.map Visit.id = [1, 2, 3] ∧
      Evaluation.VisitLaws (item.layout.expressions.expressionTree 3) := by
  have hitem : Gives burdenedDocument.item (fun item ↦ 3 < item.layout.expressions.size ∧
      (item.layout.expressions.expressionTree 3).nodes.map Visit.id = [0, 1, 2, 3] ∧
      (item.layout.expressions.expressionTree 3).visits.map Visit.id = [1, 2, 3])
      fun _ ↦ False := by
    decide +kernel
  obtain ⟨item, lowered, hid, hnodes, hvisits⟩ := hitem.exists_eq_ok
  exact ⟨item, lowered, hnodes, hvisits, ItemDocument.visitLaws lowered hid⟩

open Evaluation in
/-- The `sum` has a value although one of its nodes has more children than it may have; and the node
below that one is not evaluated, since it would draw. -/
theorem children_lost_burdenedDocument :
    ∃ item, burdenedDocument.item = .ok item ∧
      (∃ v, (evaluate ⟨item, .ofItem item⟩ (item.layout.expressions.expressionTree 3)).run
          (.ofSeed 0) = (.ok v, .ofSeed 0) ∧ v.single?.bind Scalar.integer? = some 7) ∧
      (∃ n ∈ (item.layout.expressions.expressionTree 3).nodes, n.id = 1 ∧ ¬n.Allowed) ∧
      ((evaluate ⟨item, .ofItem item⟩ (item.layout.expressions.expressionTree 0)).run
        (.ofSeed 0)).2 ≠ .ofSeed 0 := by
  have hitem : Gives burdenedDocument.item (fun item ↦
      Gives ((evaluate ⟨item, .ofItem item⟩ (item.layout.expressions.expressionTree 3)).run
          (.ofSeed 0)).1 (fun v ↦ v.single?.bind Scalar.integer? = some 7) (fun _ ↦ False) ∧
        ((evaluate ⟨item, .ofItem item⟩ (item.layout.expressions.expressionTree 3)).run
          (.ofSeed 0)).2 = .ofSeed 0 ∧
        (∃ n ∈ (item.layout.expressions.expressionTree 3).nodes, n.id = 1 ∧ ¬n.Allowed) ∧
        ((evaluate ⟨item, .ofItem item⟩ (item.layout.expressions.expressionTree 0)).run
          (.ofSeed 0)).2 ≠ .ofSeed 0) fun _ ↦ False := by
    decide +kernel
  obtain ⟨item, lowered, hvalue, hstill, hexcess, hdraw⟩ := hitem.exists_eq_ok
  obtain ⟨v, hv, hseven⟩ := hvalue.exists_eq_ok
  exact ⟨item, lowered, ⟨v, Prod.ext hv hstill, hseven⟩, hexcess, hdraw⟩

end AssessmentItem
