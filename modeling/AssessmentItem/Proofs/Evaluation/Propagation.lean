import AssessmentItem.Proofs.Evaluation.Basic
import AssessmentItem.Proofs.Evaluation.Signatures

/-!
# NULL and errors on the way to the root

NULL travels up through operators that propagate it, whatever their other operands are: the check of
the operands comes after.  The other operands are evaluated all the same, and the first of them that
fails makes the whole expression fail.  So an expression with a node that is NULL under a chain of
such operators is NULL if what hangs off the chain has values, and else fails with the error that
comes first in the order of evaluation.

## Main definitions

* `Frame` : an operator with a place among its operands; `Frame.fillAll` puts a tree below a chain
  of them.
* `Evaluation.around` : what hangs off a chain and what is below it, in the order of evaluation.
* `Evaluation.FirstFailure` : the first of several trees that fails.

## Main results

* `Evaluation.ends_frame` : NULL goes up by one operator.
* `Evaluation.ends_fillAll` : NULL goes up by a chain of operators.
* `Evaluation.evaluateAll_eq_error_iff` : operands fail with the error of the first that does.
* `Evaluation.nullLaws` : NULL and errors in any expression.
-/

namespace AssessmentItem

/-- An operator with its operands, but for one. -/
structure Frame where
  id : NodeId
  operator : Operator
  left : List ExpressionTree
  right : List ExpressionTree

namespace Frame

/-- The operator of `f` with an operand in the place that is left. -/
def fill (f : Frame) (tree : ExpressionTree) : ExpressionTree :=
  .node f.id (.operator f.operator) (f.left ++ tree :: f.right)

/-- The operator has an admissible number of operands, and `nullPropagates` for it. -/
def Propagates (f : Frame) : Prop :=
  f.operator.signature.nullPropagates ∧
    f.operator.signature.arity.accepts (f.left.length + (f.right.length + 1))

/-- A tree below a `chain` of operators, the outermost first. -/
def fillAll (chain : List Frame) (tree : ExpressionTree) : ExpressionTree :=
  chain.foldr Frame.fill tree

end Frame

namespace Evaluation

/-- What hangs off a `chain` to the left, in the order of evaluation. -/
def leftOf (chain : List Frame) : List ExpressionTree := chain.flatMap Frame.left

/-- What hangs off a `chain` to the right, in the order of evaluation. -/
def rightOf (chain : List Frame) : List ExpressionTree := chain.reverse.flatMap Frame.right

/-- What hangs off a `chain` and the `tree` below it, in the order of evaluation. -/
def around (chain : List Frame) (tree : ExpressionTree) : List ExpressionTree :=
  leftOf chain ++ tree :: rightOf chain

theorem around_cons (f : Frame) (chain : List Frame) (tree : ExpressionTree) :
    around (f :: chain) tree = f.left ++ (around chain tree ++ f.right) := by
  simp [around, leftOf, rightOf]

section Order

variable {scope : Scope} {g g' : Generator}

theorem ends_evaluateAll_append {Q : List Value → Generator → Prop}
    {E : EvaluationError → Generator → Prop} (es fs : List ExpressionTree) :
    Ends (evaluateAll scope (es ++ fs)) g Q E ↔
      Ends (evaluateAll scope es) g
        (fun vs g₁ ↦ Ends (evaluateAll scope fs) g₁ (fun ws ↦ Q (vs ++ ws)) E) E := by
  induction es generalizing g Q with
  | nil => exact Iff.rfl
  | cons e es ih => simp only [List.cons_append, evaluateAll, ends_bind, ends_pure, ih]

/-! ### Failures -/

/-- One of `trees` fails with `e`, and those before it have values. -/
def FirstFailure (scope : Scope) (trees : List ExpressionTree) (g : Generator)
    (e : EvaluationError) (g' : Generator) : Prop :=
  ∃ before tree after vs g₁, trees = before ++ tree :: after ∧
    (evaluateAll scope before).run g = (.ok vs, g₁) ∧
    (evaluate scope tree).run g₁ = (.error e, g')

theorem run_evaluateAll_cons_eq_error_iff {tree : ExpressionTree} {trees : List ExpressionTree}
    {e : EvaluationError} :
    (evaluateAll scope (tree :: trees)).run g = (.error e, g') ↔
      (evaluate scope tree).run g = (.error e, g') ∨
        ∃ v g₁, (evaluate scope tree).run g = (.ok v, g₁) ∧
          (evaluateAll scope trees).run g₁ = (.error e, g') := by
  rw [evaluateAll]
  simp only [run_bind_eq_error_iff]
  refine or_congr_right ⟨?_, ?_⟩
  · rintro ⟨v, g₁, hv, h | ⟨_, _, -, h⟩⟩
    · exact ⟨v, g₁, hv, h⟩
    · cases h
  · rintro ⟨v, g₁, hv, h⟩
    exact ⟨v, g₁, hv, .inl h⟩

/-- Trees, evaluated from left to right, fail with the error of the `FirstFailure`. -/
theorem evaluateAll_eq_error_iff {trees : List ExpressionTree} {e : EvaluationError} :
    (evaluateAll scope trees).run g = (.error e, g') ↔ FirstFailure scope trees g e g' := by
  induction trees generalizing g with
  | nil =>
    constructor
    · exact nofun
    · rintro ⟨before, _, _, _, _, h, -⟩
      exact absurd h (by simp)
  | cons tree trees ih =>
    simp only [run_evaluateAll_cons_eq_error_iff, ih]
    constructor
    · rintro (h | ⟨v, g₁, hv, before, child, after, vs, g₂, rfl, hvs, h⟩)
      · exact ⟨[], tree, trees, [], g, rfl, rfl, h⟩
      · exact ⟨tree :: before, child, after, v :: vs, g₂, rfl,
          run_evaluateAll_cons_iff.2 ⟨v, g₁, hv, vs, hvs, rfl⟩, h⟩
    · rintro ⟨_ | ⟨tree', before⟩, child, after, vs, g₂, heq, hvs, h⟩
      · cases hvs
        obtain ⟨rfl, rfl⟩ := List.cons.inj heq
        exact .inl h
      · obtain ⟨rfl, rfl⟩ := List.cons.inj heq
        obtain ⟨v, g₁, hv, ws, hws, rfl⟩ := run_evaluateAll_cons_iff.1 hvs
        exact .inr ⟨v, g₁, hv, before, child, after, ws, g₂, rfl, hws, h⟩

/-- An operator fails with the error of the `FirstFailure` among its operands. -/
theorem evaluate_operator_eq_error {id : NodeId} {op : Operator} {children : List ExpressionTree}
    (harity : op.signature.arity.accepts children.length) {e : EvaluationError}
    (h : FirstFailure scope children g e g') :
    (evaluate scope (.node id (.operator op) children)).run g = (.error e, g') := by
  rw [← ends_error_iff, ends_evaluate_operator harity]
  have hchildren := ends_error_iff.2 (evaluateAll_eq_error_iff.2 h)
  exact hchildren.mono (fun _ _ ↦ False.elim) fun _ _ he ↦ he

/-! ### NULL -/

/-- The value of `tree` is NULL, if evaluation comes to it and it has one. -/
def NullAfter (scope : Scope) (before : List ExpressionTree) (g : Generator)
    (tree : ExpressionTree) : Prop :=
  ∀ vs g₁ v g₂, (evaluateAll scope before).run g = (.ok vs, g₁) →
    (evaluate scope tree).run g₁ = (.ok v, g₂) → v.isNull

/-- An operator that `Propagates`, with an operand that is NULL, is NULL where all operands have
values, and fails where they fail. -/
theorem ends_frame {f : Frame} (hf : f.Propagates) {tree : ExpressionTree}
    (hnull : NullAfter scope f.left g tree) {Q : Generator → Prop}
    {E : EvaluationError → Generator → Prop} :
    Ends (evaluate scope (f.fill tree)) g (fun v g₁ ↦ v.isNull ∧ Q g₁) E ↔
      Ends (evaluateAll scope (f.left ++ tree :: f.right)) g (fun _ ↦ Q) E := by
  have harity : f.operator.signature.arity.accepts (f.left ++ tree :: f.right).length := by
    rw [List.length_append, List.length_cons]
    exact hf.2
  rw [Frame.fill, ends_evaluate_operator harity]
  simp only [ends_evaluateAll_append, ends_evaluateAll_cons]
  refine ends_congr fun vs g₁ hvs ↦ ends_congr fun v g₂ hv ↦ ends_congr fun ws g₃ _ ↦ ?_
  rw [applyOperator_eq_null hf.1 (List.mem_append_right vs List.mem_cons_self)
    (hnull vs g₁ v g₂ hvs hv), ends_pure]
  exact and_iff_right rfl

/-- A tree that is NULL makes all operators of the `chain` above it NULL, where what hangs off them
has values; and they fail where that fails. -/
theorem ends_fillAll {chain : List Frame} (hchain : ∀ f ∈ chain, f.Propagates)
    {tree : ExpressionTree} (hnull : NullAfter scope (leftOf chain) g tree) {Q : Generator → Prop}
    {E : EvaluationError → Generator → Prop} :
    Ends (evaluate scope (Frame.fillAll chain tree)) g (fun v g₁ ↦ v.isNull ∧ Q g₁) E ↔
      Ends (evaluateAll scope (around chain tree)) g (fun _ ↦ Q) E := by
  induction chain generalizing g Q E with
  | nil =>
    rw [around, leftOf, rightOf]
    simp only [List.flatMap_nil, List.nil_append, List.reverse_nil, ends_evaluateAll_cons]
    exact ends_congr fun v g₁ hv ↦ and_iff_right (hnull [] g v g₁ rfl hv)
  | cons f chain ih =>
    obtain ⟨hf, hchain⟩ := List.forall_mem_cons.1 hchain
    -- To the right of what stands to the left of the chain below, the tree is NULL.
    have hbelow {vs : List Value} {g₁ : Generator}
        (hvs : (evaluateAll scope f.left).run g = (.ok vs, g₁)) :
        NullAfter scope (leftOf chain) g₁ tree := fun ws g₂ v g₃ hws hv ↦
      hnull (vs ++ ws) g₂ v g₃ (run_evaluateAll_append_iff.2 ⟨vs, g₁, hvs, ws, hws, rfl⟩) hv
    have hinner : NullAfter scope f.left g (Frame.fillAll chain tree) := fun vs g₁ v g₂ hvs hv ↦
      (((ih hchain (hbelow hvs) (Q := fun _ ↦ True) (E := fun _ _ ↦ True)).2
        (ends_any _ g₁)).of_run_eq_ok hv).1
    rw [around_cons, ends_evaluateAll_append]
    change Ends (evaluate scope (f.fill (Frame.fillAll chain tree))) g _ E ↔ _
    rw [ends_frame hf hinner, ends_evaluateAll_append]
    refine ends_congr fun vs g₁ hvs ↦ ?_
    rw [ends_evaluateAll_cons, ends_evaluateAll_append, ← ih hchain (hbelow hvs)]
    exact ends_congr fun v g₂ hv ↦ (and_iff_right (hinner vs g₁ v g₂ hvs hv)).symm

end Order

/-- What becomes of NULL and of errors on the way to the root of a `chain`. -/
structure NullLaws (scope : Scope) : Prop where
  /-- A tree that is NULL makes the whole expression NULL, whatever the values to its left and right
  are. -/
  exists_null : ∀ {chain : List Frame} {tree : ExpressionTree} {g g₁ g₂ g' : Generator}
    {ls rs : List Value} {v : Value}, (∀ f ∈ chain, f.Propagates) →
    (evaluateAll scope (leftOf chain)).run g = (.ok ls, g₁) →
    (evaluate scope tree).run g₁ = (.ok v, g₂) → v.isNull →
    (evaluateAll scope (rightOf chain)).run g₂ = (.ok rs, g') →
    ∃ w, (evaluate scope (Frame.fillAll chain tree)).run g = (.ok w, g') ∧ w.isNull
  /-- The whole expression fails exactly where something hangs off the chain that fails, with the
  error of the `FirstFailure`. -/
  eq_error_iff : ∀ {chain : List Frame} {tree : ExpressionTree} {g g' : Generator}
    {e : EvaluationError}, (∀ f ∈ chain, f.Propagates) → NullAfter scope (leftOf chain) g tree →
    ((evaluate scope (Frame.fillAll chain tree)).run g = (.error e, g') ↔
      FirstFailure scope (around chain tree) g e g')
  /-- An operator of any sort fails with the error of its leftmost operand that fails. -/
  operator_eq_error : ∀ {id : NodeId} {op : Operator} {children : List ExpressionTree}
    {g g' : Generator} {e : EvaluationError}, op.signature.arity.accepts children.length →
    FirstFailure scope children g e g' →
    (evaluate scope (.node id (.operator op) children)).run g = (.error e, g')

theorem nullLaws (scope : Scope) : NullLaws scope where
  exists_null {chain tree g g₁ g₂ g' ls rs v} hchain hls hv hnull hrs := by
    have hnullAfter : NullAfter scope (leftOf chain) g tree := by
      intro ls' g₁' v' g₂' hls' hv'
      cases hls.symm.trans hls'
      cases hv.symm.trans hv'
      exact hnull
    have haround : (evaluateAll scope (around chain tree)).run g = (.ok (ls ++ v :: rs), g') :=
      run_evaluateAll_append_iff.2
        ⟨ls, g₁, hls, v :: rs, run_evaluateAll_cons_iff.2 ⟨v, g₂, hv, rs, hrs, rfl⟩, rfl⟩
    have hroot := (ends_fillAll hchain hnullAfter (Q := (· = g')) (E := fun _ _ ↦ False)).2
      ((ends_eq_iff.2 haround).mono (fun _ _ h ↦ h.2) fun _ _ h ↦ h)
    obtain ⟨w, _, hw, hwnull, rfl⟩ := hroot.exists_run_eq_ok
    exact ⟨w, hw, hwnull⟩
  eq_error_iff {chain tree g g' e} hchain hnull := by
    rw [← evaluateAll_eq_error_iff, ← ends_error_iff, ← ends_error_iff,
      ← ends_fillAll hchain hnull]
    simp only [and_false]
  operator_eq_error harity h := evaluate_operator_eq_error harity h

/-- The operator `.sum`, with `.not` as its second operand. -/
def negationChain (left right : ExpressionTree) : List Frame :=
  [⟨4, .sum, [left], [right]⟩, ⟨2, .not, [], []⟩]

theorem propagates_negationChain {left right : ExpressionTree} :
    ∀ f ∈ negationChain left right, f.Propagates := by
  intro f hf
  rcases List.mem_pair.1 hf with rfl | rfl <;> exact ⟨rfl, rfl⟩

/-- NULL wins over operands of the wrong type, and what is unknown wins over NULL. -/
theorem nullLaws_negations :
    let null : ExpressionTree := .node 1 (.leaf .null) []
    let text : ExpressionTree := .node 0 (.leaf (.baseValue (.string "a"))) []
    let point : ExpressionTree := .node 3 (.leaf (.baseValue (.point 1 1))) []
    let unknown : ExpressionTree := .node 3 (.leaf (.valueOf "A")) []
    (∃ w, (evaluate emptyScope (Frame.fillAll (negationChain text point) null)).run (.ofSeed 0) =
      (.ok w, .ofSeed 0) ∧ w.isNull) ∧
    (evaluate emptyScope (Frame.fillAll (negationChain text unknown) null)).run (.ofSeed 0) =
      (.error ⟨emptyScope.site 3 (.leaf (.valueOf "A")), .unknownVariable "A"⟩, .ofSeed 0) ∧
    (evaluate emptyScope (.node 2 (.operator .and) [null, unknown])).run (.ofSeed 0) =
      (.error ⟨emptyScope.site 3 (.leaf (.valueOf "A")), .unknownVariable "A"⟩, .ofSeed 0) := by
  intro null text point unknown
  have hnull : NullAfter emptyScope [text] (.ofSeed 0) null := by
    intro vs g₁ v g₂ _ hv
    cases hv
    rfl
  have htext : (evaluateAll emptyScope [text]).run (.ofSeed 0) =
      (.ok [.single (.string "a")], .ofSeed 0) := rfl
  have hpoint : (evaluateAll emptyScope [point]).run (.ofSeed 0) =
      (.ok [.single (.point 1 1)], .ofSeed 0) := rfl
  refine ⟨?_, ?_, ?_⟩
  · exact (nullLaws emptyScope).exists_null propagates_negationChain htext rfl rfl hpoint
  · exact ((nullLaws emptyScope).eq_error_iff propagates_negationChain hnull).2
      ⟨[text, null], unknown, [], [.single (.string "a"), .null], _, rfl, rfl, rfl⟩
  · exact (nullLaws emptyScope).operator_eq_error rfl
      ⟨[null], unknown, [], [.null], _, rfl, rfl, rfl⟩

end Evaluation

end AssessmentItem
