import AssessmentItem.Proofs.Computation
import AssessmentItem.Evaluation.Basic

/-!
# Operands that a signature admits

A signature admits an operand if the operand is NULL or its cardinality and, unless it is a record,
its base type are among those of the signature.  The check of operands passes exactly if all of them
are admitted, and an operator that draws nothing is then what combines them.  An expression with
such an operator has that value whatever its children are, as long as they have these operands as
their values.

## Main definitions

* `Signature.Admits` : the operands that pass the check of a signature.
* `Evaluation.Yields` : the value that an operator gives for values of its operands.

## Main results

* `Evaluation.checkOperands_eq_ok_iff` : what the check of operands finds out.
* `Evaluation.applyOperator_eq_settled` : an operator on operands that are admitted.
* `Evaluation.yields_of_combine`, `Evaluation.yields_null` : the value that it gives for them.
-/

namespace AssessmentItem

/-- The `signature` admits `.null` and the values of its cardinalities and base types. -/
def Signature.Admits (signature : Signature) (v : Value) : Prop :=
  ∀ k, v.cardinality? = some k →
    k ∈ signature.cardinalities ∧ ∀ t, v.baseType? = some t → signature.baseTypes.accepts t

theorem Signature.admits_single {signature : Signature} {s : Scalar}
    (hk : .single ∈ signature.cardinalities) (ht : signature.baseTypes.accepts s.baseType) :
    signature.Admits (.single s) := by
  rintro _ ⟨⟩
  refine ⟨hk, ?_⟩
  rintro _ ⟨⟩
  exact ht

/-- A scope whose store has no slots. -/
def emptyScope : Evaluation.Scope := ⟨⟨"", "", false, [], ⟨.empty, .empty⟩, [], []⟩, ⟨[]⟩⟩

namespace Evaluation

theorem checkOperand_eq_ok_iff {signature : Signature} {i : Nat} {v : Value} :
    checkOperand signature i v = .ok () ↔ signature.Admits v := by
  unfold checkOperand Signature.Admits
  split
  · simp_all
  · rename_i k hk
    simp only [hk, Option.some.injEq, forall_eq']
    split
    · simp_all
    · split <;> simp_all

theorem checkOperands_eq_ok_iff {signature : Signature} {vs : List Value} {i : Nat} :
    checkOperands signature i vs = .ok () ↔ ∀ v ∈ vs, signature.Admits v := by
  induction vs generalizing i with
  | nil => simp [checkOperands]
  | cons v vs ih =>
    rw [checkOperands, List.forall_mem_cons, ← ih (i := i + 1),
      ← checkOperand_eq_ok_iff (i := i) (v := v)]
    cases checkOperand signature i v with
    | error => exact ⟨nofun, nofun⟩
    | ok => exact (and_iff_right rfl).symm

theorem operatorValue_eq_settled [PatternLibrary] (store : Store) {op : Operator}
    (hop : op ≠ .random) (vs : List Value) :
    operatorValue store op vs = settled (combine store op vs) := by
  unfold operatorValue
  split
  · exact absurd rfl hop
  · rfl

/-- Operands that are not NULL, where NULL propagates, and that the signature admits are combined by
`combine`. -/
theorem applyOperator_eq_settled [PatternLibrary] {store : Store} {op : Operator}
    {vs : List Value} (hop : op ≠ .random)
    (hnull : op.signature.nullPropagates → ∀ v ∈ vs, v.isNull = false)
    (hadmits : ∀ v ∈ vs, op.signature.Admits v) :
    applyOperator store op vs = settled (combine store op vs) := by
  rw [applyOperator, if_neg, checkOperands_eq_ok_iff.2 hadmits]
  · exact operatorValue_eq_settled store hop vs
  · intro h
    obtain ⟨hprop, hany⟩ := Bool.and_eq_true_iff.1 h
    obtain ⟨v, hv, hvnull⟩ := List.any_eq_true.1 hany
    rw [hnull hprop v hv] at hvnull
    exact Bool.false_ne_true hvnull

/-! ### Values of expressions -/

theorem length_of_evaluateAll {scope : Scope} : {children : List ExpressionTree} →
    {g g' : Generator} → {vs : List Value} →
    (evaluateAll scope children).run g = (.ok vs, g') → vs.length = children.length
  | [], _, _, _, h => by
      cases h
      rfl
  | child :: children, g, g', vs, h => by
      rw [evaluateAll] at h
      obtain ⟨v, g₁, -, h⟩ := run_bind_eq_ok_iff.1 h
      obtain ⟨ws, g₂, hrest, h⟩ := run_bind_eq_ok_iff.1 h
      cases h
      rw [List.length_cons, List.length_cons, length_of_evaluateAll hrest]

section Runs

variable {scope : Scope} {es fs : List ExpressionTree} {g g' : Generator} {vs : List Value}

theorem run_evaluateAll_cons_iff {e : ExpressionTree} :
    (evaluateAll scope (e :: es)).run g = (.ok vs, g') ↔
      ∃ x g₁, (evaluate scope e).run g = (.ok x, g₁) ∧
        ∃ xs, (evaluateAll scope es).run g₁ = (.ok xs, g') ∧ vs = x :: xs := by
  rw [evaluateAll]
  simp only [run_bind_eq_ok_iff]
  constructor
  · rintro ⟨x, g₁, he, xs, _, hes, h⟩
    cases h
    exact ⟨x, g₁, he, xs, hes, rfl⟩
  · rintro ⟨x, g₁, he, xs, hes, rfl⟩
    exact ⟨x, g₁, he, xs, g', hes, rfl⟩

theorem run_evaluateAll_append_iff :
    (evaluateAll scope (es ++ fs)).run g = (.ok vs, g') ↔
      ∃ xs g₁, (evaluateAll scope es).run g = (.ok xs, g₁) ∧
        ∃ ys, (evaluateAll scope fs).run g₁ = (.ok ys, g') ∧ vs = xs ++ ys := by
  induction es generalizing g vs with
  | nil =>
    constructor
    · intro h
      exact ⟨[], g, rfl, vs, h, rfl⟩
    · rintro ⟨xs, g₁, h, ys, hfs, rfl⟩
      cases h
      exact hfs
  | cons e es ih =>
    simp only [List.cons_append, run_evaluateAll_cons_iff, ih]
    constructor
    · rintro ⟨x, g₁, he, _, ⟨xs, g₂, hes, ys, hfs, rfl⟩, rfl⟩
      exact ⟨x :: xs, g₂, ⟨x, g₁, he, xs, hes, rfl⟩, ys, hfs, rfl⟩
    · rintro ⟨_, g₂, ⟨x, g₁, he, xs, hes, rfl⟩, ys, hfs, rfl⟩
      exact ⟨x, g₁, he, xs ++ ys, ⟨xs, g₂, hes, ys, hfs, rfl⟩, rfl⟩

end Runs

/-- The operator `op` gives `v` for values `vs` of its operands: an expression with the operator has
that value whenever its children have those, and it draws nothing beyond what they draw. -/
def Yields (store : Store) (op : Operator) (vs : List Value) (v : Value) : Prop :=
  ∀ (scope : Scope) (id : NodeId) (children : List ExpressionTree) (g g' : Generator),
    scope.store = store → (evaluateAll scope children).run g = (.ok vs, g') →
      (evaluate scope (.node id (.operator op) children)).run g = (.ok v, g')

theorem run_evaluateAll_singles (scope : Scope) (g : Generator) : (ss : List Scalar) →
    (evaluateAll scope (ss.map fun s ↦ .node 0 (.leaf (.baseValue s)) [])).run g =
      (.ok (ss.map Value.single), g)
  | [] => rfl
  | s :: ss => by
      rw [List.map_cons, evaluateAll]
      change (evaluateAll scope _ >>= _).run g = _
      rw [run_bind_of_run_eq_ok (run_evaluateAll_singles scope g ss)]
      rfl

/-- There are expressions with any single values `ss`, so an operator gives one value for them. -/
theorem Yields.unique {store : Store} {op : Operator} (ss : List Scalar) {v w : Value}
    (hv : Yields store op (ss.map Value.single) v) (hw : Yields store op (ss.map Value.single) w) :
    v = w := by
  have hchildren := run_evaluateAll_singles ⟨emptyScope.item, store⟩ (.ofSeed 0) ss
  have heq := (hv _ 0 _ _ _ rfl hchildren).symm.trans (hw _ 0 _ _ _ rfl hchildren)
  cases heq
  rfl

/-- An operator for which `applyOperator` comes to a value without a draw gives that value. -/
theorem yields_of_applyOperator {store : Store} {op : Operator} {vs : List Value} {v : Value}
    (harity : op.signature.arity.accepts vs.length) (h : applyOperator store op vs = return v) :
    Yields store op vs v := by
  rintro scope id children g g' rfl hchildren
  have hcount : checkArity op children.length = .ok () := by
    rw [checkArity, ← length_of_evaluateAll hchildren, if_pos harity]
  rw [evaluate, hcount]
  change (evaluateAll scope children >>= _).run g = _
  rw [run_bind_of_run_eq_ok hchildren, h]
  rfl

/-- An operator that draws nothing gives what `combine` makes of operands that it takes. -/
theorem yields_of_combine {store : Store} {op : Operator} {vs : List Value} {v : Value}
    (hop : op ≠ .random) (harity : op.signature.arity.accepts vs.length)
    (hnull : op.signature.nullPropagates → ∀ v ∈ vs, v.isNull = false)
    (hadmits : ∀ v ∈ vs, op.signature.Admits v) (h : combine store op vs = .ok v) :
    Yields store op vs v := by
  refine yields_of_applyOperator harity ?_
  rw [applyOperator_eq_settled hop hnull hadmits, h]
  rfl

/-- Where NULL propagates an operand `v` that is NULL makes the result NULL. -/
theorem applyOperator_eq_null {store : Store} {op : Operator} {vs : List Value} {v : Value}
    (hprop : op.signature.nullPropagates) (hv : v ∈ vs) (hnull : v.isNull) :
    applyOperator store op vs = return .null := by
  rw [applyOperator, if_pos (Bool.and_eq_true_iff.2 ⟨hprop, List.any_eq_true.2 ⟨v, hv, hnull⟩⟩)]

theorem yields_null {store : Store} {op : Operator} {vs : List Value} {v : Value}
    (harity : op.signature.arity.accepts vs.length) (hprop : op.signature.nullPropagates)
    (hv : v ∈ vs) (hnull : v.isNull) : Yields store op vs .null :=
  yields_of_applyOperator harity (applyOperator_eq_null hprop hv hnull)

end Evaluation

end AssessmentItem
