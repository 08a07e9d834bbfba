import AssessmentItem.Proofs.Evaluation.Documents
import AssessmentItem.Proofs.Evaluation.Readings

/-!
# Operators as they are applied

An operator is applied to the values of its operands once these are counted, evaluated and checked,
and where none of them settles the result by being NULL.  For a store of the declared types the
operands then have the form in which the operator reads them, so that no operator of an expression
ever finds an operand unreadable, and neither does the expression.

## Main definitions

* `Evaluation.Applies` : the applications of operators while an expression is evaluated.

## Main results

* `Evaluation.ends_evaluate_legible` : an expression does not fail for an unreadable operand.
* `Evaluation.passes_of_applies` : the operands of operators that are applied.
* `Evaluation.reads_of_evaluate` : the same for the items that are read.
-/

namespace AssessmentItem

/-! ### Draws -/

namespace Generator

/-- A word is below `2 ^ 64`, so its share of `n` is below `n`. -/
theorem share_lt {n : Nat} (h : 0 < n) (word : UInt64) :
    word.toNat * n / 18446744073709551616 < n :=
  Nat.div_lt_of_lt_mul (Nat.mul_lt_mul_of_pos_right word.toNat_lt h)

theorem belowWith_lt {n : Nat} (h : 0 < n) (g : Generator) :
    (fuel : Nat) → (belowWith n g fuel).1 < n
  | 0 => share_lt h _
  | fuel + 1 => by
      rw [belowWith]
      dsimp only
      split
      · exact share_lt h _
      · exact belowWith_lt h _ fuel

theorem below_lt {n : Nat} (h : 0 < n) (g : Generator) : (g.below n).1 < n :=
  belowWith_lt h g rounds

end Generator

namespace Evaluation

/-! ### Leaves -/

section Leaves

variable {store : Store}

theorem reads_known {α : Type} (identifier : String) (o : Option α) :
    Reads (known identifier o) := by
  cases o with
  | none => trivial
  | some a => trivial

theorem reads_correctValue (identifier : String) : Reads (correctValue store identifier) := by
  refine (reads_known identifier _).bind fun d ↦ ?_
  split
  · trivial
  · trivial

theorem reads_scoreResponse (mapping : Mapping) (v : Value) : Reads (scoreResponse mapping v) := by
  cases v with
  | record fields => trivial
  | _ => trivial

theorem reads_mappedResponse (identifier : String) : Reads (mappedResponse store identifier) := by
  refine (reads_known identifier _).bind fun slot ↦ ?_
  split
  · exact reads_scoreResponse _ _
  · trivial

theorem reads_readPoints (identifier : String) (v : Value) : Reads (readPoints identifier v) := by
  refine reads_mapM fun s _ ↦ ?_
  split
  · trivial
  · trivial

theorem reads_scorePoints (mapping : AreaMapping) (identifier : String) (v : Value) :
    Reads (scorePoints mapping identifier v) := by
  rw [scorePoints]
  split
  · trivial
  · split
    · trivial
    · exact (reads_readPoints identifier v).bind fun _ ↦ trivial

theorem reads_mappedPoints (identifier : String) : Reads (mappedPoints store identifier) := by
  refine (reads_known identifier _).bind fun slot ↦ ?_
  split
  · exact reads_scorePoints _ _ _
  · trivial

theorem reads_rangeSteps (min max step : Int64) : Reads (rangeSteps min max step) := by
  unfold rangeSteps
  by_cases hstep : step < 1
  · rw [if_pos hstep]
    trivial
  · rw [if_neg hstep]
    by_cases hmax : max < min
    · rw [if_pos hmax]
      trivial
    · rw [if_neg hmax]
      cases Integer.sub? max min with
      | none => trivial
      | some span => trivial

/-- The run of `leafValue` has no operand that could be unreadable. -/
theorem ends_leafValue_legible (leaf : Leaf) (g : Generator) :
    Ends (leafValue store leaf) g (fun _ _ ↦ True) fun fault _ ↦ Legible fault := by
  cases leaf with
  | baseValue | null | mathConstant => trivial
  | valueOf identifier | defaultOf identifier => exact (ends_settled _).2 (reads_known identifier _)
  | correctOf identifier => exact (ends_settled _).2 (reads_correctValue identifier)
  | mapResponse identifier => exact (ends_settled _).2 (reads_mappedResponse identifier)
  | mapResponsePoint identifier => exact (ends_settled _).2 (reads_mappedPoints identifier)
  | randomInteger min max step =>
    simp only [leafValue, randomInteger, ends_bind, ends_settled, ends_drawBelow, ends_pure]
    refine (reads_literalInteger store min).of_forall fun low ↦ ?_
    refine (reads_literalInteger store max).of_forall fun high ↦ ?_
    refine (reads_literalInteger store step).of_forall fun width ↦ ?_
    exact reads_rangeSteps low high width
  | randomFloat min max =>
    simp only [leafValue, randomFloat, ends_bind, ends_settled]
    refine (reads_literalNumber store min).of_forall fun low ↦ ?_
    refine (reads_literalNumber store max).of_forall fun high ↦ ?_
    split
    · trivial
    · split
      · trivial
      · exact (ends_bind _ _).2 (ends_drawBetween low high (fun _ _ ↦ trivial) trivial)

end Leaves

/-! ### Operators -/

/-- The run of `randomMember` has a member to draw, and its number is below theirs. -/
theorem ends_randomMember_of_hasMembers {types : BaseTypes} {v : Value} (hv : v.HasMembers types)
    (g : Generator) :
    Ends (randomMember v) g (fun _ _ ↦ True) fun fault _ ↦ Legible fault := by
  simp only [randomMember, ends_bind, ends_settled, ends_drawBelow, hv.1, gives_ok]
  have hlt := Generator.below_lt (List.length_pos_iff.2 hv.2.1) g
  rw [List.getElem?_eq_getElem hlt]
  trivial

theorem ends_operatorValue_of_passes (store : Store) {op : Operator} {vs : List Value}
    (harity : op.signature.arity.accepts vs.length) (hpass : ∀ v ∈ vs, op.signature.Passes v)
    (g : Generator) :
    Ends (operatorValue store op vs) g (fun _ _ ↦ True) fun fault _ ↦ Legible fault := by
  by_cases hop : op = .random
  · subst hop
    obtain ⟨v, rfl, hv⟩ := exists_operand hpass harity
    exact ends_randomMember_of_hasMembers (hv.hasMembers rfl rfl) g
  · rw [operatorValue_eq_settled store hop, ends_settled]
    exact reads_combine store hop harity hpass

/-- What `checkOperands` lets through is what the operator reads. -/
theorem passes_of_checkOperands {signature : Signature} {vs : List Value}
    (hwell : ∀ v ∈ vs, v.WellFormed)
    (hnull : (signature.nullPropagates && vs.any Value.isNull) = false)
    (hcheck : checkOperands signature 0 vs = .ok ()) : ∀ v ∈ vs, signature.Passes v := by
  intro v hv
  refine ⟨hwell v hv, checkOperands_eq_ok_iff.1 hcheck v hv, fun hstrict ↦ ?_⟩
  rw [hstrict, Bool.true_and, List.any_eq_false] at hnull
  exact Bool.eq_false_iff.2 (hnull v hv)

theorem reads_checkOperands (signature : Signature) : (vs : List Value) → (i : Nat) →
    Reads (checkOperands signature i vs)
  | [], _ => trivial
  | v :: vs, i => by
      rw [checkOperands]
      refine Reads.bind ?_ fun _ ↦ reads_checkOperands signature vs (i + 1)
      unfold checkOperand
      split
      · trivial
      · split
        · trivial
        · split
          · trivial
          · split
            · trivial
            · trivial

theorem ends_applyOperator_legible (store : Store) {op : Operator} {vs : List Value}
    (harity : op.signature.arity.accepts vs.length) (hwell : ∀ v ∈ vs, v.WellFormed)
    (g : Generator) :
    Ends (applyOperator store op vs) g (fun _ _ ↦ True) fun fault _ ↦ Legible fault := by
  unfold applyOperator
  split
  · trivial
  · rename_i hnull
    rw [ends_bind, ends_settled]
    refine gives_of_forall_eq (fun _ hcheck ↦ ?_) fun e he ↦
      (reads_checkOperands _ vs 0).of_eq_error he
    exact ends_operatorValue_of_passes store harity
      (passes_of_checkOperands hwell (Bool.eq_false_iff.2 hnull) hcheck) g

/-! ### Expressions -/

section Expressions

variable {scope : Scope}

mutual

/-- For a store that is `WellTyped` an expression does not fail for an unreadable operand. -/
theorem ends_evaluate_legible (h : scope.store.WellTyped) : (tree : ExpressionTree) →
    (g : Generator) →
    Ends (evaluate scope tree) g (fun v _ ↦ v.WellFormed) fun e _ ↦ Legible e.fault
  | .missing _, _ => trivial
  | .node id (.leaf leaf) _, g => by
      rw [evaluate, ends_within]
      exact ((ends_leafValue h leaf g).and (ends_leafValue_legible leaf g)).mono
        (fun _ _ h ↦ h.1.wellFormed) fun _ _ h ↦ h.2
  | .node id (.operator op) children, g => by
      simp only [evaluate, ends_bind, ends_within, ends_settled]
      unfold checkArity
      split
      · rename_i harity
        refine (ends_evaluateAll_legible h children g).mono (fun vs g' hvs ↦ ?_) fun _ _ h ↦ h
        rw [← hvs.1] at harity
        exact ((ends_applyOperator scope.store op vs g').and
          (ends_applyOperator_legible scope.store harity hvs.2 g')).mono
          (fun _ _ h ↦ h.1.wellFormed) fun _ _ h ↦ h.2
      · trivial

theorem ends_evaluateAll_legible (h : scope.store.WellTyped) : (trees : List ExpressionTree) →
    (g : Generator) →
    Ends (evaluateAll scope trees) g
      (fun vs _ ↦ vs.length = trees.length ∧ ∀ v ∈ vs, v.WellFormed) fun e _ ↦ Legible e.fault
  | [], _ => ⟨rfl, nofun⟩
  | tree :: trees, g => by
      simp only [evaluateAll, ends_bind, ends_pure]
      refine (ends_evaluate_legible h tree g).mono (fun v g' hv ↦ ?_) fun _ _ h ↦ h
      exact (ends_evaluateAll_legible h trees g').mono
        (fun vs _ hvs ↦ ⟨congrArg (· + 1) hvs.1, List.forall_mem_cons.2 ⟨hv, hvs.2⟩⟩)
        fun _ _ h ↦ h

end

/-- While `evaluate` runs from one state of the generator, an operator is applied to operands from
another: the operator at the top once its operands have values and are checked, or one below a child
once the siblings in front of the child have values. -/
inductive Applies (scope : Scope) :
    ExpressionTree → Generator → Operator → List Value → Generator → Prop
  | top {id op children g vs g'} (harity : op.signature.arity.accepts children.length)
      (hoperands : (evaluateAll scope children).run g = (.ok vs, g'))
      (hnull : (op.signature.nullPropagates && vs.any Value.isNull) = false)
      (hcheck : checkOperands op.signature 0 vs = .ok ()) :
      Applies scope (.node id (.operator op) children) g op vs g'
  | child {id op before child after g values g₁ op' vs g'}
      (harity : op.signature.arity.accepts (before ++ child :: after).length)
      (hbefore : (evaluateAll scope before).run g = (.ok values, g₁))
      (h : Applies scope child g₁ op' vs g') :
      Applies scope (.node id (.operator op) (before ++ child :: after)) g op' vs g'

/-- The operands of an operator that `Applies` are as many as its signature says, and they pass. -/
theorem passes_of_applies (hstore : scope.store.WellTyped) {tree : ExpressionTree}
    {g g' : Generator} {op : Operator} {vs : List Value} (h : Applies scope tree g op vs g') :
    op.signature.arity.accepts vs.length ∧ ∀ v ∈ vs, op.signature.Passes v := by
  induction h with
  | top harity hoperands hnull hcheck =>
    have hvs := (ends_evaluateAll_legible hstore _ _).of_run_eq_ok hoperands
    exact ⟨hvs.1 ▸ harity, passes_of_checkOperands hvs.2 hnull hcheck⟩
  | child _ _ _ ih => exact ih

end Expressions

/-- For an item that is read from a document and a store of its variables in which every slot is
well typed, no expression fails with `Fault.unreadable`.  Every operator that is applied on the way
has as many operands as its `Signature` says, all of them pass `checkOperands`, and none is
unreadable to it. -/
theorem reads_of_evaluate {document : ItemDocument} {item : Item}
    (read : document.item = .ok item) {store : Store}
    (declared : store.declarations = item.declarations)
    (typed : ∀ slot ∈ store.slots, slot.WellTyped) (tree : ExpressionTree) (g : Generator) :
    (∀ e g', (evaluate ⟨item, store⟩ tree).run g = (.error e, g') → e.fault ≠ .unreadable) ∧
      ∀ op vs g', Applies ⟨item, store⟩ tree g op vs g' →
        op.signature.arity.accepts vs.length ∧ (∀ v ∈ vs, op.signature.Passes v) ∧
          ∀ fault g'', (operatorValue store op vs).run g' = (.error fault, g'') →
            fault ≠ .unreadable := by
  have hstore : store.WellTyped := by
    constructor
    · rw [declared]
      exact (wellTyped_of_item read).1
    · exact typed
  constructor
  · intro e g' he
    have hends := @ends_evaluate_legible ⟨item, store⟩ hstore tree g
    rw [Ends, he] at hends
    exact hends.ne
  · intro op vs g' happlies
    obtain ⟨harity, hpass⟩ := @passes_of_applies ⟨item, store⟩ hstore _ _ _ _ _ happlies
    refine ⟨harity, hpass, fun fault g'' hfault ↦ ?_⟩
    have hends := ends_operatorValue_of_passes store harity hpass g'
    rw [Ends, hfault] at hends
    exact hends.ne

/-- The random one of the correct identifiers of `RESPONSE`. -/
def drawnChoice : ExpressionTree :=
  .node 1 (.operator .random) [.node 0 (.leaf (.correctOf "RESPONSE")) []]

theorem reads_drawnChoice :
    ∃ v g, Applies ⟨Session.choiceItem, .ofItem Session.choiceItem⟩ drawnChoice (.ofSeed 0) .random
        [v] g ∧ Operator.random.signature.Passes v := by
  have hitem := (wellTyped_of_item Session.choiceDocument_item).1
  have happlies : Applies ⟨Session.choiceItem, .ofItem Session.choiceItem⟩ drawnChoice (.ofSeed 0)
      .random
      [.multiple ⟨.identifier, [.identifier "A", .identifier "B"], by simp [Scalar.baseType]⟩]
      (.ofSeed 0) := .top rfl rfl rfl rfl
  obtain ⟨-, hpass, -⟩ := (reads_of_evaluate Session.choiceDocument_item
    (Store.declarations_ofItem _) (Store.wellTyped_ofItem hitem).slots drawnChoice
    (.ofSeed 0)).2 _ _ _ happlies
  exact ⟨_, _, happlies, hpass _ (.head _)⟩

end Evaluation

end AssessmentItem
