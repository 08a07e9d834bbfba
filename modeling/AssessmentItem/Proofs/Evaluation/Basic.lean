import AssessmentItem.Proofs.Evaluation.Operators

/-!
# What expressions give

For a store of the declared types every expression gives a value of the type that it promises, or an
error.  Only the node at the top decides on that: an operator gives such a value whatever its
operands are, and its type follows from theirs.

## Main definitions

* `Promises`, `PromisesAll` : what expressions promise of their values.

## Main results

* `ends_operatorValue`, `ends_applyOperator` : the values and the faults of all operators.
* `ends_evaluate_operator` : an operator is evaluated after its operands.
* `ends_evaluate` : expressions keep their promises.
-/

namespace AssessmentItem.Evaluation

/-! ### Draws -/

section Draws

variable {ε α : Type} {g : Generator} {Q : α → Generator → Prop}

@[simp] theorem ends_settled {E : ε → Generator → Prop} (r : Except ε α) :
    Ends (settled r) g Q E ↔ Gives r (fun a ↦ Q a g) fun e ↦ E e g :=
  ends_mk_pure r

@[simp] theorem ends_within {E : EvaluationError → Generator → Prop} (scope : Scope) (id : NodeId)
    (kind : ExpressionKind) (d : Drawing Fault α) :
    Ends (scope.within id kind d) g Q E ↔
      Ends d g Q fun fault g' ↦ E ⟨scope.site id kind, fault⟩ g' :=
  ends_adapt _ d

@[simp] theorem ends_drawBelow {Q : Nat → Generator → Prop} {E : Fault → Generator → Prop}
    (n : Nat) : Ends (drawBelow n) g Q E ↔ Q (g.below n).1 (g.below n).2 :=
  ends_modifyGet _

/-- Whatever `drawBetween` draws of a range, the only fault is that its width overflows. -/
theorem ends_drawBetween {Q : Float → Generator → Prop} {E : Fault → Generator → Prop}
    (min max : Float) (hQ : ∀ x g', Q x g') (hE : E .rangeOverflow g) :
    Ends (drawBetween min max) g Q E := by
  simp only [drawBetween, ends_bind, ends_get]
  split
  · exact hQ _ _
  · exact hE

end Draws

/-! ### Leaves -/

theorem gives_known {α : Type} (identifier : String) (o : Option α) {Q : α → Prop}
    (hQ : ∀ a, o = some a → Q a) : Gives (known identifier o) Q fun _ ↦ o = none := by
  cases o with
  | none => rfl
  | some a => exact hQ a rfl

theorem gives_rangeSteps (min max step : Int64) {Q : Nat → Prop} (hQ : ∀ n, Q n) :
    Gives (rangeSteps min max step) Q Inward := by
  unfold rangeSteps
  by_cases hstep : step < 1
  · rw [if_pos hstep]
    exact fun h ↦ h
  · rw [if_neg hstep]
    by_cases hmax : max < min
    · rw [if_pos hmax]
      exact fun h ↦ h
    · rw [if_neg hmax]
      cases Integer.sub? max min with
      | none => exact fun h ↦ h
      | some span => exact hQ _

/-- The run of `randomInteger` can blame its literal operands alone. -/
theorem ends_randomInteger (store : Store) (min max step : Literal Int64) (g : Generator) :
    Ends (randomInteger store min max step) g (fun v _ ↦ v.HasType (.scalar .integer)) fun fault _ ↦
      Blames store (Leaf.randomInteger min max step).namedVariables fault := by
  simp only [randomInteger, ends_bind, ends_settled, ends_drawBelow, ends_pure]
  refine gives_literalInteger_of_mem store (by simp) fun low ↦ ?_
  refine gives_literalInteger_of_mem store (by simp) fun high ↦ ?_
  refine gives_literalInteger_of_mem store (by simp) fun width ↦ ?_
  exact gives_blames _ _ (gives_rangeSteps low high width fun steps ↦ Value.hasType_integer _)

/-- The run of `randomFloat` can blame its literal operands alone. -/
theorem ends_randomFloat (store : Store) (min max : Literal Float) (g : Generator) :
    Ends (randomFloat store min max) g (fun v _ ↦ v.HasType (.scalar .float)) fun fault _ ↦
      Blames store (Leaf.randomFloat min max).namedVariables fault := by
  simp only [randomFloat, ends_bind, ends_settled]
  refine gives_literalNumber_of_mem store (by simp) fun low ↦ ?_
  refine gives_literalNumber_of_mem store (by simp) fun high ↦ ?_
  split
  · exact fun h ↦ h.elim
  · split
    · exact Value.hasType_float _
    · exact (ends_bind _ _).2 (ends_drawBetween low high (fun x _ ↦ Value.hasType_float x)
        fun h ↦ h.elim)

/-- The values that the store `Admits` for a variable are those that a leaf promises that reads
it. -/
theorem fits_of_admits {store : Store} {identifier : String} {v : Value}
    (h : store.Admits identifier v) :
    v.Fits ((findDeclaration? store.declarations identifier).map (·.type)) := by
  obtain ⟨d, hd, hadmits⟩ := h
  rw [← Store.declaration?_eq, hd]
  exact hadmits

theorem gives_correctValue (h : store.WellTyped) (identifier : String) :
    Gives (correctValue store identifier) (store.Admits identifier) fun _ ↦ True := by
  rw [correctValue, gives_bind]
  refine (gives_known identifier _ fun d hd ↦ ?_).mono (fun _ h ↦ h) fun _ _ ↦ trivial
  split
  · trivial
  · cases hv : store.correct? identifier with
    | none => exact ⟨d, hd, d.admits_null⟩
    | some v => exact h.correct? hv

theorem gives_mappedResponse (store : Store) (identifier : String) :
    Gives (mappedResponse store identifier) (·.HasType (.scalar .float)) fun fault ↦
      store.slot? identifier = none ∨ Inward fault := by
  rw [mappedResponse, gives_bind]
  refine (gives_known identifier _ fun slot _ ↦ ?_).mono (fun _ h ↦ h) fun _ h ↦ .inl h
  split
  · exact (gives_scoreResponse _ _).mono (fun _ h ↦ h) fun _ h ↦ .inr h
  · exact .inr fun h ↦ h

theorem gives_mappedPoints (store : Store) (identifier : String) :
    Gives (mappedPoints store identifier) (·.HasType (.scalar .float)) fun fault ↦
      store.slot? identifier = none ∨ Inward fault := by
  rw [mappedPoints, gives_bind]
  refine (gives_known identifier _ fun slot _ ↦ ?_).mono (fun _ h ↦ h) fun _ h ↦ .inl h
  split
  · exact (gives_scorePoints _ _ _).mono (fun _ h ↦ h) fun _ h ↦ .inr h
  · exact .inr fun h ↦ h

/-- The value of a leaf is of the type `resultType?` that the leaf promises. -/
theorem ends_leafValue {store : Store} (h : store.WellTyped) (leaf : Leaf) (g : Generator) :
    Ends (leafValue store leaf) g (fun v _ ↦ v.Fits (leaf.resultType? store.declarations))
      fun _ _ ↦ True := by
  cases leaf with
  | baseValue s => exact Value.hasType_single s
  | null => rfl
  | mathConstant constant => exact Value.hasType_float _
  | valueOf identifier =>
    rw [leafValue, ends_settled]
    exact (gives_known identifier _ fun v hv ↦ fits_of_admits (h.value? hv)).mono (fun _ h ↦ h)
      fun _ _ ↦ trivial
  | defaultOf identifier =>
    rw [leafValue, ends_settled]
    exact (gives_known identifier _ fun v hv ↦ fits_of_admits (h.default? hv)).mono (fun _ h ↦ h)
      fun _ _ ↦ trivial
  | correctOf identifier =>
    rw [leafValue, ends_settled]
    exact (gives_correctValue h identifier).mono (fun _ h ↦ fits_of_admits h) fun _ _ ↦ trivial
  | mapResponse identifier =>
    rw [leafValue, ends_settled]
    exact (gives_mappedResponse store identifier).mono (fun _ h ↦ h) fun _ _ ↦ trivial
  | mapResponsePoint identifier =>
    rw [leafValue, ends_settled]
    exact (gives_mappedPoints store identifier).mono (fun _ h ↦ h) fun _ _ ↦ trivial
  | randomInteger min max step =>
    exact (ends_randomInteger store min max step g).mono (fun _ _ h ↦ h) fun _ _ _ ↦ trivial
  | randomFloat min max =>
    exact (ends_randomFloat store min max g).mono (fun _ _ h ↦ h) fun _ _ _ ↦ trivial

/-! ### Operators -/

theorem ends_randomMember (v : Value) (g : Generator) :
    Ends (randomMember v) g (fun w _ ↦ w.HasType ⟨.single, v.baseType?⟩) fun fault _ ↦
      Inward fault := by
  simp only [randomMember, ends_bind, ends_settled, ends_drawBelow]
  refine gives_readMembers v fun htype ↦ ?_
  split
  · rename_i s hs
    exact hasType_singleOrNull (s := some s) fun a ha ↦
      htype a (List.mem_of_getElem? (hs.trans ha))
  · exact fun h ↦ h

theorem gives_checkOperands (signature : Signature) : (vs : List Value) → (i : Nat) →
    Gives (checkOperands signature i vs) (fun _ ↦ True) Inward
  | [], _ => trivial
  | v :: vs, i => by
      rw [checkOperands, gives_bind]
      refine Gives.of_forall ?_ fun _ ↦ gives_checkOperands signature vs (i + 1)
      unfold checkOperand
      split
      · trivial
      · split
        · exact fun h ↦ h
        · split
          · trivial
          · split
            · trivial
            · exact fun h ↦ h

/-- The value of an operator is of the type `resultType` that the operator promises for its
operands, and the blame lies with its literal operands. -/
theorem ends_operatorValue (store : Store) (op : Operator) (vs : List Value) (g : Generator) :
    Ends (operatorValue store op vs) g (fun v _ ↦ v.HasType (op.resultType vs)) fun fault _ ↦
      Blames store op.namedVariables fault := by
  unfold operatorValue
  split
  · exact (ends_randomMember _ g).mono (fun _ _ h ↦ h) fun _ _ h ↦ h.blames store _
  · rw [ends_settled]
    exact gives_combine store op vs

theorem ends_applyOperator (store : Store) (op : Operator) (vs : List Value) (g : Generator) :
    Ends (applyOperator store op vs) g (fun v _ ↦ v.HasType (op.resultType vs)) fun fault _ ↦
      Blames store op.namedVariables fault := by
  unfold applyOperator
  split
  · exact Value.hasType_null _
  · rw [ends_bind, ends_settled]
    exact gives_blames _ _ ((gives_checkOperands _ vs 0).of_forall fun _ ↦
      ends_operatorValue store op vs g)

/-! ### Expressions -/

section Steps

variable {scope : Scope} {g : Generator}

/-- The run of `evaluate` on an operator that may have so many operands evaluates these before
anything else. -/
theorem ends_evaluate_operator {id : NodeId} {op : Operator} {children : List ExpressionTree}
    (harity : op.signature.arity.accepts children.length) {Q : Value → Generator → Prop}
    {E : EvaluationError → Generator → Prop} :
    Ends (evaluate scope (.node id (.operator op) children)) g Q E ↔
      Ends (evaluateAll scope children) g
        (fun vs g₁ ↦ Ends (applyOperator scope.store op vs) g₁ Q
          fun fault g₂ ↦ E ⟨scope.site id (.operator op), fault⟩ g₂) E := by
  rw [evaluate, checkArity, if_pos harity]
  simp only [ends_bind, ends_within, ends_settled, gives_ok]

theorem ends_evaluateAll_cons {Q : List Value → Generator → Prop}
    {E : EvaluationError → Generator → Prop} (e : ExpressionTree) (es : List ExpressionTree) :
    Ends (evaluateAll scope (e :: es)) g Q E ↔
      Ends (evaluate scope e) g
        (fun v g₁ ↦ Ends (evaluateAll scope es) g₁ (fun vs ↦ Q (v :: vs)) E) E := by
  simp only [evaluateAll, ends_bind, ends_pure]

end Steps

mutual

/-- The value is of the type that an expression promises, as `resultType` gives it, and so are the
values of its operands, which are evaluated from a state of the generator. -/
def Promises (scope : Scope) : ExpressionTree → Generator → Value → Prop
  | .missing _, _, _ => False
  | .node _ (.leaf leaf) _, _, v => v.Fits (leaf.resultType? scope.store.declarations)
  | .node _ (.operator op) children, g, v =>
    ∃ vs, PromisesAll scope children g vs ∧ v.HasType (op.resultType vs)

/-- The values of expressions, evaluated from left to right, are of the types that these promise, as
`Promises` says. -/
def PromisesAll (scope : Scope) : List ExpressionTree → Generator → List Value → Prop
  | [], _, vs => vs = []
  | e :: es, g, vs => ∃ v vs' g', vs = v :: vs' ∧ (evaluate scope e).run g = (.ok v, g') ∧
      Promises scope e g v ∧ PromisesAll scope es g' vs'

end

section Promises

variable {scope : Scope}

theorem Promises.wellFormed {tree : ExpressionTree} {g : Generator} {v : Value}
    (h : Promises scope tree g v) : v.WellFormed := by
  cases tree with
  | missing id => exact h.elim
  | node id kind children =>
    cases kind with
    | leaf leaf => exact Value.Fits.wellFormed h
    | operator op =>
      obtain ⟨vs, -, hv⟩ := h
      exact hv.wellFormed

theorem PromisesAll.wellFormed : {es : List ExpressionTree} → {g : Generator} →
    {vs : List Value} → PromisesAll scope es g vs → ∀ v ∈ vs, v.WellFormed
  | [], _, _, h => h ▸ nofun
  | _ :: _, _, _, h => by
      obtain ⟨v, vs, _, rfl, -, hv, hvs⟩ := h
      exact List.forall_mem_cons.2 ⟨hv.wellFormed, hvs.wellFormed⟩

mutual

/-- For a store that is `WellTyped` the value of an expression is of the type that it `Promises`. -/
theorem ends_evaluate (h : scope.store.WellTyped) : (tree : ExpressionTree) → (g : Generator) →
    Ends (evaluate scope tree) g (fun v _ ↦ Promises scope tree g v) fun _ _ ↦ True
  | .missing _, _ => trivial
  | .node id (.leaf leaf) _, g => by
      rw [evaluate, ends_within]
      exact ends_leafValue h leaf g
  | .node id (.operator op) children, g => by
      simp only [evaluate, ends_bind, ends_within, ends_settled]
      refine (gives_any _).of_forall fun _ ↦ ?_
      refine (ends_evaluateAll h children g).mono (fun vs g' hvs ↦ ?_) fun _ _ _ ↦ trivial
      exact (ends_applyOperator scope.store op vs g').mono (fun v _ hv ↦ ⟨vs, hvs, hv⟩)
        fun _ _ _ ↦ trivial

theorem ends_evaluateAll (h : scope.store.WellTyped) :
    (trees : List ExpressionTree) → (g : Generator) →
    Ends (evaluateAll scope trees) g (fun vs _ ↦ PromisesAll scope trees g vs) fun _ _ ↦ True
  | [], _ => rfl
  | tree :: trees, g => by
      simp only [evaluateAll, ends_bind, ends_pure]
      refine (ends_evaluate h tree g).with_run.mono (fun v g' hv ↦ ?_) fun _ _ _ ↦ trivial
      exact (ends_evaluateAll h trees g').mono (fun vs _ hvs ↦ ⟨v, vs, g', rfl, hv.1, hv.2, hvs⟩)
        fun _ _ _ ↦ trivial

end

end Promises

end AssessmentItem.Evaluation
