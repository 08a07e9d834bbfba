import AssessmentItem.Proofs.References.Rules

/-!
# What expressions read and draw

A node reads the variable that it names itself and those that its literal operands name, and no
others.  So an expression is evaluated alike on two stores that hold the same of every variable that
it names, down to the error where there is one and to the state in which the generator is left.
Three nodes draw; an expression without one of them comes to the same from every state of the
generator, and leaves it as it is.

## Main definitions

* `ExpressionKind.names`, `ExpressionKind.Draws` : what a node reads, and whether it draws.
* `ExpressionTree.HasNode` : some node of an expression has a property.
* `Store.AgreeOn` : two stores hold the same of the variables of a list.
* `Evaluation.Still` : a computation takes no draws.

## Main results

* `Evaluation.leafValue_congr`, `Evaluation.operatorValue_congr` : what a node comes to on stores
  that agree on its names.
* `Evaluation.still_leafValue`, `Evaluation.still_operatorValue` : the nodes that take no draws.
* `Evaluation.evaluate_eq_of_agree` : the same of whole expressions.
-/

namespace AssessmentItem

/-! ### Names and draws -/

/-- The names that a node reads: the one that is its `reference?` if it is a leaf, and those of the
variables that hold literal operands. -/
def ExpressionKind.names : ExpressionKind → List String
  | leaf l => (l.reference?.map Prod.fst).toList ++ l.namedVariables
  | operator op => op.namedVariables

/-- The nodes that draw from the generator: `.randomInteger`, `.randomFloat` and `.random`. -/
def ExpressionKind.Draws : ExpressionKind → Prop
  | leaf (.randomInteger ..) | leaf (.randomFloat ..) | operator .random => True
  | _ => False

/-- Some node of an expression has the property `p`. -/
inductive ExpressionTree.HasNode (p : ExpressionKind → Prop) : ExpressionTree → Prop
  | here {id : NodeId} {kind : ExpressionKind} {children : List ExpressionTree} (h : p kind) :
      HasNode p (.node id kind children)
  | inside {id : NodeId} {kind : ExpressionKind} {child : ExpressionTree}
      {children : List ExpressionTree} (mem : child ∈ children) (h : child.HasNode p) :
      HasNode p (.node id kind children)

namespace Store

variable {store store' : Store}

/-- Two stores have the same `slot?` for every variable among `names`. -/
def AgreeOn (store store' : Store) (names : List String) : Prop :=
  ∀ name ∈ names, store'.slot? name = store.slot? name

theorem AgreeOn.of_subset {names names' : List String} (h : store.AgreeOn store' names)
    (hsub : names' ⊆ names) : store.AgreeOn store' names' :=
  fun name hname ↦ h name (hsub hname)

theorem AgreeOn.value?_eq {names : List String} (h : store.AgreeOn store' names) {name : String}
    (hname : name ∈ names) : store'.value? name = store.value? name := by
  rw [value?, value?, h name hname]

/-- In stores of the same `declarations` a variable of which every part is `held?` alike has the
same slot. -/
theorem slot?_eq_of_held?_eq (hdecl : store'.declarations = store.declarations) {name : String}
    (h : ∀ part, store'.held? part name = store.held? part name) :
    store'.slot? name = store.slot? name := by
  have hsame := declaration?_congr hdecl name
  have hvalue := h .value
  have hdefault := h .default
  have hcorrect := h .correct
  simp only [declaration?, held?] at hsame hvalue hdefault hcorrect
  cases hslot : store.slot? name with
  | none =>
    rw [hslot, Option.map_none, Option.map_eq_none_iff] at hsame
    exact hsame
  | some slot =>
    rw [hslot] at hsame hvalue hdefault hcorrect
    obtain ⟨slot', hslot', hdeclaration⟩ := Option.map_eq_some_iff.1 hsame
    rw [hslot'] at hvalue hdefault hcorrect ⊢
    obtain ⟨d, v, default, correct⟩ := slot
    obtain ⟨d', v', default', correct'⟩ := slot'
    obtain rfl : d' = d := hdeclaration
    obtain rfl : v' = v := Option.some.inj hvalue
    obtain rfl : default' = default := hdefault
    obtain rfl : correct' = correct := hcorrect
    rfl

end Store

namespace Evaluation

/-! ### Nodes on stores that agree -/

section Agree

variable {store store' : Store}

theorem literalInteger_congr {n : Literal Int64} (h : store.AgreeOn store' n.variable?.toList) :
    literalInteger store' n = literalInteger store n := by
  cases n with
  | given n => rfl
  | named name =>
    rw [literalInteger, literalInteger, h.value?_eq (List.mem_singleton_self name)]

theorem literalNumber_congr {x : Literal Float} (h : store.AgreeOn store' x.variable?.toList) :
    literalNumber store' x = literalNumber store x := by
  cases x with
  | given x => rfl
  | named name =>
    rw [literalNumber, literalNumber, h.value?_eq (List.mem_singleton_self name)]

theorem literalInteger_congr_of_mem {n : Literal Int64} {l : List (Literal Int64)} (hn : n ∈ l)
    (h : store.AgreeOn store' (l.filterMap Literal.variable?)) :
    literalInteger store' n = literalInteger store n :=
  literalInteger_congr (h.of_subset (variable?_toList_subset hn))

theorem literalNumber_congr_of_mem {x : Literal Float} {l : List (Literal Float)} (hx : x ∈ l)
    (h : store.AgreeOn store' (l.filterMap Literal.variable?)) :
    literalNumber store' x = literalNumber store x :=
  literalNumber_congr (h.of_subset (variable?_toList_subset hx))

/-- A leaf comes to the same on stores that `AgreeOn` its names. -/
theorem leafValue_congr {leaf : Leaf} (h : store.AgreeOn store' (ExpressionKind.leaf leaf).names) :
    leafValue store' leaf = leafValue store leaf := by
  -- a leaf that itself names a variable reads nothing but its slot
  have slot {identifier : String} {kinds : List VariableKind}
      (href : leaf.reference? = some (identifier, kinds)) :
      store'.slot? identifier = store.slot? identifier := by
    refine h identifier ?_
    rw [ExpressionKind.names, href]
    exact List.mem_append_left _ List.mem_cons_self
  have literals : store.AgreeOn store' leaf.namedVariables :=
    h.of_subset (List.subset_append_right _ _)
  cases leaf with
  | baseValue s => rfl
  | null => rfl
  | mathConstant constant => rfl
  | valueOf identifier => rw [leafValue, leafValue, Store.value?, Store.value?, slot rfl]
  | defaultOf identifier => rw [leafValue, leafValue, Store.default?, Store.default?, slot rfl]
  | correctOf identifier =>
    rw [leafValue, leafValue, correctValue, correctValue, Store.declaration?, Store.declaration?,
      Store.correct?, Store.correct?, slot rfl]
  | mapResponse identifier => rw [leafValue, leafValue, mappedResponse, mappedResponse, slot rfl]
  | mapResponsePoint identifier => rw [leafValue, leafValue, mappedPoints, mappedPoints, slot rfl]
  | randomInteger min max step =>
    rw [leafValue, leafValue, randomInteger, randomInteger,
      literalInteger_congr_of_mem (n := min) (by simp) literals,
      literalInteger_congr_of_mem (n := max) (by simp) literals,
      literalInteger_congr_of_mem (n := step) (by simp) literals]
  | randomFloat min max =>
    rw [leafValue, leafValue, randomFloat, randomFloat,
      literalNumber_congr_of_mem (x := min) (by simp) literals,
      literalNumber_congr_of_mem (x := max) (by simp) literals]

theorem equalNumbers_congr {tolerances : List (Literal Float)}
    (h : store.AgreeOn store' (tolerances.filterMap Literal.variable?)) (mode : ToleranceMode)
    (includesLower includesUpper : Bool) (a b : Value) :
    equalNumbers store' mode tolerances includesLower includesUpper a b =
      equalNumbers store mode tolerances includesLower includesUpper a b := by
  unfold equalNumbers
  cases tolerances with
  | nil => rfl
  | cons first rest =>
    have hfirst := literalNumber_congr_of_mem List.mem_cons_self h
    cases rest with
    | nil => simp only [hfirst]
    | cons second rest =>
      have hsecond := literalNumber_congr_of_mem (List.mem_cons_of_mem _ List.mem_cons_self) h
      simp only [hfirst, hsecond]

/-- An operator comes to the same on stores that `AgreeOn` the names of its literal operands. -/
theorem combine_congr {op : Operator} (h : store.AgreeOn store' op.namedVariables)
    (vs : List Value) : combine store' op vs = combine store op vs := by
  unfold combine
  -- only the operators with literal operands look at the store
  split <;> try rfl
  case h_3 => rw [literalInteger_congr h]
  case h_7 => rw [literalInteger_congr h]
  case h_15 least most =>
    rw [literalInteger_congr_of_mem (n := least) (by simp) h,
      literalInteger_congr_of_mem (n := most) (by simp) h]
  case h_20 => exact equalNumbers_congr h _ _ _ _ _
  case h_21 => rw [literalInteger_congr h]
  case h_39 => rw [literalInteger_congr h]

theorem operatorValue_congr {op : Operator} (h : store.AgreeOn store' op.namedVariables)
    (vs : List Value) : operatorValue store' op vs = operatorValue store op vs := by
  unfold operatorValue
  split
  · rfl
  · rw [combine_congr h]

end Agree

/-! ### Computations that take no draws -/

/-- The computation `m` comes to one result, whatever the state of the generator, and leaves that
state as it is. -/
def Still {ε α : Type} (m : Drawing ε α) : Prop := ∃ r, ∀ g, m.run g = (r, g)

section Still

variable {ε α β : Type}

theorem still_settled (r : Except ε α) : Still (settled r) := ⟨r, fun _ ↦ rfl⟩

theorem still_pure (a : α) : Still (pure a : Drawing ε α) := ⟨.ok a, fun _ ↦ rfl⟩

theorem still_throw (e : ε) : Still (throw e : Drawing ε α) := ⟨.error e, fun _ ↦ rfl⟩

theorem still_bind {m : Drawing ε α} {f : α → Drawing ε β} (hm : Still m)
    (hf : ∀ a, Still (f a)) : Still (m >>= f) := by
  obtain ⟨r, hr⟩ := hm
  cases r with
  | error e => exact ⟨.error e, fun g ↦ by rw [run_bind, hr]⟩
  | ok a =>
    obtain ⟨r, hfr⟩ := hf a
    exact ⟨r, fun g ↦ by rw [run_bind_of_run_eq_ok (hr g), hfr]⟩

theorem still_within (scope : Scope) (id : NodeId) (kind : ExpressionKind) {d : Drawing Fault α}
    (hd : Still d) : Still (scope.within id kind d) := by
  obtain ⟨r, hr⟩ := hd
  refine ⟨r.mapError fun fault ↦ ⟨scope.site id kind, fault⟩, fun g ↦ ?_⟩
  change ((d.run g).1.mapError _, (d.run g).2) = _
  rw [hr]

theorem still_leafValue (store : Store) {leaf : Leaf} (h : ¬(ExpressionKind.leaf leaf).Draws) :
    Still (leafValue store leaf) := by
  cases leaf with
  | randomInteger min max step => exact absurd trivial h
  | randomFloat min max => exact absurd trivial h
  | baseValue | null | mathConstant => exact still_pure _
  | _ => exact still_settled _

theorem still_operatorValue (store : Store) {op : Operator}
    (h : ¬(ExpressionKind.operator op).Draws) (vs : List Value) :
    Still (operatorValue store op vs) := by
  unfold operatorValue
  split
  · exact absurd trivial h
  · exact still_settled _

theorem still_applyOperator (store : Store) {op : Operator}
    (h : ¬(ExpressionKind.operator op).Draws) (vs : List Value) :
    Still (applyOperator store op vs) := by
  unfold applyOperator
  split
  · exact still_pure _
  · exact still_bind (still_settled _) fun _ ↦ still_operatorValue store h vs

end Still

/-! ### Expressions -/

section Expressions

variable {item : Item} {store store' : Store}

mutual

theorem evaluate_congr : (tree : ExpressionTree) →
    (∀ name, tree.HasNode (name ∈ ·.names) → store'.slot? name = store.slot? name) →
    evaluate ⟨item, store'⟩ tree = evaluate ⟨item, store⟩ tree
  | .missing _, _ => rfl
  | .node id (.leaf leaf) _, h => by
      rw [evaluate, evaluate, leafValue_congr fun name hname ↦ h name (.here hname)]
      rfl
  | .node id (.operator op) children, h => by
      have hop : store.AgreeOn store' op.namedVariables := fun name hname ↦ h name (.here hname)
      have hchildren := evaluateAll_congr children fun child hchild name hname ↦
        h name (.inside hchild hname)
      rw [evaluate, evaluate, hchildren]
      simp only [applyOperator, operatorValue_congr hop]
      rfl

theorem evaluateAll_congr : (trees : List ExpressionTree) →
    (∀ tree ∈ trees, ∀ name, tree.HasNode (name ∈ ·.names) →
      store'.slot? name = store.slot? name) →
    evaluateAll ⟨item, store'⟩ trees = evaluateAll ⟨item, store⟩ trees
  | [], _ => rfl
  | tree :: trees, h => by
      obtain ⟨hhead, htail⟩ := List.forall_mem_cons.1 h
      rw [evaluateAll, evaluateAll, evaluate_congr tree hhead, evaluateAll_congr trees htail]

end

mutual

theorem still_evaluate (scope : Scope) : (tree : ExpressionTree) →
    ¬tree.HasNode ExpressionKind.Draws → Still (evaluate scope tree)
  | .missing _, _ => still_throw _
  | .node id (.leaf leaf) _, h => by
      rw [evaluate]
      exact still_within scope id _ (still_leafValue _ fun hdraws ↦ h (.here hdraws))
  | .node id (.operator op) children, h => by
      rw [evaluate]
      refine still_bind (still_within scope id _ (still_settled _)) fun _ ↦ ?_
      refine still_bind (still_evaluateAll scope children fun child hchild hdraws ↦
        h (.inside hchild hdraws)) fun vs ↦ ?_
      exact still_within scope id _ (still_applyOperator _ (fun hdraws ↦ h (.here hdraws)) vs)

theorem still_evaluateAll (scope : Scope) : (trees : List ExpressionTree) →
    (∀ tree ∈ trees, ¬tree.HasNode ExpressionKind.Draws) → Still (evaluateAll scope trees)
  | [], _ => still_pure _
  | tree :: trees, h => by
      obtain ⟨hhead, htail⟩ := List.forall_mem_cons.1 h
      rw [evaluateAll]
      refine still_bind (still_evaluate scope tree hhead) fun v ↦ ?_
      exact still_bind (still_evaluateAll scope trees htail) fun vs ↦ still_pure _

end

/-- On two stores of an item that hold the same value, the same default override and the same
correct override of every variable named in an expression, `evaluate` comes to the same value or the
same error and leaves the generator in the same state. An expression without a node that `Draws`
comes to the same from every state of the generator, and leaves it as it is. -/
theorem evaluate_eq_of_agree (declared : store.declarations = item.declarations)
    (declared' : store'.declarations = item.declarations) {tree : ExpressionTree}
    (agree : ∀ name, tree.HasNode (name ∈ ·.names) →
      ∀ part, store'.held? part name = store.held? part name) :
    (∀ g, (evaluate ⟨item, store'⟩ tree).run g = (evaluate ⟨item, store⟩ tree).run g) ∧
      (¬tree.HasNode ExpressionKind.Draws →
        ∃ r, ∀ g, (evaluate ⟨item, store⟩ tree).run g = (r, g)) := by
  refine ⟨fun g ↦ ?_, still_evaluate ⟨item, store⟩ tree⟩
  have hdecl : store'.declarations = store.declarations := declared'.trans declared.symm
  rw [evaluate_congr tree fun name hname ↦ Store.slot?_eq_of_held?_eq hdecl (agree name hname)]

/-- A store of `countingItem`, after three attempts and with a `score`. -/
def scoredStore (score : Int64) : Store :=
  ((Store.ofItem countingItem).put .value "numAttempts" (.integer 3)).put .value "SCORE"
    (.integer score)

/-- The sum of `numAttempts` and a random number up to it. -/
def rolledAttempts : ExpressionTree :=
  .node 2 (.operator .sum)
    [.node 0 (.leaf (.valueOf "numAttempts")) [],
      .node 1 (.leaf (.randomInteger (.given 1) (.named "numAttempts") (.given 1))) []]

/-- The only variable named in `rolledAttempts` is `numAttempts`. -/
theorem eq_of_hasNode_rolledAttempts {name : String}
    (h : rolledAttempts.HasNode (name ∈ ·.names)) : name = "numAttempts" := by
  cases h with
  | here h => exact absurd h (List.not_mem_nil)
  | inside mem h =>
    rcases List.mem_pair.1 mem with rfl | rfl
    · cases h with
      | here h => exact List.mem_singleton.1 h
      | inside mem => cases mem
    · cases h with
      | here h => exact List.mem_singleton.1 h
      | inside mem => cases mem

theorem evaluate_rolledAttempts :
    (((scoredStore 9).value? "SCORE").bind Value.single?).bind Scalar.integer? = some 9 ∧
      (((scoredStore 0).value? "SCORE").bind Value.single?).bind Scalar.integer? = some 0 ∧
      (evaluate ⟨countingItem, scoredStore 9⟩ rolledAttempts).run (.ofSeed 0) =
        (evaluate ⟨countingItem, scoredStore 0⟩ rolledAttempts).run (.ofSeed 0) ∧
      ((evaluate ⟨countingItem, scoredStore 0⟩ rolledAttempts).run (.ofSeed 0)).2 ≠ .ofSeed 0 ∧
      ∃ r, ∀ g, (evaluate ⟨countingItem, scoredStore 0⟩
        (.node 0 (.leaf (.valueOf "numAttempts")) [])).run g = (r, g) := by
  have declared (score : Int64) : (scoredStore score).declarations = countingItem.declarations := by
    simp [scoredStore]
  have agree : ∀ name, rolledAttempts.HasNode (name ∈ ·.names) →
      ∀ part, (scoredStore 9).held? part name = (scoredStore 0).held? part name := by
    intro name hname part
    obtain rfl := eq_of_hasNode_rolledAttempts hname
    have hne : "numAttempts" ≠ "SCORE" := by decide
    have hslot (score : Int64) := Store.slot?_put_of_ne hne
      ((Store.ofItem countingItem).put .value "numAttempts" (.integer 3)) .value (.integer score)
    rw [Store.held?, Store.held?, scoredStore, scoredStore, hslot, hslot]
  refine ⟨by decide +kernel, by decide +kernel, ?_, by decide +kernel, ?_⟩
  · exact (evaluate_eq_of_agree (declared 0) (declared 9) agree).1 _
  · refine (evaluate_eq_of_agree (declared 0) (declared 0) fun _ _ _ ↦ rfl).2 ?_
    rintro (h | ⟨mem, h⟩)
    · exact h
    · cases mem

end Expressions

end Evaluation

end AssessmentItem
