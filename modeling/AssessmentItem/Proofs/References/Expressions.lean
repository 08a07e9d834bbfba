import AssessmentItem.Item.References
import AssessmentItem.Proofs.Evaluation.Basic

/-!
# References of expressions

The check of an expression visits its nodes and the names in them; the evaluation visits them too,
and reads what is named.  An expression that passes the check has all its nodes, and every name in
it is that of a variable of the right kind.  So its evaluation never fails because something is not
there, whatever the store holds of the variables.

## Main definitions

* `Item.Declares` : an item declares a name as one of some kinds.
* `Item.Resolves` : the names in a node are declared as they should be.
* `ExpressionTree.Resolved` : an expression has all its nodes, and each of them resolves.

## Main results

* `resolved_of_checkExpression` : what the check of an expression says.
* `ends_evaluate_inward` : the errors of an expression whose names resolve.
-/

namespace AssessmentItem

/-! ### Names -/

/-- The item declares `identifier` as a variable of one of the `kinds`. -/
def Item.Declares (item : Item) (identifier : String) (kinds : List VariableKind) : Prop :=
  ∃ d, item.declaration? identifier = some d ∧ d.kind ∈ kinds

/-- The variable that a leaf itself names, with the kinds of which it may be. -/
def Leaf.reference? : Leaf → Option (String × List VariableKind)
  | valueOf identifier | defaultOf identifier => some (identifier, VariableKind.all)
  | correctOf identifier | mapResponse identifier | mapResponsePoint identifier =>
    some (identifier, [.response])
  | _ => none

/-- The names in a node are declared as they should be: those of its literal operands as `.template`
variables, and the one that a leaf itself names as one of the kinds of which it may be. -/
structure Item.Resolves (item : Item) (kind : ExpressionKind) : Prop where
  named : ∀ name ∈ kind.namedVariables, item.Declares name [.template]
  leaf : ∀ leaf identifier kinds, kind = .leaf leaf →
    leaf.reference? = some (identifier, kinds) → item.Declares identifier kinds

/-- An expression has all its nodes, and the item `Resolves` each of them. -/
inductive ExpressionTree.Resolved (item : Item) : ExpressionTree → Prop
  | node {id : NodeId} {kind : ExpressionKind} {children : List ExpressionTree}
      (here : item.Resolves kind) (below : ∀ child ∈ children, child.Resolved item) :
      ExpressionTree.Resolved item (.node id kind children)

/-! ### What the check says -/

section Check

variable {item : Item} {context identifier : String} {kinds : List VariableKind}

theorem checkName_eq_ok_iff :
    item.checkName context identifier kinds = .ok () ↔ item.Declares identifier kinds := by
  unfold Item.checkName Item.Declares
  cases item.declaration? identifier with
  | none => simp
  | some d =>
    by_cases hd : d.kind ∈ kinds
    · simp [hd]
    · simp [hd]

theorem declares_of_forM {names : List String}
    (h : (names.forM fun name ↦ item.checkName context name kinds) = .ok ()) :
    ∀ name ∈ names, item.Declares name kinds := by
  induction names with
  | nil => simp
  | cons name names ih =>
    obtain ⟨_, hname, hnames⟩ := bind_eq_ok_iff.1 h
    exact List.forall_mem_cons.2 ⟨checkName_eq_ok_iff.1 hname, ih hnames⟩

theorem declares_of_checkKind {leaf : Leaf} {children : Nat}
    (h : item.checkKind context (.leaf leaf) children = .ok ())
    (href : leaf.reference? = some (identifier, kinds)) : item.Declares identifier kinds := by
  cases leaf <;> cases href <;> exact checkName_eq_ok_iff.1 h

end Check

mutual

/-- An expression that passes `checkExpression` has all its nodes, and each of them resolves. -/
theorem resolved_of_checkExpression {item : Item} {rule : String} : (tree : ExpressionTree) →
    item.checkExpression rule tree = .ok () → tree.Resolved item
  | .missing id, h => by
      rw [Item.checkExpression] at h
      cases h
  | .node id kind children, h => by
      rw [Item.checkExpression] at h
      obtain ⟨_, hkind, h⟩ := bind_eq_ok_iff.1 h
      obtain ⟨_, hnamed, hbelow⟩ := bind_eq_ok_iff.1 h
      refine .node ⟨declares_of_forM hnamed, ?_⟩ (resolved_of_checkExpressions children hbelow)
      rintro leaf identifier kinds rfl href
      exact declares_of_checkKind hkind href

theorem resolved_of_checkExpressions {item : Item} {rule : String} :
    (trees : List ExpressionTree) → item.checkExpressions rule trees = .ok () →
    ∀ tree ∈ trees, tree.Resolved item
  | [], _ => by simp
  | tree :: trees, h => by
      rw [Item.checkExpressions] at h
      obtain ⟨_, hhead, htail⟩ := bind_eq_ok_iff.1 h
      exact List.forall_mem_cons.2 ⟨resolved_of_checkExpression tree hhead,
        resolved_of_checkExpressions trees htail⟩

end

/-! ### What the evaluation finds -/

section Evaluate

open Evaluation

variable {item : Item} {store : Store}

/-- A store of an item has a slot for every name that the item `Declares`. -/
theorem exists_slot?_of_declares (hstore : store.declarations = item.declarations)
    {identifier : String} {kinds : List VariableKind} (h : item.Declares identifier kinds) :
    ∃ slot, store.slot? identifier = some slot ∧ slot.declaration.kind ∈ kinds := by
  obtain ⟨d, hd, hkind⟩ := h
  rw [Item.declaration?, ← hstore, ← Store.declaration?_eq] at hd
  obtain ⟨slot, hslot, rfl⟩ := Option.map_eq_some_iff.1 hd
  exact ⟨slot, hslot, hkind⟩

theorem inward_of_blames (hstore : store.declarations = item.declarations) {names : List String}
    {kinds : List VariableKind} (hnames : ∀ name ∈ names, item.Declares name kinds)
    {fault : Fault} (h : Blames store names fault) : Inward fault := by
  intro hr
  obtain ⟨name, hname, hnone⟩ := h hr
  obtain ⟨slot, hslot, _⟩ := exists_slot?_of_declares hstore (hnames name hname)
  rw [Store.value?, hslot] at hnone
  cases hnone

/-- The run of `leafValue` finds what a leaf names whose names resolve. -/
theorem ends_leafValue_inward (hstore : store.declarations = item.declarations) {leaf : Leaf}
    (h : item.Resolves (.leaf leaf)) (g : Generator) :
    Ends (leafValue store leaf) g (fun _ _ ↦ True) fun fault _ ↦ Inward fault := by
  have slot {identifier : String} {kinds : List VariableKind}
      (href : leaf.reference? = some (identifier, kinds)) :=
    exists_slot?_of_declares hstore (h.leaf leaf identifier kinds rfl href)
  cases leaf with
  | baseValue s => trivial
  | null => trivial
  | mathConstant constant => trivial
  | valueOf identifier =>
    obtain ⟨s, hs, _⟩ := slot rfl
    rw [leafValue, Store.value?, hs]
    trivial
  | defaultOf identifier =>
    obtain ⟨s, hs, _⟩ := slot rfl
    rw [leafValue, Store.default?, hs]
    trivial
  | correctOf identifier =>
    obtain ⟨s, hs, hkind⟩ := slot rfl
    rw [leafValue, ends_settled, correctValue, Store.declaration?, hs]
    have hresponse : s.declaration.kind = .response := List.mem_singleton.1 hkind
    simp [known, hresponse]
  | mapResponse identifier =>
    obtain ⟨s, hs, _⟩ := slot rfl
    rw [leafValue, ends_settled]
    exact (gives_mappedResponse store identifier).mono (fun _ _ ↦ trivial) fun _ hr ↦
      hr.resolve_left (by simp [hs])
  | mapResponsePoint identifier =>
    obtain ⟨s, hs, _⟩ := slot rfl
    rw [leafValue, ends_settled]
    exact (gives_mappedPoints store identifier).mono (fun _ _ ↦ trivial) fun _ hr ↦
      hr.resolve_left (by simp [hs])
  | randomInteger min max step =>
    exact (ends_randomInteger store min max step g).mono (fun _ _ _ ↦ trivial) fun _ _ hr ↦
      inward_of_blames hstore h.named hr
  | randomFloat min max =>
    exact (ends_randomFloat store min max g).mono (fun _ _ _ ↦ trivial) fun _ _ hr ↦
      inward_of_blames hstore h.named hr

mutual

/-- The run of `evaluate` on a tree that is `Resolved` never fails because something is not
there. -/
theorem ends_evaluate_inward (hstore : store.declarations = item.declarations) :
    (tree : ExpressionTree) → tree.Resolved item → (g : Generator) →
    Ends (evaluate ⟨item, store⟩ tree) g (fun _ _ ↦ True) fun error _ ↦ Inward error.fault
  | .missing _, h, _ => nomatch h
  | .node id (.leaf leaf) children, .node here _, g => by
      rw [evaluate, ends_within]
      exact ends_leafValue_inward hstore here g
  | .node id (.operator op) children, .node here below, g => by
      simp only [evaluate, ends_bind, ends_within, ends_settled]
      refine Gives.of_forall ?_ fun _ ↦ ?_
      · unfold checkArity
        split
        · trivial
        · exact fun h ↦ h
      · refine (ends_evaluateAll_inward hstore children below g).mono (fun vs g' _ ↦ ?_)
          fun _ _ h ↦ h
        exact (ends_applyOperator store op vs g').mono (fun _ _ _ ↦ trivial) fun _ _ hr ↦
          inward_of_blames hstore here.named hr

theorem ends_evaluateAll_inward (hstore : store.declarations = item.declarations) :
    (trees : List ExpressionTree) → (∀ tree ∈ trees, tree.Resolved item) → (g : Generator) →
    Ends (evaluateAll ⟨item, store⟩ trees) g (fun _ _ ↦ True) fun error _ ↦ Inward error.fault
  | [], _, _ => trivial
  | tree :: trees, h, g => by
      simp only [evaluateAll, ends_bind, ends_pure]
      obtain ⟨hhead, htail⟩ := List.forall_mem_cons.1 h
      refine (ends_evaluate_inward hstore tree hhead g).mono (fun v g' _ ↦ ?_) fun _ _ h ↦ h
      exact ends_evaluateAll_inward hstore trees htail g'

end

end Evaluate

end AssessmentItem
