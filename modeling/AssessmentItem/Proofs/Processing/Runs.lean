import AssessmentItem.Processing.Basic
import AssessmentItem.Proofs.Evaluation.Basic

/-!
# Runs of rules

A run takes two kinds of steps: it finds out whether a guard holds, or it assigns a value.  What
every step of the rules keeps, the whole run keeps, however the rules are nested, and whether it
ends at the last rule, leaves early or fails.

## Main definitions

* `RuleTree.Each` : a property of every rule of a tree.
* `Layout.Holds` : the rules of an arena.
* `StepsKeep` : every step of rules with a property keeps a property of the run.

## Main results

* `StepsKeep.runRule`, `StepsKeep.runRules` : a run keeps what its steps keep.
* `Layout.each_unfoldRule` : the rules of an unfolded tree are those of its arena.
-/

namespace AssessmentItem

open Evaluation Processing

/-! ### Rules of a tree -/

/-- Every rule of a tree has `P`, and the id of every rule that is `.missing` has `M`. -/
inductive RuleTree.Each (P : NodeId → Rule ExpressionTree RuleTree → Prop) (M : NodeId → Prop) :
    RuleTree → Prop
  | missing {id : NodeId} (here : M id) : Each P M (.missing id)
  | node {id : NodeId} {rule : Rule ExpressionTree RuleTree} (here : P id rule)
      (below : ∀ child ∈ rule.children, Each P M child) : Each P M (.node id rule)

section Each

variable {P P' : NodeId → Rule ExpressionTree RuleTree → Prop} {M : NodeId → Prop}

theorem RuleTree.each_node_iff {id : NodeId} {rule : Rule ExpressionTree RuleTree} :
    (RuleTree.node id rule).Each P M ↔ P id rule ∧ ∀ child ∈ rule.children, child.Each P M := by
  constructor
  · intro h
    cases h with
    | node here below => exact ⟨here, below⟩
  · rintro ⟨here, below⟩
    exact .node here below

theorem RuleTree.Each.mono {M' : NodeId → Prop} {tree : RuleTree} (h : tree.Each P M)
    (hP : ∀ id rule, P id rule → P' id rule) (hM : ∀ id, M id → M' id) : tree.Each P' M' := by
  induction h with
  | missing here => exact .missing (hM _ here)
  | node here _ ih => exact .node (hP _ _ here) ih

mutual

/-- What holds of every rule and of every id holds of `Each` of a tree. -/
theorem RuleTree.each_of_forall (hP : ∀ id rule, P id rule) (hM : ∀ id, M id) :
    (tree : RuleTree) → tree.Each P M
  | .missing id => .missing (hM id)
  | .node id (.condition phase branches otherwise) => by
      refine .node (hP id _) fun child hchild ↦ ?_
      rcases List.mem_append.1 hchild with hchild | hchild
      · obtain ⟨b, hb, hchild⟩ := List.mem_flatMap.1 hchild
        exact each_branches_of_forall hP hM branches b hb child hchild
      · exact each_rules_of_forall hP hM otherwise child hchild
  | .node id (.assign _ _ _) => .node (hP id _) nofun
  | .node id (.exit _) => .node (hP id _) nofun
  | .node id (.constraint _) => .node (hP id _) nofun
  | .node id (.fragment rules) => .node (hP id _) (each_rules_of_forall hP hM rules)

theorem RuleTree.each_rules_of_forall (hP : ∀ id rule, P id rule) (hM : ∀ id, M id) :
    (trees : List RuleTree) → ∀ tree ∈ trees, tree.Each P M
  | [] => by simp
  | tree :: trees => List.forall_mem_cons.2
      ⟨each_of_forall hP hM tree, each_rules_of_forall hP hM trees⟩

theorem RuleTree.each_branches_of_forall (hP : ∀ id rule, P id rule) (hM : ∀ id, M id) :
    (branches : List (Branch ExpressionTree RuleTree)) →
    ∀ b ∈ branches, ∀ tree ∈ b.rules, tree.Each P M
  | [] => by simp
  | ⟨_, rules⟩ :: branches => List.forall_mem_cons.2
      ⟨each_rules_of_forall hP hM rules, each_branches_of_forall hP hM branches⟩

end

end Each

/-- The `children` of a rule, once all that it refers to is replaced by `Rule.map`. -/
theorem Rule.children_map {E E' R R' : Type} (f : E → E') (g : R → R') (rule : Rule E R) :
    (rule.map f g).children = rule.children.map g := by
  cases rule with
  | condition phase branches otherwise =>
    simp [Rule.map, Rule.children, List.flatMap_map, List.map_flatMap]
  | _ => rfl

/-- The rule is the one that `l.rules` has for `id`, with everything that it refers to replaced by
trees. -/
def Layout.Holds (l : Layout) (id : NodeId) (rule : Rule ExpressionTree RuleTree) : Prop :=
  ∃ node g, l.rules.get? id = some node ∧ rule = node.map l.expressions.expressionTree g

theorem Layout.Holds.get?_eq_assign {l : Layout} {id : NodeId} {kind : AssignmentKind}
    {identifier : String} {e : ExpressionTree} (h : l.Holds id (.assign kind identifier e)) :
    ∃ value, l.rules.get? id = some (.assign kind identifier value) := by
  obtain ⟨node, g, hnode, hrule⟩ := h
  cases node <;> cases hrule
  exact ⟨_, hnode⟩

/-- The rules of a tree that `unfoldRule` gives are those of its arena. -/
theorem Layout.each_unfoldRule (l : Layout) : (fuel : Nat) → (id : NodeId) →
    (l.unfoldRule fuel id).Each l.Holds fun _ ↦ True
  | 0, id => .missing trivial
  | fuel + 1, id => by
      rw [unfoldRule]
      cases hnode : l.rules.get? id with
      | none => exact .missing trivial
      | some node =>
        refine .node ⟨node, _, hnode, rfl⟩ fun child hchild ↦ ?_
        rw [Rule.children_map] at hchild
        obtain ⟨childId, -, rfl⟩ := List.mem_map.1 hchild
        exact l.each_unfoldRule fuel childId

/-! ### From steps to runs -/

/-- Every step of the rules with `P` keeps `I` and fails with errors of `E` alone; so does the
failure at an id with `M` that has no rule. -/
structure StepsKeep (item : Item) (P : NodeId → Rule ExpressionTree RuleTree → Prop)
    (M : NodeId → Prop) (I : Run → Prop) (E : AuthoringError → Prop) : Prop where
  missing : ∀ id, M id → E (.rule "rule" id.text .missingRule)
  guard : ∀ id rule, P id rule → ∀ e ∈ rule.expressions, ∀ name,
    Keeps I E (guardHolds item name e)
  assign : ∀ id kind identifier e, P id (.assign kind identifier e) →
    Keeps I E (runAssignment item id kind identifier e)

namespace StepsKeep

variable {item : Item} {P : NodeId → Rule ExpressionTree RuleTree → Prop} {M : NodeId → Prop}
  {I : Run → Prop} {E : AuthoringError → Prop}

mutual

/-- The run of a rule keeps what its `StepsKeep`. -/
theorem runRule (h : StepsKeep item P M I E) :
    (tree : RuleTree) → tree.Each P M → Keeps I E (Processing.runRule item tree)
  | .missing id, .missing here => by
      rw [Processing.runRule]
      exact keeps_throw (h.missing id here)
  | .node id (.condition phase branches otherwise), .node here below => by
      rw [Processing.runRule]
      have hbranches : ∀ b ∈ branches, (∀ name, Keeps I E (guardHolds item name b.guard)) ∧
          ∀ rule ∈ b.rules, rule.Each P M := fun b hb ↦
        ⟨h.guard id _ here _ (List.mem_map_of_mem hb), fun rule hrule ↦
          below rule (List.mem_append_left _ (List.mem_flatMap.2 ⟨b, hb, hrule⟩))⟩
      refine keeps_bind (runBranches h _ branches hbranches) fun outcome ↦ ?_
      cases outcome with
      | some outcome => exact keeps_pure outcome
      | none =>
        exact runRules h otherwise fun rule hrule ↦ below rule (List.mem_append_right _ hrule)
  | .node id (.assign kind identifier e), .node here _ => by
      rw [Processing.runRule]
      exact keeps_bind (h.assign id kind identifier e here) fun _ ↦ keeps_pure _
  | .node id (.exit phase), _ => by
      rw [Processing.runRule]
      exact keeps_pure _
  | .node id (.constraint condition), .node here _ => by
      rw [Processing.runRule]
      refine keeps_bind (h.guard id _ here condition List.mem_cons_self _) fun holds ↦ ?_
      cases holds <;> exact keeps_pure _
  | .node id (.fragment rules), .node _ below => by
      rw [Processing.runRule]
      exact runRules h rules below

/-- The run of a list of rules keeps what its `StepsKeep`. -/
theorem runRules (h : StepsKeep item P M I E) : (rules : List RuleTree) →
    (∀ rule ∈ rules, rule.Each P M) → Keeps I E (Processing.runRules item rules)
  | [], _ => by
      rw [Processing.runRules]
      exact keeps_pure _
  | rule :: rules, hrules => by
      rw [Processing.runRules]
      obtain ⟨hrule, hrules⟩ := List.forall_mem_cons.1 hrules
      refine keeps_bind (runRule h rule hrule) fun outcome ↦ ?_
      cases outcome with
      | completed => exact runRules h rules hrules
      | exited phase => exact keeps_pure _
      | constraintFailed => exact keeps_pure _

theorem runBranches (h : StepsKeep item P M I E) (name : String) :
    (branches : List (Branch ExpressionTree RuleTree)) →
    (∀ b ∈ branches, (∀ name, Keeps I E (guardHolds item name b.guard)) ∧
      ∀ rule ∈ b.rules, rule.Each P M) →
    Keeps I E (Processing.runBranches item name branches)
  | [], _ => by
      rw [Processing.runBranches]
      exact keeps_pure _
  | ⟨guard, rules⟩ :: branches, hbranches => by
      rw [Processing.runBranches]
      obtain ⟨⟨hguard, hrules⟩, hbranches⟩ := List.forall_mem_cons.1 hbranches
      refine keeps_bind (hguard name) fun holds ↦ ?_
      cases holds with
      | true => exact keeps_bind (runRules h rules hrules) fun _ ↦ keeps_pure _
      | false => exact runBranches h name branches hbranches

end

end StepsKeep

end AssessmentItem
