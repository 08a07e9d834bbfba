import AssessmentItem.Rule
import AssessmentItem.Proofs.Layout.Expressions

/-!
# Rules in a layout

Rules and their expressions are laid out in two arenas at once, everything that a rule refers to in
front of the rule.  Both arenas grow as by expressions alone: the ids are consecutive in the order
in which the rules are written, and every later layout unfolds a rule to the tree with these ids.

## Main definitions

* `Place`, `RuleSyntax.number` : a rule with consecutive ids at its rules and at the nodes of its
  expressions.
* `RuleTree.ruleIds`, `RuleTree.expressionIds` : the ids of a tree in the order in which they are
  given.
* `Layout.Extends`, `Layout.Grown` : later layouts, and layouts that have grown by some roots.
* `Layout.WellParented` : children stand in front of their parents, which the tables name, and the
  expressions of rules have no parents.

## Main results

* `RuleSyntax.spans_number` : the ids of a numbered rule are consecutive.
* `RuleSyntax.grown_layOut` : how a layout grows by a rule.
* `RuleSyntax.unfold_layOut` : a rule that is laid out unfolds to the numbered one.
-/

namespace AssessmentItem

/-! ### Numbers -/

/-- The ids that come next in the two arenas. -/
structure Place where
  rules : NodeId
  expressions : NodeId

namespace Place

/-- The ids that come next in a layout. -/
def ofLayout (l : Layout) : Place := ⟨l.rules.size, l.expressions.size⟩

/-- The expression `e` takes up the next ids. -/
def addExpression (p : Place) (e : Expression) : ExpressionTree × Place :=
  let (tree, expressions) := e.number p.expressions
  (tree, { p with expressions })

/-- A `rule` takes up the next id. -/
def push (p : Place) (rule : Rule ExpressionTree RuleTree) : RuleTree × Place :=
  (.node p.rules rule, { p with rules := p.rules + 1 })

end Place

namespace RuleSyntax

mutual

/-- A rule with the ids from `p` on, which everything that it refers to gets before the rule; and
the ids that come next. -/
def number : RuleSyntax → Place → RuleTree × Place
  | node (.condition phase branches otherwise), p =>
    let (branches, p) := numberBranches branches p
    let (otherwise, p) := numberAll otherwise p
    p.push (.condition phase branches otherwise)
  | node (.assign kind identifier value), p =>
    let (value, p) := p.addExpression value
    p.push (.assign kind identifier value)
  | node (.exit phase), p => p.push (.exit phase)
  | node (.constraint condition), p =>
    let (condition, p) := p.addExpression condition
    p.push (.constraint condition)
  | node (.fragment rules), p =>
    let (rules, p) := numberAll rules p
    p.push (.fragment rules)

/-- Rules with the ids from `p` on, in their order. -/
def numberAll : List RuleSyntax → Place → List RuleTree × Place
  | [], p => ([], p)
  | rule :: rules, p =>
    let (tree, p) := number rule p
    let (trees, p) := numberAll rules p
    (tree :: trees, p)

/-- Branches with the ids from `p` on, each guard before its rules. -/
def numberBranches :
    List (Branch Expression RuleSyntax) → Place → List (Branch ExpressionTree RuleTree) × Place
  | [], p => ([], p)
  | ⟨guard, rules⟩ :: branches, p =>
    let (guard, p) := p.addExpression guard
    let (rules, p) := numberAll rules p
    let (branches, p) := numberBranches branches p
    (⟨guard, rules⟩ :: branches, p)

end

end RuleSyntax

namespace RuleTree

mutual

/-- The ids of the rules of a tree, those below a rule before its own. -/
def ruleIds : RuleTree → List NodeId
  | missing _ => []
  | node id (.condition _ branches otherwise) =>
    branchRuleIds branches ++ allRuleIds otherwise ++ [id]
  | node id (.fragment rules) => allRuleIds rules ++ [id]
  | node id (.assign ..) | node id (.exit _) | node id (.constraint _) => [id]

/-- The ids of the rules of trees, in their order. -/
def allRuleIds : List RuleTree → List NodeId
  | [] => []
  | tree :: trees => ruleIds tree ++ allRuleIds trees

/-- The ids of the rules of branches, in their order. -/
def branchRuleIds : List (Branch ExpressionTree RuleTree) → List NodeId
  | [] => []
  | ⟨_, rules⟩ :: branches => allRuleIds rules ++ branchRuleIds branches

end

mutual

/-- The ids of the nodes of the expressions of a tree, each `guard` before the rules of its
branch. -/
def expressionIds : RuleTree → List NodeId
  | missing _ => []
  | node _ (.condition _ branches otherwise) =>
    branchExpressionIds branches ++ allExpressionIds otherwise
  | node _ (.fragment rules) => allExpressionIds rules
  | node _ (.assign _ _ e) | node _ (.constraint e) => e.ids
  | node _ (.exit _) => []

/-- The ids of the nodes of the expressions of trees, in their order. -/
def allExpressionIds : List RuleTree → List NodeId
  | [] => []
  | tree :: trees => expressionIds tree ++ allExpressionIds trees

/-- The ids of the nodes of the expressions of branches, in their order. -/
def branchExpressionIds : List (Branch ExpressionTree RuleTree) → List NodeId
  | [] => []
  | ⟨guard, rules⟩ :: branches =>
    guard.ids ++ allExpressionIds rules ++ branchExpressionIds branches

end

end RuleTree

/-- The ids from `p` to `p'` are given to `rules` and to nodes of `expressions`. -/
structure Place.Spans (p : Place) (rules expressions : List NodeId) (p' : Place) : Prop where
  rules_eq : List.range p.rules ++ rules = List.range p'.rules
  expressions_eq : List.range p.expressions ++ expressions = List.range p'.expressions

namespace Place

variable {p p' p'' : Place} {rules rules' expressions expressions' : List NodeId}

theorem spans_nil (p : Place) : p.Spans [] [] p := ⟨List.append_nil _, List.append_nil _⟩

theorem Spans.append (h : p.Spans rules expressions p') (h' : p'.Spans rules' expressions' p'') :
    p.Spans (rules ++ rules') (expressions ++ expressions') p'' where
  rules_eq := by rw [← List.append_assoc, h.rules_eq, h'.rules_eq]
  expressions_eq := by rw [← List.append_assoc, h.expressions_eq, h'.expressions_eq]

theorem spans_addExpression (p : Place) (e : Expression) :
    p.Spans [] (p.addExpression e).1.ids (p.addExpression e).2 :=
  ⟨List.append_nil _, e.range_append_ids p.expressions⟩

/-- The next id is given to a `rule` after what it refers to. -/
theorem Spans.push (h : p.Spans rules expressions p') (rule : Rule ExpressionTree RuleTree) :
    p.Spans (rules ++ [p'.rules]) expressions (p'.push rule).2 where
  rules_eq := by rw [← List.append_assoc, h.rules_eq, Place.push, List.range_succ]
  expressions_eq := h.expressions_eq

end Place

namespace RuleSyntax

open RuleTree

mutual

/-- The ids that `number` gives are the next ones, each once. -/
theorem spans_number : (r : RuleSyntax) → (p : Place) →
    p.Spans (r.number p).1.ruleIds (r.number p).1.expressionIds (r.number p).2
  | node (.condition phase branches otherwise), p => by
      have hbranches := spans_numberBranches branches p
      have hotherwise := spans_numberAll otherwise (numberBranches branches p).2
      rw [number]
      exact (hbranches.append hotherwise).push _
  | node (.assign kind identifier value), p => by
      rw [number]
      exact (p.spans_addExpression value).push _
  | node (.exit phase), p => p.spans_nil.push _
  | node (.constraint condition), p => by
      rw [number]
      exact (p.spans_addExpression condition).push _
  | node (.fragment rules), p => by
      rw [number]
      exact (spans_numberAll rules p).push _

theorem spans_numberAll : (rules : List RuleSyntax) → (p : Place) →
    p.Spans (allRuleIds (numberAll rules p).1) (allExpressionIds (numberAll rules p).1)
      (numberAll rules p).2
  | [], p => p.spans_nil
  | rule :: rules, p => by
      rw [numberAll]
      exact (spans_number rule p).append (spans_numberAll rules _)

theorem spans_numberBranches : (branches : List (Branch Expression RuleSyntax)) → (p : Place) →
    p.Spans (branchRuleIds (numberBranches branches p).1)
      (branchExpressionIds (numberBranches branches p).1) (numberBranches branches p).2
  | [], p => p.spans_nil
  | ⟨guard, rules⟩ :: branches, p => by
      have hguard := p.spans_addExpression guard
      have hrules := spans_numberAll rules (p.addExpression guard).2
      have hbranches :=
        spans_numberBranches branches (numberAll rules (p.addExpression guard).2).2
      rw [numberBranches]
      exact (hguard.append hrules).append hbranches

end

end RuleSyntax

/-! ### Growth -/

namespace Layout

/-- The layout `l'` has the nodes of `l` in their places, and perhaps more behind them. -/
structure Extends (l l' : Layout) : Prop where
  rules : l.rules.Extends l'.rules
  expressions : l.expressions.Extends l'.expressions

theorem Extends.refl (l : Layout) : l.Extends l := ⟨.refl _, .refl _⟩

theorem Extends.trans {l l' l'' : Layout} (h : l.Extends l') (h' : l'.Extends l'') :
    l.Extends l'' :=
  ⟨h.rules.trans h'.rules, h.expressions.trans h'.expressions⟩

theorem extends_push (l : Layout) (rule : RuleNode) : l.Extends (l.push rule).2 :=
  ⟨l.rules.extends_push rule rule.children, .refl _⟩

/-- In both arenas every child stands in front of its parent, and the table of parents names it; the
`expressions` of the rules have no parents. -/
structure WellParented (l : Layout) : Prop where
  rules : l.rules.WellParented Rule.children
  expressions : l.expressions.WellParented ExpressionNode.children
  attached : ∀ id rule, l.rules.get? id = some rule → ∀ e ∈ rule.expressions,
    e < l.expressions.size ∧ l.expressions.parent? e = none

theorem wellParented_empty : Layout.empty.WellParented :=
  ⟨Arena.wellParented_empty, Arena.wellParented_empty, nofun⟩

/-- The layout `l'` has grown from `l` by rules and expressions, of which the given ones are
roots. -/
structure Grown (l l' : Layout) (rules expressions : List NodeId) : Prop where
  rules : l.rules.Grown Rule.children l'.rules rules
  expressions : l.expressions.Grown ExpressionNode.children l'.expressions expressions
  wellParented : l.WellParented → l'.WellParented

namespace Grown

variable {l l' l'' : Layout} {rules rules' expressions expressions' : List NodeId}

theorem extension (h : l.Grown l' rules expressions) : l.Extends l' :=
  ⟨h.rules.extension, h.expressions.extension⟩

theorem refl (l : Layout) : l.Grown l [] [] := ⟨.refl _, .refl _, fun h ↦ h⟩

theorem trans (h : l.Grown l' rules expressions) (h' : l'.Grown l'' rules' expressions') :
    l.Grown l'' (rules ++ rules') (expressions ++ expressions') :=
  ⟨h.rules.trans h'.rules, h.expressions.trans h'.expressions,
    fun hw ↦ h'.wellParented (h.wellParented hw)⟩

/-- An expression is a root until a rule refers to it. -/
theorem addExpression (l : Layout) (e : Expression) :
    l.Grown (l.addExpression e).2 [] [(l.addExpression e).1] where
  rules := .refl _
  expressions := e.grown_layOut l.expressions
  wellParented hw :=
    have hgrown := e.grown_layOut l.expressions
    { rules := hw.rules
      expressions := hgrown.wellParented hw.expressions
      attached id rule hrule i hi := by
        obtain ⟨hlt, hparent⟩ := hw.attached id rule hrule i hi
        exact ⟨Nat.lt_of_lt_of_le hlt hgrown.extension.size_le,
          (hgrown.parent?_eq i hlt).trans hparent⟩ }

/-- A `rule` is put above the roots, and is the only root then. -/
theorem push {rule : RuleNode} (h : l.Grown l' rule.children rule.expressions) :
    l.Grown (l'.push rule).2 [(l'.push rule).1] [] where
  rules := h.rules.push
  expressions := h.expressions.mono nofun
  wellParented hw :=
    { rules := (h.wellParented hw).rules.push fun child hchild ↦ (h.rules.roots child hchild).2
      expressions := (h.wellParented hw).expressions
      attached id rule' hrule' e he := by
        have hid := Arena.lt_size_of_get? hrule'
        rw [Layout.push, Arena.size_push] at hid
        rcases Nat.lt_or_eq_of_le (Nat.le_of_lt_succ hid) with hlt | rfl
        · rw [Layout.push, Arena.get?_push_of_lt _ _ _ hlt] at hrule'
          exact (h.wellParented hw).attached id rule' hrule' e he
        · rw [Layout.push, Arena.get?_push_self] at hrule'
          obtain rfl := Option.some.inj hrule'
          exact (h.expressions.roots e he).2 }

end Grown

end Layout

namespace RuleSyntax

/-- The lists `rules` and `rules'` may be laid out one after the other. -/
theorem layOutAll_append (rules rules' : List RuleSyntax) (l : Layout) :
    layOutAll (rules ++ rules') l =
      ((layOutAll rules l).1 ++ (layOutAll rules' (layOutAll rules l).2).1,
        (layOutAll rules' (layOutAll rules l).2).2) := by
  induction rules generalizing l with
  | nil => rfl
  | cons rule rules ih =>
    dsimp only [List.cons_append, layOutAll]
    rw [ih]

mutual

/-- A layout has `Grown` by a rule that is laid out, which is the only new root. -/
theorem grown_layOut : (r : RuleSyntax) → (l : Layout) →
    l.Grown (r.layOut l).2 [(r.layOut l).1] []
  | node (.condition phase branches otherwise), l => by
      have hbranches := grown_layOutBranches branches l
      have hotherwise := grown_layOutAll otherwise (layOutBranches branches l).2
      have hgrown := hbranches.trans hotherwise
      rw [List.append_nil] at hgrown
      rw [layOut]
      exact hgrown.push
  | node (.assign kind identifier value), l => by
      rw [layOut]
      exact (Layout.Grown.addExpression l value).push
  | node (.exit phase), l => (Layout.Grown.refl l).push
  | node (.constraint condition), l => by
      rw [layOut]
      exact (Layout.Grown.addExpression l condition).push
  | node (.fragment rules), l => by
      rw [layOut]
      exact (grown_layOutAll rules l).push

theorem grown_layOutAll : (rules : List RuleSyntax) → (l : Layout) →
    l.Grown (layOutAll rules l).2 (layOutAll rules l).1 []
  | [], l => .refl l
  | rule :: rules, l => by
      rw [layOutAll]
      exact (grown_layOut rule l).trans (grown_layOutAll rules _)

theorem grown_layOutBranches : (branches : List (Branch Expression RuleSyntax)) → (l : Layout) →
    l.Grown (layOutBranches branches l).2 ((layOutBranches branches l).1.flatMap Branch.rules)
      ((layOutBranches branches l).1.map Branch.guard)
  | [], l => .refl l
  | ⟨guard, rules⟩ :: branches, l => by
      have hguard := Layout.Grown.addExpression l guard
      have hrules := grown_layOutAll rules (l.addExpression guard).2
      have hbranches :=
        grown_layOutBranches branches (layOutAll rules (l.addExpression guard).2).2
      rw [layOutBranches]
      exact (hguard.trans hrules).trans hbranches

end

end RuleSyntax

/-! ### Unfolding -/

/-- Every later layout unfolds `id` to `tree`, if the fuel lasts to the id. -/
def Layout.Unfolds (l : Layout) (id : NodeId) (tree : RuleTree) : Prop :=
  ∀ later, l.Extends later → ∀ fuel, id < fuel → later.unfoldRule fuel id = tree

/-- An expression of a layout unfolds to what `Place.addExpression` gives. -/
theorem Layout.expressionTree_addExpression (l : Layout) (e : Expression) :
    Place.ofLayout (l.addExpression e).2 = ((Place.ofLayout l).addExpression e).2 ∧
      ∀ later, (l.addExpression e).2.Extends later →
        later.expressions.expressionTree (l.addExpression e).1 =
          ((Place.ofLayout l).addExpression e).1 := by
  obtain ⟨hsize, htree⟩ := e.unfold_layOut l.expressions
  refine ⟨congrArg (Place.mk l.rules.size) hsize, fun later hlater ↦ ?_⟩
  have hid := ((e.grown_layOut l.expressions).roots _ List.mem_cons_self).2.1
  exact htree later.expressions hlater.expressions _
    (Nat.lt_of_lt_of_le hid hlater.expressions.size_le)

/-- A rule `Unfolds` to a tree if what it refers to unfolds to the trees below. -/
theorem Layout.unfolds_push {l : Layout} {p : Place} (hp : Place.ofLayout l = p) {rule : RuleNode}
    {tree : Rule ExpressionTree RuleTree}
    (htree : ∀ later, l.Extends later → ∀ fuel, l.rules.size ≤ fuel →
      rule.map later.expressions.expressionTree (later.unfoldRule fuel) = tree) :
    Place.ofLayout (l.push rule).2 = (p.push tree).2 ∧
      (l.push rule).2.Unfolds (l.push rule).1 (p.push tree).1 := by
  subst hp
  refine ⟨?_, fun later hlater fuel hfuel ↦ ?_⟩
  · rw [Place.ofLayout, push, Arena.size_push]
    rfl
  · have hid : (l.push rule).1 = l.rules.size := rfl
    rw [hid] at hfuel ⊢
    obtain ⟨more, rfl⟩ := Nat.exists_eq_add_of_lt hfuel
    have hnode := (hlater.rules.get?_eq l.rules.size (by simp [push])).trans
      (l.rules.get?_push_self rule rule.children)
    have hearlier := (l.extends_push rule).trans hlater
    rw [unfoldRule, hnode]
    exact congrArg (RuleTree.node l.rules.size)
      (htree later hearlier _ (Nat.le_add_right l.rules.size more))

namespace RuleSyntax

mutual

/-- What `layOut` lays out gets the ids from the sizes of the arenas on, and every later layout
unfolds it with these ids. -/
theorem unfold_layOut : (r : RuleSyntax) → (l : Layout) →
    Place.ofLayout (r.layOut l).2 = (r.number (.ofLayout l)).2 ∧
      (r.layOut l).2.Unfolds (r.layOut l).1 (r.number (.ofLayout l)).1
  | node (.condition phase branches otherwise), l => by
      obtain ⟨hplace, hbranches⟩ := unfold_layOutBranches branches l
      obtain ⟨hplace', hotherwise⟩ := unfold_layOutAll otherwise (layOutBranches branches l).2
      have hgrown := grown_layOutBranches branches l
      have hgrown' := grown_layOutAll otherwise (layOutBranches branches l).2
      rw [hplace] at hplace' hotherwise
      rw [layOut, number]
      refine Layout.unfolds_push hplace' fun later hlater fuel hfuel ↦ ?_
      have hbelow : ∀ id ∈ (layOutBranches branches l).1.flatMap Branch.rules, id < fuel :=
        fun id hid ↦ Nat.lt_of_lt_of_le (hgrown.rules.roots id hid).2.1
          (Nat.le_trans hgrown'.extension.rules.size_le hfuel)
      have hbelow' : ∀ id ∈ (layOutAll otherwise (layOutBranches branches l).2).1, id < fuel :=
        fun id hid ↦ Nat.lt_of_lt_of_le (hgrown'.rules.roots id hid).2.1 hfuel
      rw [Rule.map, hbranches later (hgrown'.extension.trans hlater) fuel hbelow,
        hotherwise later hlater fuel hbelow']
  | node (.assign kind identifier value), l => by
      obtain ⟨hplace, hvalue⟩ := l.expressionTree_addExpression value
      rw [layOut, number]
      exact Layout.unfolds_push hplace fun later hlater _ _ ↦
        congrArg (Rule.assign kind identifier) (hvalue later hlater)
  | node (.exit phase), l => Layout.unfolds_push rfl fun _ _ _ _ ↦ rfl
  | node (.constraint condition), l => by
      obtain ⟨hplace, hcondition⟩ := l.expressionTree_addExpression condition
      rw [layOut, number]
      exact Layout.unfolds_push hplace fun later hlater _ _ ↦
        congrArg Rule.constraint (hcondition later hlater)
  | node (.fragment rules), l => by
      obtain ⟨hplace, hrules⟩ := unfold_layOutAll rules l
      have hgrown := grown_layOutAll rules l
      rw [layOut, number]
      refine Layout.unfolds_push hplace fun later hlater fuel hfuel ↦ ?_
      rw [Rule.map, hrules later hlater fuel fun id hid ↦
        Nat.lt_of_lt_of_le (hgrown.rules.roots id hid).2.1 hfuel]

theorem unfold_layOutAll : (rules : List RuleSyntax) → (l : Layout) →
    Place.ofLayout (layOutAll rules l).2 = (numberAll rules (.ofLayout l)).2 ∧
      ∀ later, (layOutAll rules l).2.Extends later → ∀ fuel,
        (∀ id ∈ (layOutAll rules l).1, id < fuel) →
          (layOutAll rules l).1.map (later.unfoldRule fuel) = (numberAll rules (.ofLayout l)).1
  | [], l => ⟨rfl, fun _ _ _ _ ↦ rfl⟩
  | rule :: rules, l => by
      obtain ⟨hplace, htree⟩ := unfold_layOut rule l
      obtain ⟨hplaces, htrees⟩ := unfold_layOutAll rules (rule.layOut l).2
      have hgrown := grown_layOutAll rules (rule.layOut l).2
      rw [hplace] at hplaces htrees
      rw [layOutAll, numberAll]
      refine ⟨hplaces, fun later hlater fuel hfuel ↦ ?_⟩
      obtain ⟨hhead, htail⟩ := List.forall_mem_cons.1 hfuel
      rw [List.map_cons, htree later (hgrown.extension.trans hlater) fuel hhead,
        htrees later hlater fuel htail]

theorem unfold_layOutBranches : (branches : List (Branch Expression RuleSyntax)) →
    (l : Layout) →
    Place.ofLayout (layOutBranches branches l).2 = (numberBranches branches (.ofLayout l)).2 ∧
      ∀ later, (layOutBranches branches l).2.Extends later → ∀ fuel,
        (∀ id ∈ (layOutBranches branches l).1.flatMap Branch.rules, id < fuel) →
          (layOutBranches branches l).1.map
            (fun b ↦ ⟨later.expressions.expressionTree b.guard,
              b.rules.map (later.unfoldRule fuel)⟩) =
            (numberBranches branches (.ofLayout l)).1
  | [], l => ⟨rfl, fun _ _ _ _ ↦ rfl⟩
  | ⟨guard, rules⟩ :: branches, l => by
      obtain ⟨hplace₁, hguard⟩ := l.expressionTree_addExpression guard
      obtain ⟨hplace₂, hrules⟩ := unfold_layOutAll rules (l.addExpression guard).2
      obtain ⟨hplace₃, hbranches⟩ :=
        unfold_layOutBranches branches (layOutAll rules (l.addExpression guard).2).2
      have hgrown₂ := grown_layOutAll rules (l.addExpression guard).2
      have hgrown₃ :=
        grown_layOutBranches branches (layOutAll rules (l.addExpression guard).2).2
      rw [hplace₁] at hplace₂ hrules
      rw [hplace₂] at hplace₃ hbranches
      rw [layOutBranches, numberBranches]
      refine ⟨hplace₃, fun later hlater fuel hfuel ↦ ?_⟩
      rw [List.flatMap_cons] at hfuel
      obtain ⟨hhead, htail⟩ := List.forall_mem_append.1 hfuel
      have hlater₂ := hgrown₃.extension.trans hlater
      rw [List.map_cons, hguard later (hgrown₂.extension.trans hlater₂),
        hrules later hlater₂ fuel hhead, hbranches later hlater fuel htail]

end

end RuleSyntax

end AssessmentItem
