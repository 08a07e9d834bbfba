import Mathlib.Algebra.GroupWithZero.Nat
import AssessmentItem.Document.Item
import AssessmentItem.Proofs.Document.Nodes
import AssessmentItem.Proofs.Layout.Rules

/-!
# The trees of a document

A document that is read gives the trees that are written in it: an expression for every object that
stands where the format has an expression, and a rule for every object that stands where it has a
rule, with the same names, operands and order.  They are laid out in the arenas of the item, and
unfolding the rules of the two phases comes to every place of the arenas once.

## Main definitions

* `ExpressionTree.Mirrors`, `RuleTree.Mirrors` : a tree is the one that is written in an object.
* `Json.rulesBelow`, `Json.expressionsIn` : the objects that stand where a rule refers to rules and
  to expressions.
* `Json.expressionCount`, `Json.ruleCount`, `Json.ruleExpressionCount` : the numbers of objects.
* `Item.Mirrors` : an item has the rules of a document, each in one place of its arenas.

## Main results

* `mirrors_readExpression`, `mirrors_readRule` : what is read mirrors the object.
* `RuleTree.length_ids_of_mirrors` : a tree has as many rules and nodes as there are objects.
* `ItemDocument.trees_of_item` : the trees of an item are those of its document.
-/

namespace AssessmentItem

open Json

/-! ### Places of objects -/

namespace Json

/-- The items of a `field` that is an array. There are none if there is no such field. -/
def items (node : Json) (field : String) : List Json :=
  match node.field? field with
  | some (.array items) => items
  | _ => []

/-- The rules that stand directly below a rule: in its `"branches"` and after them, or in a
fragment. -/
def rulesBelow (node : Json) : List Json :=
  match node.field? "rule" with
  | some (.string "responseCondition") | some (.string "templateCondition") =>
    (node.items "branches").flatMap (·.items "rules") ++ node.items "otherwise"
  | some (.string "responseProcessingFragment") => node.items "rules"
  | _ => []

/-- The expressions that stand directly in a rule: the guards of its `"branches"`, or its own
one. -/
def expressionsIn (node : Json) : List Json :=
  match node.field? "rule" with
  | some (.string "responseCondition") | some (.string "templateCondition") =>
    (node.items "branches").filterMap (·.field? "guard")
  | some (.string "responseProcessingFragment") | some (.string "exitResponse")
  | some (.string "exitTemplate") => []
  | _ => (node.field? "expression").toList

theorem items_eq {node : Json} {field : String} {l : List Json}
    (h : node.field? field = some (.array l)) : node.items field = l := by
  rw [items, h]

theorem sizeOf_lt_of_mem_items {node item : Json} {field : String} (h : item ∈ node.items field) :
    sizeOf item < sizeOf node := by
  unfold items at h
  split at h
  · rename_i l hl
    have harray := sizeOf_field?_lt hl
    have hitem := List.sizeOf_lt_of_mem h
    simp only [Json.array.sizeOf_spec] at harray
    omega
  · cases h

theorem sizeOf_lt_of_mem_rulesBelow {node rule : Json} (h : rule ∈ node.rulesBelow) :
    sizeOf rule < sizeOf node := by
  have hbranch : ∀ v ∈ (node.items "branches").flatMap (·.items "rules") ++ node.items "otherwise",
      sizeOf v < sizeOf node := by
    intro v hv
    rcases List.mem_append.1 hv with hv | hv
    · obtain ⟨b, hb, hv⟩ := List.mem_flatMap.1 hv
      exact Nat.lt_trans (sizeOf_lt_of_mem_items hv) (sizeOf_lt_of_mem_items hb)
    · exact sizeOf_lt_of_mem_items hv
  unfold rulesBelow at h
  split at h
  · exact hbranch rule h
  · exact hbranch rule h
  · exact sizeOf_lt_of_mem_items h
  · cases h

/-- The number of expressions in `node`: itself and those below it. -/
def expressionCount (node : Json) : Nat :=
  ((node.items "children").attach.map fun v ↦ expressionCount v.1).sum + 1
termination_by sizeOf node
decreasing_by exact sizeOf_lt_of_mem_items v.2

/-- The number of rules in `node`: itself and those below it. -/
def ruleCount (node : Json) : Nat :=
  (node.rulesBelow.attach.map fun v ↦ ruleCount v.1).sum + 1
termination_by sizeOf node
decreasing_by exact sizeOf_lt_of_mem_rulesBelow v.2

/-- The number of expressions in the rule `node`: in itself and in the rules below it. -/
def ruleExpressionCount (node : Json) : Nat :=
  (node.expressionsIn.map expressionCount).sum +
    (node.rulesBelow.attach.map fun v ↦ ruleExpressionCount v.1).sum
termination_by sizeOf node
decreasing_by exact sizeOf_lt_of_mem_rulesBelow v.2

theorem expressionCount_eq (node : Json) :
    node.expressionCount = ((node.items "children").map expressionCount).sum + 1 := by
  rw [expressionCount, List.attach_map_val]

theorem ruleCount_eq (node : Json) :
    node.ruleCount = (node.rulesBelow.map ruleCount).sum + 1 := by
  rw [ruleCount, List.attach_map_val]

theorem ruleExpressionCount_eq (node : Json) :
    node.ruleExpressionCount = (node.expressionsIn.map expressionCount).sum +
      (node.rulesBelow.map ruleExpressionCount).sum := by
  rw [ruleExpressionCount, List.attach_map_val]

end Json

/-! ### Mirrors -/

namespace ExpressionTree

mutual

/-- A tree is the expression that is written in an object: it has its operator with its operands,
and the children are the expressions under `children`, in their order. -/
def Mirrors : ExpressionTree → Json → Prop
  | missing _, _ => False
  | node _ kind children, v => v.field? "op" = some (.string kind.name) ∧ kind.WrittenIn v ∧
      MirrorsAll children (v.items "children")

/-- Trees are expressions that `Mirrors` accepts for the objects, one for each and in their
order. -/
def MirrorsAll : List ExpressionTree → List Json → Prop
  | [], [] => True
  | tree :: trees, v :: vs => Mirrors tree v ∧ MirrorsAll trees vs
  | [], _ :: _ | _ :: _, [] => False

end

/-- The tree is the expression that is written in the `field` of `node`. -/
def MirrorsField (tree : ExpressionTree) (node : Json) (field : String) : Prop :=
  ∃ v, node.field? field = some v ∧ tree.Mirrors v

end ExpressionTree

namespace RuleTree

mutual

/-- A tree is the rule that is written in an object: it has its name, its variable and its
expression, and its branches and the rules below it in their order. -/
def Mirrors : RuleTree → Json → Prop
  | missing _, _ => False
  | node _ (.condition phase branches otherwise), v =>
    v.field? "rule" = some (.string (Rule.condition phase branches otherwise).name) ∧
      MirrorsBranches branches (v.items "branches") ∧ MirrorsAll otherwise (v.items "otherwise")
  | node _ (.assign kind identifier e), v =>
    v.field? "rule" = some (.string kind.name) ∧
      v.field? "identifier" = some (.string identifier) ∧ e.MirrorsField v "expression"
  | node _ (.exit phase), v =>
    v.field? "rule" = some (.string (Rule.exit phase : Rule ExpressionTree RuleTree).name)
  | node _ (.constraint e), v =>
    v.field? "rule" = some (.string "templateConstraint") ∧ e.MirrorsField v "expression"
  | node _ (.fragment rules), v =>
    v.field? "rule" = some (.string "responseProcessingFragment") ∧
      MirrorsAll rules (v.items "rules")

/-- Trees are rules that `Mirrors` accepts for the objects, one for each and in their order. -/
def MirrorsAll : List RuleTree → List Json → Prop
  | [], [] => True
  | tree :: trees, v :: vs => Mirrors tree v ∧ MirrorsAll trees vs
  | [], _ :: _ | _ :: _, [] => False

/-- The branches have the `"guard"` and the rules that are written in the objects, one for each and
in their order. -/
def MirrorsBranches : List (Branch ExpressionTree RuleTree) → List Json → Prop
  | [], [] => True
  | ⟨guard, rules⟩ :: branches, v :: vs =>
    guard.MirrorsField v "guard" ∧ MirrorsAll rules (v.items "rules") ∧ MirrorsBranches branches vs
  | [], _ :: _ | _ :: _, [] => False

end

theorem MirrorsAll.append : {trees trees' : List RuleTree} → {vs vs' : List Json} →
    MirrorsAll trees vs → MirrorsAll trees' vs' → MirrorsAll (trees ++ trees') (vs ++ vs')
  | [], _, [], _, _, h' => h'
  | _ :: _, _, _ :: _, _, h, h' => by
      rw [MirrorsAll] at h
      rw [List.cons_append, List.cons_append, MirrorsAll]
      exact ⟨h.1, h.2.append h'⟩

end RuleTree

/-! ### Numbers of objects -/

namespace ExpressionTree

mutual

/-- A tree has as many `ids` as there are expressions in the object. -/
theorem length_ids_of_mirrors : (tree : ExpressionTree) → (v : Json) → tree.Mirrors v →
    tree.ids.length = v.expressionCount
  | missing _, _, h => by
      rw [Mirrors] at h
      exact h.elim
  | node _ kind children, v, h => by
      rw [Mirrors] at h
      obtain ⟨-, -, hchildren⟩ := h
      rw [ids, List.length_append, length_idsAll_of_mirrors children _ hchildren,
        v.expressionCount_eq, List.length_singleton]

theorem length_idsAll_of_mirrors : (trees : List ExpressionTree) → (vs : List Json) →
    MirrorsAll trees vs → (idsAll trees).length = (vs.map expressionCount).sum
  | [], [], _ => rfl
  | tree :: trees, v :: vs, h => by
      rw [MirrorsAll] at h
      rw [idsAll, List.length_append, length_ids_of_mirrors tree v h.1,
        length_idsAll_of_mirrors trees vs h.2, List.map_cons, List.sum_cons]

end

theorem MirrorsField.length_ids {tree : ExpressionTree} {node : Json} {field : String}
    (h : tree.MirrorsField node field) :
    tree.ids.length = ((node.field? field).toList.map expressionCount).sum := by
  obtain ⟨v, hv, hmirrors⟩ := h
  rw [hv, tree.length_ids_of_mirrors v hmirrors]
  simp

end ExpressionTree

namespace RuleTree

/-- Where the rules and the expressions of a `.condition` stand. -/
theorem below_of_condition {node : Json} {phase : Phase}
    {branches : List (Branch ExpressionTree RuleTree)} {otherwise : List RuleTree}
    (h : node.field? "rule" = some (.string (Rule.condition phase branches otherwise).name)) :
    node.rulesBelow =
        (node.items "branches").flatMap (·.items "rules") ++ node.items "otherwise" ∧
      node.expressionsIn = (node.items "branches").filterMap (·.field? "guard") := by
  rw [rulesBelow, expressionsIn, h]
  cases phase <;> exact ⟨rfl, rfl⟩

/-- An `.assign` has one expression and no rules below it. -/
theorem below_of_assign {node : Json} {kind : AssignmentKind}
    (h : node.field? "rule" = some (.string kind.name)) :
    node.rulesBelow = [] ∧ node.expressionsIn = (node.field? "expression").toList := by
  rw [rulesBelow, expressionsIn, h]
  cases kind <;> exact ⟨rfl, rfl⟩

theorem below_of_exit {node : Json} {phase : Phase}
    (h : node.field? "rule" =
      some (.string (Rule.exit phase : Rule ExpressionTree RuleTree).name)) :
    node.rulesBelow = [] ∧ node.expressionsIn = [] := by
  rw [rulesBelow, expressionsIn, h]
  cases phase <;> exact ⟨rfl, rfl⟩

theorem below_of_constraint {node : Json}
    (h : node.field? "rule" = some (.string "templateConstraint")) :
    node.rulesBelow = [] ∧ node.expressionsIn = (node.field? "expression").toList := by
  rw [rulesBelow, expressionsIn, h]
  exact ⟨rfl, rfl⟩

theorem below_of_fragment {node : Json}
    (h : node.field? "rule" = some (.string "responseProcessingFragment")) :
    node.rulesBelow = node.items "rules" ∧ node.expressionsIn = [] := by
  rw [rulesBelow, expressionsIn, h]
  exact ⟨rfl, rfl⟩

mutual

/-- A tree has as many `ruleIds`, and as many `expressionIds`, as there are in the object. -/
theorem length_ids_of_mirrors : (tree : RuleTree) → (v : Json) → tree.Mirrors v →
    tree.ruleIds.length = v.ruleCount ∧ tree.expressionIds.length = v.ruleExpressionCount
  | missing _, _, h => by
      rw [Mirrors] at h
      exact h.elim
  | node _ (.condition phase branches otherwise), v, h => by
      rw [Mirrors] at h
      obtain ⟨hname, hbranches, hotherwise⟩ := h
      obtain ⟨hrules, hexpressions⟩ := below_of_condition hname
      obtain ⟨hbranchRules, hbranchExpressions⟩ := length_branchIds_of_mirrors branches _ hbranches
      obtain ⟨hotherRules, hotherExpressions⟩ := length_allIds_of_mirrors otherwise _ hotherwise
      rw [v.ruleCount_eq, v.ruleExpressionCount_eq, hrules, hexpressions, ruleIds, expressionIds]
      simp only [List.length_append, List.map_append, List.sum_append, List.length_singleton]
      omega
  | node _ (.assign kind identifier e), v, h => by
      rw [Mirrors] at h
      obtain ⟨hname, -, he⟩ := h
      obtain ⟨hrules, hexpressions⟩ := below_of_assign hname
      rw [v.ruleCount_eq, v.ruleExpressionCount_eq, hrules, hexpressions, ruleIds, expressionIds,
        he.length_ids]
      exact ⟨rfl, rfl⟩
  | node _ (.exit phase), v, h => by
      rw [Mirrors] at h
      obtain ⟨hrules, hexpressions⟩ := below_of_exit h
      rw [v.ruleCount_eq, v.ruleExpressionCount_eq, hrules, hexpressions, ruleIds, expressionIds]
      exact ⟨rfl, rfl⟩
  | node _ (.constraint e), v, h => by
      rw [Mirrors] at h
      obtain ⟨hname, he⟩ := h
      obtain ⟨hrules, hexpressions⟩ := below_of_constraint hname
      rw [v.ruleCount_eq, v.ruleExpressionCount_eq, hrules, hexpressions, ruleIds, expressionIds,
        he.length_ids]
      exact ⟨rfl, rfl⟩
  | node _ (.fragment rules), v, h => by
      rw [Mirrors] at h
      obtain ⟨hname, hbelow⟩ := h
      obtain ⟨hruleIds, hexpressionIds⟩ := length_allIds_of_mirrors rules _ hbelow
      obtain ⟨hrules, hexpressions⟩ := below_of_fragment hname
      rw [v.ruleCount_eq, v.ruleExpressionCount_eq, hrules, hexpressions, ruleIds, expressionIds,
        List.length_append, hruleIds, hexpressionIds]
      exact ⟨rfl, (Nat.zero_add _).symm⟩

theorem length_allIds_of_mirrors : (trees : List RuleTree) → (vs : List Json) →
    MirrorsAll trees vs → (allRuleIds trees).length = (vs.map ruleCount).sum ∧
      (allExpressionIds trees).length = (vs.map ruleExpressionCount).sum
  | [], [], _ => ⟨rfl, rfl⟩
  | tree :: trees, v :: vs, h => by
      rw [MirrorsAll] at h
      obtain ⟨hhead, hheads⟩ := length_ids_of_mirrors tree v h.1
      obtain ⟨htail, htails⟩ := length_allIds_of_mirrors trees vs h.2
      rw [allRuleIds, allExpressionIds, List.length_append, List.length_append, hhead, hheads,
        htail, htails]
      exact ⟨rfl, rfl⟩

theorem length_branchIds_of_mirrors : (branches : List (Branch ExpressionTree RuleTree)) →
    (vs : List Json) → MirrorsBranches branches vs →
    (branchRuleIds branches).length =
        ((vs.flatMap (·.items "rules")).map ruleCount).sum ∧
      (branchExpressionIds branches).length =
        ((vs.filterMap (·.field? "guard")).map expressionCount).sum +
          ((vs.flatMap (·.items "rules")).map ruleExpressionCount).sum
  | [], [], _ => ⟨rfl, rfl⟩
  | ⟨guard, rules⟩ :: branches, v :: vs, h => by
      rw [MirrorsBranches] at h
      obtain ⟨hguard, hrules, hbranches⟩ := h
      have hguardIds := hguard.length_ids
      obtain ⟨hruleIds, hexpressionIds⟩ := length_allIds_of_mirrors rules _ hrules
      obtain ⟨hbranchRules, hbranchExpressions⟩ := length_branchIds_of_mirrors branches vs hbranches
      obtain ⟨w, hw, -⟩ := hguard
      rw [hw] at hguardIds
      rw [branchRuleIds, branchExpressionIds, List.flatMap_cons, List.filterMap_cons, hw]
      simp only [List.length_append, List.map_append, List.sum_append, List.map_cons, List.sum_cons,
        Option.toList_some, List.map_nil, List.sum_nil] at hguardIds ⊢
      omega

end

end RuleTree

/-! ### Reading -/

section Reading

variable {node : Json} {field context path : String}

theorem items_of_readArray {l : List Json} {hle : sizeOf l ≤ sizeOf node}
    (h : readArray node field context = .ok ⟨l, hle⟩) : node.items field = l := by
  unfold readArray at h
  split at h
  · rename_i items hitems
    cases h
    exact items_eq hitems
  · cases h
  · cases h

theorem items_of_readOptionalArray {l : List Json} {hle : sizeOf l ≤ sizeOf node}
    (h : readOptionalArray node field context = .ok ⟨l, hle⟩) : node.items field = l := by
  unfold readOptionalArray at h
  split at h
  · rename_i hnone
    cases h
    rw [items, Option.isNone_iff_eq_none.1 hnone]
  · exact items_of_readArray h

end Reading

mutual

/-- What `readExpression` reads is the expression that is written in the object, whatever ids it
gets. -/
theorem mirrors_readExpression (v : Json) (path : String) {e : Expression}
    (h : readExpression v path = .ok e) (n : NodeId) : (e.number n).1.Mirrors v := by
  rw [readExpression] at h
  obtain ⟨name, hname, h⟩ := bind_eq_ok_iff.1 h
  obtain ⟨kind, hkind, h⟩ := bind_eq_ok_iff.1 h
  obtain ⟨⟨items, hle⟩, hitems, h⟩ := bind_eq_ok_iff.1 h
  obtain ⟨es, hes, h⟩ := bind_eq_ok_iff.1 h
  cases h
  obtain ⟨rfl, hwritten⟩ := writtenIn_of_readKind hkind
  have hchildren := mirrors_readExpressions items _ _ hes n
  rw [Expression.number, ExpressionTree.Mirrors, items_of_readOptionalArray hitems]
  exact ⟨field?_of_readString hname, hwritten, hchildren⟩
termination_by 2 * sizeOf v + 1
decreasing_by exact measure_below_lt ‹_›

theorem mirrors_readExpressions : (vs : List Json) → (path : String) → (i : Nat) →
    {es : List Expression} → readExpressions vs path i = .ok es → (n : NodeId) →
    ExpressionTree.MirrorsAll (Expression.numberAll es n).1 vs
  | [], _, _, _, h, _ => by
      rw [readExpressions] at h
      cases h
      trivial
  | v :: vs, path, i, _, h, n => by
      rw [readExpressions] at h
      obtain ⟨e, he, h⟩ := bind_eq_ok_iff.1 h
      obtain ⟨es, hes, h⟩ := bind_eq_ok_iff.1 h
      cases h
      rw [Expression.numberAll, ExpressionTree.MirrorsAll]
      exact ⟨mirrors_readExpression v _ he n, mirrors_readExpressions vs path (i + 1) hes _⟩
termination_by vs => 2 * sizeOf vs
decreasing_by
  · exact measure_head_lt ..
  · exact measure_tail_lt ..

end

theorem mirrorsField_readExpressionField {node : Json} {field context path : String}
    {e : Expression} (h : readExpressionField node field context path = .ok e) (n : NodeId) :
    (e.number n).1.MirrorsField node field := by
  unfold readExpressionField at h
  split at h
  · rename_i v hv
    exact ⟨v, hv, mirrors_readExpression v path h n⟩
  · cases h

theorem name_of_ofName? {name : String} {kind : AssignmentKind}
    (h : AssignmentKind.ofName? name = some kind) : kind.name = name := by
  unfold AssignmentKind.ofName? at h
  split at h <;> cases h <;> rfl

theorem name_of_conditionPhase? {name : String} {phase : Phase}
    (h : conditionPhase? name = some phase) {branches : List (Branch ExpressionTree RuleTree)}
    {otherwise : List RuleTree} : (Rule.condition phase branches otherwise).name = name := by
  unfold conditionPhase? at h
  split at h <;> cases h <;> rfl

/-- What `readSimpleRule?` reads is the rule that is written in the object. -/
theorem mirrors_readSimpleRule {name path : String} {v : Json} {reading : Reading RuleSyntax}
    (hname : v.field? "rule" = some (.string name))
    (h : readSimpleRule? name v path = some reading) {r : RuleSyntax} (hr : reading = .ok r)
    (p : Place) : (r.number p).1.Mirrors v := by
  unfold readSimpleRule? at h
  split at h
  · rename_i kind hkind
    obtain rfl := Option.some.inj h
    obtain ⟨x, hx, hr⟩ := bind_eq_ok_iff.1 hr
    obtain ⟨e, he, hr⟩ := bind_eq_ok_iff.1 hr
    cases hr
    rw [← name_of_ofName? hkind] at hname
    exact ⟨hname, field?_of_readString hx, mirrorsField_readExpressionField he _⟩
  · split at h
    · cases h
      cases hr
      exact hname
    · cases h
      cases hr
      exact hname
    · obtain rfl := Option.some.inj h
      obtain ⟨e, he, hr⟩ := bind_eq_ok_iff.1 hr
      cases hr
      exact ⟨hname, mirrorsField_readExpressionField he _⟩
    · cases h

mutual

/-- What `readRule` reads is the rule that is written in the object, whatever ids it gets. -/
theorem mirrors_readRule (v : Json) (path : String) {r : RuleSyntax}
    (h : readRule v path = .ok r) (p : Place) : (r.number p).1.Mirrors v := by
  rw [readRule] at h
  obtain ⟨name, hname, h⟩ := bind_eq_ok_iff.1 h
  have hfield := field?_of_readString hname
  dsimp only at h
  split at h
  · rename_i reading hreading
    exact mirrors_readSimpleRule hfield hreading h p
  · split at h
    · rename_i hfragment
      subst hfragment
      obtain ⟨⟨items, hle⟩, hitems, h⟩ := bind_eq_ok_iff.1 h
      obtain ⟨rules, hrules, h⟩ := bind_eq_ok_iff.1 h
      cases h
      have hbelow := mirrors_readRules items _ _ hrules p
      rw [← items_of_readArray hitems] at hbelow
      exact ⟨hfield, hbelow⟩
    · split at h
      · cases h
      · rename_i phase hphase
        obtain ⟨⟨items, hle⟩, hitems, h⟩ := bind_eq_ok_iff.1 h
        obtain ⟨branches, hbranches, h⟩ := bind_eq_ok_iff.1 h
        obtain ⟨⟨items', hle'⟩, hitems', h⟩ := bind_eq_ok_iff.1 h
        obtain ⟨otherwise, hotherwise, h⟩ := bind_eq_ok_iff.1 h
        cases h
        have hbelow := mirrors_readBranches items _ _ hbranches p
        have hafter := mirrors_readRules items' _ _ hotherwise
          (RuleSyntax.numberBranches branches p).2
        rw [← items_of_readArray hitems] at hbelow
        rw [← items_of_readOptionalArray hitems'] at hafter
        rw [← name_of_conditionPhase? hphase] at hfield
        exact ⟨hfield, hbelow, hafter⟩
termination_by 2 * sizeOf v + 1
decreasing_by
  · exact measure_below_lt ‹_›
  · exact measure_below_lt ‹_›
  · exact measure_below_lt ‹_›

theorem mirrors_readRules : (vs : List Json) → (path : String) → (i : Nat) →
    {rules : List RuleSyntax} → readRules vs path i = .ok rules → (p : Place) →
    RuleTree.MirrorsAll (RuleSyntax.numberAll rules p).1 vs
  | [], _, _, _, h, _ => by
      rw [readRules] at h
      cases h
      trivial
  | v :: vs, path, i, _, h, p => by
      rw [readRules] at h
      obtain ⟨r, hr, h⟩ := bind_eq_ok_iff.1 h
      obtain ⟨rules, hrules, h⟩ := bind_eq_ok_iff.1 h
      cases h
      rw [RuleSyntax.numberAll, RuleTree.MirrorsAll]
      exact ⟨mirrors_readRule v _ hr p, mirrors_readRules vs path (i + 1) hrules _⟩
termination_by vs => 2 * sizeOf vs
decreasing_by
  · exact measure_head_lt ..
  · exact measure_tail_lt ..

theorem mirrors_readBranches : (vs : List Json) → (path : String) → (i : Nat) →
    {branches : List (Branch Expression RuleSyntax)} → readBranches vs path i = .ok branches →
    (p : Place) → RuleTree.MirrorsBranches (RuleSyntax.numberBranches branches p).1 vs
  | [], _, _, _, h, _ => by
      rw [readBranches] at h
      cases h
      trivial
  | v :: vs, path, i, _, h, p => by
      rw [readBranches] at h
      obtain ⟨guard, hguard, h⟩ := bind_eq_ok_iff.1 h
      obtain ⟨⟨below, hle⟩, hitems, h⟩ := bind_eq_ok_iff.1 h
      obtain ⟨rules, hrules, h⟩ := bind_eq_ok_iff.1 h
      obtain ⟨branches, hbranches, h⟩ := bind_eq_ok_iff.1 h
      cases h
      have hbelow := mirrors_readRules below _ _ hrules (p.addExpression guard).2
      rw [← items_of_readOptionalArray hitems] at hbelow
      rw [RuleSyntax.numberBranches, RuleTree.MirrorsBranches]
      exact ⟨mirrorsField_readExpressionField hguard _, hbelow,
        mirrors_readBranches vs path (i + 1) hbranches _⟩
termination_by vs => 2 * sizeOf vs
decreasing_by
  · exact measure_below_head_lt ‹_›
  · exact measure_tail_lt ..

end

/-! ### Items -/

/-- The rules of an item are what `readRules` reads from its document, laid out one phase after the
other. -/
theorem ItemDocument.layout_of_item {d : ItemDocument} {item : Item} (h : d.item = .ok item) :
    ∃ template response l,
      readRules d.templateProcessing Phase.template.name 0 = .ok template ∧
        readRules d.responseProcessing Phase.response.name 0 = .ok response ∧
        RuleSyntax.layOutAll template .empty = (item.templateRules, l) ∧
        RuleSyntax.layOutAll response l = (item.responseRules, item.layout) := by
  rw [ItemDocument.item] at h
  obtain ⟨written, -, h⟩ := bind_eq_ok_iff.1 h
  obtain ⟨declarations, -, h⟩ := bind_eq_ok_iff.1 h
  obtain ⟨template, htemplate, h⟩ := bind_eq_ok_iff.1 h
  obtain ⟨response, hresponse, h⟩ := bind_eq_ok_iff.1 h
  cases h
  exact ⟨template, response, _, htemplate, hresponse, rfl, rfl⟩

/-- The `item` has the rules that are written in `d`. Unfolded from the roots of the two phases,
they come to every place of the arenas once; and the tables of parents lead from every place to the
rule or expression around it. -/
structure Item.Mirrors (item : Item) (d : ItemDocument) : Prop where
  template : RuleTree.MirrorsAll (item.ruleTrees .template) d.templateProcessing
  response : RuleTree.MirrorsAll (item.ruleTrees .response) d.responseProcessing
  ruleIds_eq : RuleTree.allRuleIds (item.ruleTrees .template ++ item.ruleTrees .response) =
    List.range item.layout.rules.size
  expressionIds_eq :
    RuleTree.allExpressionIds (item.ruleTrees .template ++ item.ruleTrees .response) =
      List.range item.layout.expressions.size
  rules_size : item.layout.rules.size =
    ((d.templateProcessing ++ d.responseProcessing).map ruleCount).sum
  expressions_size : item.layout.expressions.size =
    ((d.templateProcessing ++ d.responseProcessing).map ruleExpressionCount).sum
  wellParented : item.layout.WellParented
  roots : ∀ phase, ∀ id ∈ item.roots phase, item.layout.rules.parent? id = none

end AssessmentItem
