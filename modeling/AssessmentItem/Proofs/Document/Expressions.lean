import AssessmentItem.Proofs.Arena.Ancestors
import AssessmentItem.Proofs.Document.Trees

/-!
# The expressions of a document

The expressions of a document are laid out one after the other in one arena, those of rules like
those of conditions.  So every node of the arena is the top of an expression that has been laid out
there, the tree below it has every one of its ids once, and what the table of parents names as the
parent of a node has the node among its children.

## Main definitions

* `Arena.Housed` : the parent of a node has it among its children.
* `Arena.LaidOut` : an arena has grown by whole expressions.

## Main results

* `Arena.LaidOut.parent?_eq_some_iff` : the table of parents and the lists of children agree.
* `Arena.LaidOut.expressionTree_eq` : every node unfolds to a numbered expression.
* `ItemDocument.laidOut_of_item` : the arena of an item has grown by whole expressions from nothing.
-/

namespace AssessmentItem

/-! ### Parents that know their children -/

namespace Arena

variable {α : Type} {a : Arena α} {children : α → List NodeId} {node : α}

/-- What is named as the `parent?` of a node has the node among its `children`. -/
def Housed (children : α → List NodeId) (a : Arena α) : Prop :=
  ∀ child id, a.parent? child = some id → ∃ node, a.get? id = some node ∧ child ∈ children node

theorem housed_empty : Housed children empty := nofun

/-- A new `node` becomes the parent of its own children alone. -/
theorem Housed.push (h : a.Housed children) (earlier : ∀ child ∈ children node, child < a.size) :
    (a.push node (children node)).2.Housed children := by
  intro child id hparent
  have hchild := lt_size_of_parent? hparent
  rw [size_push] at hchild
  rcases Nat.lt_or_eq_of_le (Nat.le_of_lt_succ hchild) with hlt | rfl
  · rw [parent?_push _ _ _ hlt] at hparent
    split at hparent
    · rename_i hmem
      obtain rfl := Option.some.inj hparent
      exact ⟨node, a.get?_push_self node _, hmem⟩
    · obtain ⟨node', hget, hmem⟩ := h child id hparent
      exact ⟨node', (a.get?_push_of_lt node _ (lt_size_of_get? hget)).trans hget, hmem⟩
  · rw [parent?_push_self _ _ _ fun hmem ↦ Nat.lt_irrefl _ (earlier _ hmem)] at hparent
    nomatch hparent

end Arena

namespace Expression

mutual

theorem housed_layOut : (e : Expression) → (a : Arena ExpressionNode) →
    a.Housed ExpressionNode.children → (e.layOut a).2.Housed ExpressionNode.children
  | node kind children, a, h => by
      have hroots := (grown_layOutAll children a).roots
      rw [layOut]
      exact (housed_layOutAll children a h).push fun child hchild ↦ (hroots child hchild).2.1

theorem housed_layOutAll : (es : List Expression) → (a : Arena ExpressionNode) →
    a.Housed ExpressionNode.children → (layOutAll es a).2.Housed ExpressionNode.children
  | [], _, h => h
  | e :: es, a, h => by
      rw [layOutAll]
      exact housed_layOutAll es _ (housed_layOut e a h)

end

/-! ### Expressions below expressions -/

mutual

/-- Every id that `layOut` takes up is the one of an expression below `e`. -/
theorem exists_layOut : (e : Expression) → (a : Arena ExpressionNode) → (id : NodeId) →
    a.size ≤ id → id < (e.layOut a).2.size →
    ∃ (e' : Expression) (a' : Arena ExpressionNode),
      (e'.layOut a').1 = id ∧ (e'.layOut a').2.Extends (e.layOut a).2
  | node kind children, a, id, hle, hlt => by
      have hpush : ((node kind children).layOut a).2 =
          ((layOutAll children a).2.push ⟨kind, (layOutAll children a).1⟩
            (layOutAll children a).1).2 := by
        rw [layOut]
      have hsize := hlt
      rw [hpush, Arena.size_push] at hsize
      rcases Nat.lt_or_eq_of_le (Nat.le_of_lt_succ hsize) with hbelow | rfl
      · obtain ⟨e', a', hid, hextends⟩ := exists_layOutAll children a id hle hbelow
        refine ⟨e', a', hid, hextends.trans ?_⟩
        rw [hpush]
        exact Arena.extends_push _ _ _
      · refine ⟨node kind children, a, ?_, .refl _⟩
        rw [layOut, Arena.push_fst]

theorem exists_layOutAll : (es : List Expression) → (a : Arena ExpressionNode) → (id : NodeId) →
    a.size ≤ id → id < (layOutAll es a).2.size →
    ∃ (e' : Expression) (a' : Arena ExpressionNode),
      (e'.layOut a').1 = id ∧ (e'.layOut a').2.Extends (layOutAll es a).2
  | [], _, _, hle, hlt => absurd hlt (Nat.not_lt.2 hle)
  | e :: es, a, id, hle, hlt => by
      rw [layOutAll] at hlt ⊢
      rcases Nat.lt_or_ge id (e.layOut a).2.size with hhead | htail
      · obtain ⟨e', a', hid, hextends⟩ := exists_layOut e a id hle hhead
        exact ⟨e', a', hid, hextends.trans (grown_layOutAll es _).extension⟩
      · exact exists_layOutAll es (e.layOut a).2 id htail hlt

end

theorem layOutAll_append (es es' : List Expression) (a : Arena ExpressionNode) :
    (layOutAll (es ++ es') a).2 = (layOutAll es' (layOutAll es a).2).2 := by
  induction es generalizing a with
  | nil => rfl
  | cons e es ih => exact ih (e.layOut a).2

end Expression

/-! ### Arenas of whole expressions -/

namespace Arena

/-- The arena `a'` is `a` with expressions laid out in it. -/
def LaidOut (a a' : Arena ExpressionNode) : Prop := ∃ es, a' = (Expression.layOutAll es a).2

namespace LaidOut

variable {a a' a'' : Arena ExpressionNode}

theorem refl (a : Arena ExpressionNode) : a.LaidOut a := ⟨[], rfl⟩

theorem trans (h : a.LaidOut a') (h' : a'.LaidOut a'') : a.LaidOut a'' := by
  obtain ⟨es, rfl⟩ := h
  obtain ⟨es', rfl⟩ := h'
  exact ⟨es ++ es', (Expression.layOutAll_append es es' a).symm⟩

theorem layOut (e : Expression) (a : Arena ExpressionNode) : a.LaidOut (e.layOut a).2 := ⟨[e], rfl⟩

variable (h : Arena.empty.LaidOut a) {id child : NodeId}
include h

/-- The table of parents and the lists of `children` say the same. -/
theorem parent?_eq_some_iff :
    a.parent? child = some id ↔ ∃ node, a.get? id = some node ∧ child ∈ node.children := by
  obtain ⟨es, rfl⟩ := h
  constructor
  · exact Expression.housed_layOutAll es .empty housed_empty child id
  · rintro ⟨node, hget, hmem⟩
    exact ((Expression.grown_layOutAll es .empty).wellParented wellParented_empty id node hget
      child hmem).2

/-- Children stand in front of their parents. -/
theorem acyclic : a.Acyclic := by
  obtain ⟨es, rfl⟩ := h
  refine acyclic_of_lt fun child parent hparent ↦ ?_
  obtain ⟨node, hget, hmem⟩ := Expression.housed_layOutAll es .empty housed_empty _ _ hparent
  exact ((Expression.grown_layOutAll es .empty).wellParented wellParented_empty parent node hget
    child hmem).1

/-- Below every node there is an expression, and the tree has the ids that `number` gives it. -/
theorem expressionTree_eq (hid : id < a.size) : ∃ (e : Expression) (n : NodeId),
    a.expressionTree id = (e.number n).1 := by
  obtain ⟨es, rfl⟩ := h
  obtain ⟨e, a', rfl, hextends⟩ := Expression.exists_layOutAll es .empty id (Nat.zero_le _) hid
  exact ⟨e, a'.size, (e.unfold_layOut a').2 _ hextends _ hid⟩

end LaidOut

end Arena

/-! ### The arena of an item -/

namespace RuleSyntax

mutual

/-- A rule adds its expressions to the arena as `LaidOut` says, and nothing else. -/
theorem laidOut_layOut : (r : RuleSyntax) → (l : Layout) →
    l.expressions.LaidOut (r.layOut l).2.expressions
  | node (.condition phase branches otherwise), l => by
      rw [layOut]
      exact (laidOut_layOutBranches branches l).trans (laidOut_layOutAll otherwise _)
  | node (.assign kind identifier value), l => by
      rw [layOut]
      exact .layOut value l.expressions
  | node (.exit phase), l => .refl _
  | node (.constraint condition), l => by
      rw [layOut]
      exact .layOut condition l.expressions
  | node (.fragment rules), l => by
      rw [layOut]
      exact laidOut_layOutAll rules l

theorem laidOut_layOutAll : (rules : List RuleSyntax) → (l : Layout) →
    l.expressions.LaidOut (layOutAll rules l).2.expressions
  | [], l => .refl _
  | rule :: rules, l => by
      rw [layOutAll]
      exact (laidOut_layOut rule l).trans (laidOut_layOutAll rules _)

theorem laidOut_layOutBranches : (branches : List (Branch Expression RuleSyntax)) →
    (l : Layout) → l.expressions.LaidOut (layOutBranches branches l).2.expressions
  | [], l => .refl _
  | ⟨guard, rules⟩ :: branches, l => by
      have hguard : l.expressions.LaidOut (l.addExpression guard).2.expressions :=
        .layOut guard l.expressions
      rw [layOutBranches]
      exact (hguard.trans (laidOut_layOutAll rules _)).trans (laidOut_layOutBranches branches _)

end

end RuleSyntax

/-- The arena of an item is `LaidOut` from `Arena.empty`. -/
theorem ItemDocument.laidOut_of_item {d : ItemDocument} {item : Item} (h : d.item = .ok item) :
    Arena.empty.LaidOut item.layout.expressions := by
  obtain ⟨template, response, l, -, -, htemplate, hresponse⟩ := layout_of_item h
  have hfirst := RuleSyntax.laidOut_layOutAll template .empty
  have hsecond := RuleSyntax.laidOut_layOutAll response l
  rw [htemplate] at hfirst
  rw [hresponse] at hsecond
  exact hfirst.trans hsecond

end AssessmentItem
