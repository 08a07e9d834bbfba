import AssessmentItem.Expression.Basic
import AssessmentItem.Proofs.Arena

/-!
# Expressions in an arena

An expression that is laid out takes up the ids from the size of the arena on: those of its
children from left to right, then its own.  Unfolding gives the expression again, with these ids at
its nodes, and does so in every later arena.

## Main definitions

* `Expression.number` : an expression with consecutive ids at its nodes.
* `ExpressionTree.ids` : the ids of a tree in the order in which they are given.

## Main results

* `Expression.range_append_ids` : the ids of a numbered expression are consecutive.
* `Expression.grown_layOut` : how an arena grows by an expression.
* `Expression.unfold_layOut` : an expression that is laid out unfolds to the numbered one.
-/

namespace AssessmentItem

/-! ### Numbers -/

namespace Expression

mutual

/-- An expression with ids from `n` on, which its children get before the node; and the id that
comes next. -/
def number : Expression → NodeId → ExpressionTree × NodeId
  | node kind children, n =>
    let (trees, n) := numberAll children n
    (.node n kind trees, n + 1)

/-- Expressions with ids from `n` on, from left to right. -/
def numberAll : List Expression → NodeId → List ExpressionTree × NodeId
  | [], n => ([], n)
  | e :: es, n =>
    let (tree, n) := number e n
    let (trees, n) := numberAll es n
    (tree :: trees, n)

end

end Expression

namespace ExpressionTree

mutual

/-- The ids of the nodes of a tree, children before their parents. -/
def ids : ExpressionTree → List NodeId
  | missing _ => []
  | node id _ children => idsAll children ++ [id]

/-- The ids of the nodes of trees, from left to right. -/
def idsAll : List ExpressionTree → List NodeId
  | [] => []
  | tree :: trees => ids tree ++ idsAll trees

end

end ExpressionTree

namespace Expression

mutual

/-- The ids that `number` gives are the next ones, each once. -/
theorem range_append_ids : (e : Expression) → (n : NodeId) →
    List.range n ++ (e.number n).1.ids = List.range (e.number n).2
  | node kind children, n => by
      rw [number, ExpressionTree.ids, ← List.append_assoc, range_append_idsAll children n,
        List.range_succ]

theorem range_append_idsAll : (es : List Expression) → (n : NodeId) →
    List.range n ++ ExpressionTree.idsAll (numberAll es n).1 = List.range (numberAll es n).2
  | [], n => List.append_nil _
  | e :: es, n => by
      rw [numberAll, ExpressionTree.idsAll, ← List.append_assoc, range_append_ids e n,
        range_append_idsAll es]

end

/-! ### Growth -/

mutual

/-- An arena has `Grown` by an expression that is laid out, whose top is the only new root. -/
theorem grown_layOut : (e : Expression) → (a : Arena ExpressionNode) →
    a.Grown ExpressionNode.children (e.layOut a).2 [(e.layOut a).1]
  | node kind children, a => by
      rw [layOut]
      exact (grown_layOutAll children a).push

theorem grown_layOutAll : (es : List Expression) → (a : Arena ExpressionNode) →
    a.Grown ExpressionNode.children (layOutAll es a).2 (layOutAll es a).1
  | [], a => .refl a
  | e :: es, a => by
      rw [layOutAll]
      exact (grown_layOut e a).trans (grown_layOutAll es _)

end

/-! ### Unfolding -/

mutual

/-- What `layOut` lays out gets the ids from the size of the arena on, and every later arena unfolds
it with these ids. -/
theorem unfold_layOut : (e : Expression) → (a : Arena ExpressionNode) →
    (e.layOut a).2.size = (e.number a.size).2 ∧
      ∀ later, (e.layOut a).2.Extends later → ∀ fuel, (e.layOut a).1 < fuel →
        later.unfoldExpression fuel (e.layOut a).1 = (e.number a.size).1
  | node kind children, a => by
      obtain ⟨hsize, hchildren⟩ := unfold_layOutAll children a
      have hgrown := grown_layOutAll children a
      rw [layOut, number]
      refine ⟨?_, fun later hlater fuel hfuel ↦ ?_⟩
      · rw [Arena.size_push, hsize]
      · have hnode := (hlater.get?_eq (layOutAll children a).2.size (by simp)).trans
          ((layOutAll children a).2.get?_push_self _ _)
        have hearlier := ((layOutAll children a).2.extends_push _ _).trans hlater
        rw [Arena.push_fst] at hfuel ⊢
        obtain ⟨more, rfl⟩ := Nat.exists_eq_add_of_lt hfuel
        -- The children stand in front of the node, so what is left of the fuel is enough for them.
        have hbelow : ∀ id ∈ (layOutAll children a).1,
            id < (layOutAll children a).2.size + more := fun id hid ↦
          Nat.lt_add_right more (hgrown.roots id hid).2.1
        rw [Arena.unfoldExpression, hnode]
        dsimp only
        rw [hchildren later hearlier _ hbelow, hsize]

theorem unfold_layOutAll : (es : List Expression) → (a : Arena ExpressionNode) →
    (layOutAll es a).2.size = (numberAll es a.size).2 ∧
      ∀ later, (layOutAll es a).2.Extends later → ∀ fuel, (∀ id ∈ (layOutAll es a).1, id < fuel) →
        (layOutAll es a).1.map (later.unfoldExpression fuel) = (numberAll es a.size).1
  | [], a => ⟨rfl, fun _ _ _ _ ↦ rfl⟩
  | e :: es, a => by
      obtain ⟨hsize, htree⟩ := unfold_layOut e a
      obtain ⟨hsizes, htrees⟩ := unfold_layOutAll es (e.layOut a).2
      have hgrown := grown_layOutAll es (e.layOut a).2
      rw [layOutAll, numberAll]
      rw [hsize] at hsizes htrees
      refine ⟨hsizes, fun later hlater fuel hfuel ↦ ?_⟩
      obtain ⟨hhead, htail⟩ := List.forall_mem_cons.1 hfuel
      rw [List.map_cons, htree later (hgrown.extension.trans hlater) fuel hhead,
        htrees later hlater fuel htail]

end

end Expression

end AssessmentItem
