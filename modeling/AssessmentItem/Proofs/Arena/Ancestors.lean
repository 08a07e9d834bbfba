import Mathlib.Data.List.Perm.Subperm
import Mathlib.Logic.Relation
import AssessmentItem.Arena

/-!
# Ancestors

A chain of ancestors follows the table of parents until a node has none, or until it is cut off.
What is cut off has one entry more than there are nodes, and every entry has a parent, so it is a
node of the arena.  Then some node stands in it twice and the table is cyclic.  On an acyclic table
the chain of ancestors is therefore the whole one.

## Main definitions

* `Arena.Below` : a node has another one among its ancestors.
* `Arena.Acyclic` : no node is among its own ancestors.
* `Arena.Lineage` : the whole chain from a node to its root.

## Main results

* `Arena.isChain_climb` : a chain of ancestors follows the table of parents.
* `Arena.lineage_ancestors` : on an acyclic table no chain of ancestors is cut off.
-/

namespace AssessmentItem.Arena

variable {α : Type} {a : Arena α} {id : NodeId} {chain : List NodeId}

/-- A node has another one as its `parent?`, or as the parent of its parent, and so on. -/
def Below (a : Arena α) : NodeId → NodeId → Prop :=
  Relation.TransGen fun child parent ↦ a.parent? child = some parent

/-- No node is `Below` itself. -/
def Acyclic (a : Arena α) : Prop := ∀ id, ¬a.Below id id

/-- The whole chain from a node to its root: every entry has the next one as its `parent?`, and the
last one has none. -/
inductive Lineage (a : Arena α) : NodeId → List NodeId → Prop
  | root {id : NodeId} (h : a.parent? id = none) : Lineage a id [id]
  | child {id parent : NodeId} {chain : List NodeId} (h : a.parent? id = some parent)
      (above : Lineage a parent chain) : Lineage a id (id :: chain)

/-- What has a parent is a node of the arena. -/
theorem lt_size_of_parent? {parent : NodeId} (h : a.parent? id = some parent) : id < a.size := by
  obtain ⟨slot, hslot, -⟩ := Option.bind_eq_some_iff.1 h
  exact (Array.getElem?_eq_some_iff.1 hslot).1

theorem exists_get? (h : id < a.size) : ∃ node, a.get? id = some node := by
  rw [get?, Array.getElem?_eq_getElem h]
  exact ⟨_, rfl⟩

/-! ### Chains that are cut off -/

/-- A chain of at most `n` parents is the whole one, or it has been cut off at a node that has a
parent. -/
theorem lineage_climb_or (a : Arena α) (n : Nat) (id : NodeId) :
    a.Lineage id (a.climb n id) ∨
      (a.climb n id).length = n + 1 ∧ ∀ i ∈ a.climb n id, i < a.size := by
  induction n generalizing id with
  | zero =>
    cases h : a.parent? id with
    | none => exact .inl (.root h)
    | some parent => exact .inr ⟨rfl, List.forall_mem_singleton.2 (lt_size_of_parent? h)⟩
  | succ n ih =>
    cases h : a.parent? id with
    | none =>
      rw [climb, h]
      exact .inl (.root h)
    | some parent =>
      rw [climb, h]
      rcases ih parent with hwhole | ⟨hlength, hnodes⟩
      · exact .inl (.child h hwhole)
      · exact .inr ⟨congrArg (· + 1) hlength,
          List.forall_mem_cons.2 ⟨lt_size_of_parent? h, hnodes⟩⟩

theorem exists_climb_eq_cons (a : Arena α) (n : Nat) (id : NodeId) :
    ∃ above, a.climb n id = id :: above := by
  cases n with
  | zero => exact ⟨[], rfl⟩
  | succ n =>
    rw [climb]
    split <;> exact ⟨_, rfl⟩

/-- The chain `a.climb n id` follows the table of parents, cut off or not. -/
theorem isChain_climb (a : Arena α) (n : Nat) (id : NodeId) :
    (a.climb n id).IsChain fun child parent ↦ a.parent? child = some parent := by
  induction n generalizing id with
  | zero => exact .singleton id
  | succ n ih =>
    rw [climb]
    split
    · rename_i parent hparent
      have hchain := ih parent
      obtain ⟨above, habove⟩ := a.exists_climb_eq_cons n parent
      rw [habove] at hchain ⊢
      exact hchain.cons_cons hparent
    · exact .singleton id

/-- Of two entries of `a.climb n id` the earlier one is `Below` the later one. -/
theorem pairwise_climb (a : Arena α) (n : Nat) (id : NodeId) :
    (a.climb n id).Pairwise a.Below := by
  have : Trans a.Below a.Below a.Below := ⟨.trans⟩
  have hchain : (a.climb n id).IsChain a.Below :=
    (a.isChain_climb n id).imp fun _ _ hparent ↦ .single hparent
  exact hchain.pairwise

theorem Acyclic.nodup_climb (h : a.Acyclic) (n : Nat) (id : NodeId) :
    (a.climb n id).Nodup := by
  refine (a.pairwise_climb n id).imp fun hbelow heq ↦ ?_
  rw [heq] at hbelow
  exact h _ hbelow

/-- On an `Acyclic` table the `ancestors` of a node are the whole chain to its root. -/
theorem lineage_ancestors (h : a.Acyclic) (id : NodeId) : a.Lineage id (a.ancestors id) := by
  rcases a.lineage_climb_or a.size id with hwhole | ⟨hlength, hnodes⟩
  · exact hwhole
  · -- a chain that is cut off has more entries than there are nodes
    have hsub : a.climb a.size id ⊆ List.range a.size := fun i hi ↦ List.mem_range.2 (hnodes i hi)
    have hle := ((h.nodup_climb a.size id).subperm hsub).length_le
    rw [hlength, List.length_range] at hle
    exact absurd hle (Nat.not_succ_le_self _)

/-- A table in which every parent has a greater id than its child is `Acyclic`. -/
theorem acyclic_of_lt (h : ∀ child parent, a.parent? child = some parent → child < parent) :
    a.Acyclic := by
  have hlt : ∀ i j, a.Below i j → i < j := by
    intro i j hbelow
    induction hbelow with
    | single hparent => exact h _ _ hparent
    | tail _ hparent ih => exact Nat.lt_trans ih (h _ _ hparent)
  exact fun id hbelow ↦ Nat.lt_irrefl _ (hlt id id hbelow)

end AssessmentItem.Arena
