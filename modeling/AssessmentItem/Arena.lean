/-!
# Arenas

An arena holds the nodes of a forest.  A node is known by its place in the arena, its id; nodes
name their children by id, and a table beside them holds the parent of each node.  Nothing keeps
a table of parents from being cyclic, so a chain of ancestors is cut off once it is longer than
the arena.

## Main definitions

* `Arena` : nodes with their parents.
* `Arena.push`, `Arena.setParent` : growth and the table of parents.
* `Arena.ancestors` : a node, its parent, the parent of that one, and so on.

## Main results

* `Arena.length_ancestors_le` : a chain of ancestors has at most one entry more than the arena.
-/

namespace AssessmentItem

/-- The place of a node in an arena.  It is not bounded, whatever the width of an index on a
machine. -/
abbrev NodeId := Nat

/-- The text of an id in messages, such as `#3`. -/
def NodeId.text (id : NodeId) : String := "#" ++ toString id

/-- A `node` with its `parent`, which is noted when the parent is added. -/
structure Arena.Slot (α : Type) where
  node : α
  parent : Option NodeId

/-- The nodes of a forest with their parents.  A `NodeId` is an index into `slots`. -/
structure Arena (α : Type) where
  slots : Array (Arena.Slot α)

namespace Arena

variable {α : Type}

/-- The arena without nodes. -/
def empty : Arena α := ⟨#[]⟩

/-- The number of nodes, which is also the id of the next one. -/
def size (a : Arena α) : Nat := a.slots.size

/-- The node with the given `id`. -/
def get? (a : Arena α) (id : NodeId) : Option α := a.slots[id]?.map (·.node)

/-- The nodes in the order of their ids, without their parents. -/
def nodes (a : Arena α) : List α := a.slots.toList.map (·.node)

/-- The parent of the node `id`; a root has none. -/
def parent? (a : Arena α) (id : NodeId) : Option NodeId := a.slots[id]?.bind (·.parent)

/-- Notes `parent` as the parent of `child`; an id without a node changes nothing. -/
def setParent (a : Arena α) (child parent : NodeId) : Arena α :=
  ⟨a.slots.modify child fun slot ↦ ⟨slot.node, some parent⟩⟩

/-- Adds `node` above the given `children`.  The new node has the next id, and its children get it
as their parent. -/
def push (a : Arena α) (node : α) (children : List NodeId) : NodeId × Arena α :=
  let id := a.size
  let grown : Arena α := ⟨a.slots.push ⟨node, none⟩⟩
  (id, children.foldl (fun a child ↦ a.setParent child id) grown)

/-- The chain of at most `n` parents above a node, with the node in front. -/
def climb (a : Arena α) : Nat → NodeId → List NodeId
  | 0, id => [id]
  | n + 1, id =>
    match a.parent? id with
    | some parent => id :: climb a n parent
    | none => [id]

/-- A node, its parent, the parent of that one, and so on.  The walk stops after `size` steps, so it
ends where parents form a cycle. -/
def ancestors (a : Arena α) (id : NodeId) : List NodeId := a.climb a.size id

/-! ### Small laws -/

theorem length_climb_le (a : Arena α) (n : Nat) (id : NodeId) : (a.climb n id).length ≤ n + 1 := by
  induction n generalizing id with
  | zero => simp [climb]
  | succ n ih =>
    simp only [climb]
    split
    · simpa using ih _
    · simp

/-- A chain of `ancestors` has at most one entry more than the arena. -/
theorem length_ancestors_le (a : Arena α) (id : NodeId) :
    (a.ancestors id).length ≤ a.size + 1 :=
  a.length_climb_le _ _

end Arena

end AssessmentItem
