import AssessmentItem.Arena

/-!
# Growing arenas

A node is added to an arena behind its children, which had no parent before.  So the nodes that are
there stay what they are, every child stands in front of its parent, and the table of parents names
for every child the one node that it is a child of.  A node that has been added last and not been
made a child of another one is a root: it has no parent.

## Main definitions

* `Arena.Extends` : an arena has the nodes of another one, and perhaps more.
* `Arena.WellParented` : children stand in front of their parents, which the table names.
* `Arena.Grown` : an arena that has grown by nodes below some roots.

## Main results

* `Arena.parent?_push` : the parents after a node is added.
* `Arena.WellParented.push` : a node above roots keeps children and parents in order.
* `Arena.Grown.push` : an arena that has grown by some roots grows by a node above them.
-/

namespace AssessmentItem.Arena

variable {α : Type} {a a' a'' : Arena α} {id child : NodeId} {node : α} {ids ids' : List NodeId}

/-! ### One node more -/

theorem lt_size_of_get? (h : a.get? id = some node) : id < a.size := by
  obtain ⟨slot, hslot, -⟩ := Option.map_eq_some_iff.1 h
  exact (Array.getElem?_eq_some_iff.1 hslot).1

@[simp] theorem size_setParent (a : Arena α) (child parent : NodeId) :
    (a.setParent child parent).size = a.size :=
  Array.size_modify

theorem get?_setParent (a : Arena α) (child parent id : NodeId) :
    (a.setParent child parent).get? id = a.get? id := by
  rw [get?, setParent, Array.getElem?_modify, get?]
  split
  · cases a.slots[id]? <;> rfl
  · rfl

theorem parent?_setParent (a : Arena α) (child parent id : NodeId) :
    (a.setParent child parent).parent? id =
      if child = id ∧ id < a.size then some parent else a.parent? id := by
  rw [parent?, setParent, Array.getElem?_modify, parent?]
  by_cases hchild : child = id
  · by_cases hid : id < a.size
    · rw [if_pos hchild, if_pos ⟨hchild, hid⟩, Array.getElem?_eq_getElem hid]
      rfl
    · rw [if_pos hchild, if_neg fun h ↦ hid h.2, Array.getElem?_eq_none (Nat.not_lt.1 hid)]
      rfl
  · rw [if_neg hchild, if_neg fun h ↦ hchild h.1]

/-- The children `ids` have `parent` as their parent after `setParent` of each. -/
theorem parent?_foldl_setParent (parent id : NodeId) :
    (ids : List NodeId) → (a : Arena α) →
    let a' := ids.foldl (fun a child ↦ a.setParent child parent) a
    a'.size = a.size ∧ a'.get? id = a.get? id ∧
      a'.parent? id = if id ∈ ids ∧ id < a.size then some parent else a.parent? id
  | [], a => by simp
  | child :: ids, a => by
      obtain ⟨hsize, hget, hparent⟩ :=
        parent?_foldl_setParent parent id ids (a.setParent child parent)
      refine ⟨hsize.trans (a.size_setParent child parent),
        hget.trans (a.get?_setParent child parent id), hparent.trans ?_⟩
      rw [size_setParent, parent?_setParent]
      by_cases hid : id < a.size
      · by_cases hchild : child = id
        · simp [hid, hchild]
        · have hne : id ≠ child := Ne.symm hchild
          simp [hid, hchild, hne]
      · simp [hid]

section Push

variable (a node ids)

@[simp] theorem push_fst : (a.push node ids).1 = a.size := rfl

@[simp] theorem size_push : (a.push node ids).2.size = a.size + 1 := by
  have hsize := (parent?_foldl_setParent a.size a.size ids ⟨a.slots.push ⟨node, none⟩⟩).1
  exact hsize.trans (Array.size_push _)

theorem get?_push_self : (a.push node ids).2.get? a.size = some node := by
  have hget := (parent?_foldl_setParent a.size a.size ids ⟨a.slots.push ⟨node, none⟩⟩).2.1
  refine hget.trans ?_
  rw [get?, size, Array.getElem?_push_size]
  rfl

theorem get?_push_of_lt (h : id < a.size) : (a.push node ids).2.get? id = a.get? id := by
  have hget := (parent?_foldl_setParent a.size id ids ⟨a.slots.push ⟨node, none⟩⟩).2.1
  refine hget.trans ?_
  rw [get?, get?, Array.getElem?_push_lt h, Array.getElem?_eq_getElem h]

/-- The children `ids` of the new node have it as their parent, the other nodes the one they had. -/
theorem parent?_push (h : id < a.size) :
    (a.push node ids).2.parent? id = if id ∈ ids then some a.size else a.parent? id := by
  have hparent := (parent?_foldl_setParent a.size id ids ⟨a.slots.push ⟨node, none⟩⟩).2.2
  have hlt : id < (⟨a.slots.push ⟨node, none⟩⟩ : Arena α).size := by
    rw [size, Array.size_push]
    exact Nat.lt_succ_of_lt h
  refine hparent.trans ?_
  rw [parent?, parent?, Array.getElem?_push_lt h, Array.getElem?_eq_getElem h]
  simp only [hlt, and_true]

theorem parent?_push_self (h : a.size ∉ ids) : (a.push node ids).2.parent? a.size = none := by
  have hparent := (parent?_foldl_setParent a.size a.size ids ⟨a.slots.push ⟨node, none⟩⟩).2.2
  refine hparent.trans ?_
  rw [if_neg fun hmem ↦ h hmem.1, parent?, size, Array.getElem?_push_size]
  rfl

end Push

/-! ### More nodes -/

/-- The arena `a'` has the nodes of `a` in their places, and perhaps more behind them. -/
structure Extends (a a' : Arena α) : Prop where
  size_le : a.size ≤ a'.size
  get?_eq : ∀ id < a.size, a'.get? id = a.get? id

theorem Extends.refl (a : Arena α) : a.Extends a := ⟨Nat.le_refl _, fun _ _ ↦ rfl⟩

theorem Extends.trans (h : a.Extends a') (h' : a'.Extends a'') : a.Extends a'' where
  size_le := Nat.le_trans h.size_le h'.size_le
  get?_eq id hid := (h'.get?_eq id (Nat.lt_of_lt_of_le hid h.size_le)).trans (h.get?_eq id hid)

theorem extends_push (a : Arena α) (node : α) (ids : List NodeId) :
    a.Extends (a.push node ids).2 where
  size_le := by
    rw [size_push]
    exact Nat.le_succ _
  get?_eq _ hid := a.get?_push_of_lt node ids hid

/-! ### Children and parents -/

section Parents

variable {children : α → List NodeId}

/-- Every child stands in front of its parent, and `parent?` names it. -/
def WellParented (children : α → List NodeId) (a : Arena α) : Prop :=
  ∀ id node, a.get? id = some node → ∀ child ∈ children node,
    child < id ∧ a.parent? child = some id

theorem wellParented_empty : WellParented children empty := nofun

/-- A node whose children have no parent yet keeps an arena `WellParented`. -/
theorem WellParented.push (h : a.WellParented children)
    (roots : ∀ child ∈ children node, child < a.size ∧ a.parent? child = none) :
    (a.push node (children node)).2.WellParented children := by
  intro id node' hget child hchild
  have hid : id < a.size + 1 := by
    have hlt := lt_size_of_get? hget
    rwa [size_push] at hlt
  rcases Nat.lt_or_eq_of_le (Nat.le_of_lt_succ hid) with hlt | rfl
  · rw [get?_push_of_lt _ _ _ hlt] at hget
    obtain ⟨hbelow, hparent⟩ := h id node' hget child hchild
    have hnew : child ∉ children node := by
      intro hmem
      rw [(roots child hmem).2] at hparent
      cases hparent
    refine ⟨hbelow, ?_⟩
    rw [parent?_push _ _ _ (Nat.lt_trans hbelow hlt), if_neg hnew, hparent]
  · rw [get?_push_self] at hget
    obtain rfl := Option.some.inj hget
    have hbelow := (roots child hchild).1
    refine ⟨hbelow, ?_⟩
    rw [parent?_push _ _ _ hbelow, if_pos hchild]

/-- The arena `a'` has grown from `a` by nodes, of which `roots` are roots; what was there before
has kept its parents. -/
structure Grown (children : α → List NodeId) (a a' : Arena α) (roots : List NodeId) : Prop where
  extension : a.Extends a'
  parent?_eq : ∀ id < a.size, a'.parent? id = a.parent? id
  roots : ∀ id ∈ roots, a.size ≤ id ∧ id < a'.size ∧ a'.parent? id = none
  wellParented : a.WellParented children → a'.WellParented children

namespace Grown

theorem refl (a : Arena α) : a.Grown children a [] := ⟨.refl a, fun _ _ ↦ rfl, nofun, fun h ↦ h⟩

theorem mono (h : a.Grown children a' ids) (hids : ∀ id ∈ ids', id ∈ ids) :
    a.Grown children a' ids' :=
  { h with roots := fun id hid ↦ h.roots id (hids id hid) }

/-- The roots of a first growth stay `roots` in a second one. -/
theorem trans (h : a.Grown children a' ids) (h' : a'.Grown children a'' ids') :
    a.Grown children a'' (ids ++ ids') where
  extension := h.extension.trans h'.extension
  parent?_eq id hid :=
    (h'.parent?_eq id (Nat.lt_of_lt_of_le hid h.extension.size_le)).trans (h.parent?_eq id hid)
  roots id hid := by
    rcases List.mem_append.1 hid with hid | hid
    · obtain ⟨hle, hlt, hparent⟩ := h.roots id hid
      exact ⟨hle, Nat.lt_of_lt_of_le hlt h'.extension.size_le, (h'.parent?_eq id hlt).trans hparent⟩
    · obtain ⟨hle, hlt, hparent⟩ := h'.roots id hid
      exact ⟨Nat.le_trans h.extension.size_le hle, hlt, hparent⟩
  wellParented hw := h'.wellParented (h.wellParented hw)

/-- A `node` is put above the roots, and is the only root then. -/
theorem push (h : a.Grown children a' (children node)) :
    a.Grown children (a'.push node (children node)).2 [a'.size] where
  extension := h.extension.trans (a'.extends_push node _)
  parent?_eq id hid := by
    have hnew : id ∉ children node := fun hmem ↦ Nat.not_le.2 hid (h.roots id hmem).1
    rw [parent?_push _ _ _ (Nat.lt_of_lt_of_le hid h.extension.size_le), if_neg hnew,
      h.parent?_eq id hid]
  roots id hid := by
    obtain rfl := List.mem_singleton.1 hid
    refine ⟨h.extension.size_le, ?_, a'.parent?_push_self node _ fun hmem ↦ ?_⟩
    · rw [size_push]
      exact Nat.lt_succ_self _
    · exact Nat.lt_irrefl _ (h.roots _ hmem).2.1
  wellParented hw := (h.wellParented hw).push fun child hchild ↦ (h.roots child hchild).2

end Grown

end Parents

end AssessmentItem.Arena
