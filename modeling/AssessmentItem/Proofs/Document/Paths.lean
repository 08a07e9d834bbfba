import Mathlib.Data.List.Forall2
import AssessmentItem.Proofs.Document.Expressions

/-!
# Paths

The path of a node names the nodes on the way from the root of its tree down to it, each but the
root with its place among the children of the node before.  A name has letters and digits only, so
the places can be read off the text again, and they lead from the root to the node.  Two nodes of
one tree therefore have different paths.

## Main definitions

* `PathStep` : the place of a node among the children of its parent, and what the node is.
* `Arena.descend?` : the node to which places among children lead.
* `Arena.Locates` : a root and steps are the way down a chain of ancestors.

## Main results

* `positions_of_intercalate` : the places can be read off the text of a path.
* `Arena.LaidOut.exists_locates` : the way down to a node.
* `Arena.LaidOut.eq_of_path_eq` : nodes of one tree with the same path are the same.
* `ItemDocument.pathLaws` : paths and ancestors of the nodes of an item.
-/

namespace AssessmentItem

/-- The `position` of a node among the children of its parent, and its `kind`. -/
structure PathStep where
  position : Nat
  kind : ExpressionKind

/-- The text of a step, such as `and[0]`. -/
def PathStep.text (s : PathStep) : String := s.kind.name ++ "[" ++ toString s.position ++ "]"

/-! ### Texts of paths -/

/-- A `kind.name` has letters and digits only. -/
theorem ExpressionKind.notMem_name (kind : ExpressionKind) {c : Char}
    (hc : c.isAlphanum = false) : c ∉ kind.name.toList := by
  have hall : kind.name.toList.all Char.isAlphanum = true := by
    cases kind with
    | leaf l => cases l <;> rw [name, Leaf.name] <;> decide
    | operator o => cases o <;> rw [name, Operator.name] <;> decide
  intro hmem
  rw [List.all_eq_true.1 hall c hmem] at hc
  nomatch hc

theorem notMem_toDigits (n : Nat) {c : Char} (hc : c.isDigit = false) :
    c ∉ Nat.toDigits 10 n := by
  intro hmem
  rw [Nat.isDigit_of_mem_toDigits (by decide) (Nat.le_refl 10) hmem] at hc
  nomatch hc

namespace PathStep

variable {s t : PathStep}

theorem toList_text (s : PathStep) :
    s.text.toList = s.kind.name.toList ++ '[' :: (Nat.toDigits 10 s.position ++ [']']) := by
  simp [text]

theorem slash_notMem_text (s : PathStep) : '/' ∉ s.text.toList := by
  have hname : '/' ∉ s.kind.name.toList := s.kind.notMem_name rfl
  have hplace : '/' ∉ Nat.toDigits 10 s.position := notMem_toDigits s.position rfl
  simp [toList_text, hname, hplace]

/-- The `position` can be read off the text. -/
theorem position_of_text (h : s.text = t.text) : s.position = t.position := by
  have hname : '[' ∉ s.kind.name.toList := s.kind.notMem_name rfl
  have hplace : '[' ∉ Nat.toDigits 10 s.position ++ [']'] := by
    simpa using notMem_toDigits s.position (c := '[') rfl
  have hchars := congrArg String.toList h
  rw [toList_text, toList_text, List.append_cons_inj_of_notMem hname hplace] at hchars
  obtain ⟨-, -, hplaces⟩ := hchars
  have hdigits := congrArg (Nat.ofDigitChars 10 · 0) (List.append_cancel_right hplaces)
  simpa only [Nat.ofDigitChars_ten_toDigits] using hdigits

end PathStep

/-- Texts without a `'/'` can be read off the text in which slashes separate them. -/
theorem eq_of_intercalate_slash {texts texts' : List String}
    (h : String.intercalate "/" texts = String.intercalate "/" texts')
    (ne : texts ≠ []) (ne' : texts' ≠ []) (plain : ∀ t ∈ texts, '/' ∉ t.toList)
    (plain' : ∀ t ∈ texts', '/' ∉ t.toList) : texts = texts' := by
  have split {l : List String} (hne : l ≠ []) (hplain : ∀ t ∈ l, '/' ∉ t.toList) :
      (String.intercalate "/" l).toList.splitOn '/' = l.map String.toList := by
    rw [String.toList_intercalate]
    refine List.splitOn_intercalate '/' (fun cs hcs ↦ ?_) (by simpa using hne)
    obtain ⟨t, ht, rfl⟩ := List.mem_map.1 hcs
    exact hplain t ht
  have hlists := split ne plain
  rw [h, split ne' plain'] at hlists
  exact (List.map_inj_right fun _ _ ↦ String.toList_inj.1).1 hlists.symm

/-- The positions of `steps` can be read off the text of a path. -/
theorem positions_of_intercalate {kind kind' : ExpressionKind} {steps steps' : List PathStep}
    (h : String.intercalate "/" (kind.name :: steps.map PathStep.text) =
      String.intercalate "/" (kind'.name :: steps'.map PathStep.text)) :
    steps.map PathStep.position = steps'.map PathStep.position := by
  have plain (kind : ExpressionKind) (steps : List PathStep) :
      ∀ t ∈ kind.name :: steps.map PathStep.text, '/' ∉ t.toList := by
    refine List.forall_mem_cons.2 ⟨kind.notMem_name rfl, fun t ht ↦ ?_⟩
    obtain ⟨s, -, rfl⟩ := List.mem_map.1 ht
    exact s.slash_notMem_text
  have htexts := eq_of_intercalate_slash h (List.cons_ne_nil _ _) (List.cons_ne_nil _ _)
    (plain kind steps) (plain kind' steps')
  have hsteps := (List.cons.inj htexts).2
  rw [← List.forall₂_eq_eq_eq, List.forall₂_map_left_iff, List.forall₂_map_right_iff] at hsteps ⊢
  exact hsteps.imp fun _ _ ↦ PathStep.position_of_text

/-! ### The way down -/

namespace Arena

variable {a : Arena ExpressionNode} {id id' root : NodeId} {chain : List NodeId}
  {kind : ExpressionKind} {steps : List PathStep}

/-- The kind of a node. -/
def kind? (a : Arena ExpressionNode) (id : NodeId) : Option ExpressionKind :=
  (a.get? id).map (·.kind)

/-- The node to which positions among the `children` lead down. -/
def descend? (a : Arena ExpressionNode) : NodeId → List Nat → Option NodeId
  | id, [] => some id
  | id, i :: is => do
    let node ← a.get? id
    let child ← node.children[i]?
    a.descend? child is

theorem descend?_append (a : Arena ExpressionNode) (id : NodeId) (is js : List Nat) :
    a.descend? id (is ++ js) = (a.descend? id is).bind fun below ↦ a.descend? below js := by
  induction is generalizing id with
  | nil => rfl
  | cons i is ih =>
    simp only [List.cons_append, descend?, ih, Option.bind_eq_bind, Option.bind_assoc]

/-- A `root` and `steps` are the way down a `chain` of ancestors: there is a step for every node but
the root, which says what the node is and where it stands, and these are the segments of the
path. -/
structure Locates (a : Arena ExpressionNode) (id : NodeId) (chain : List NodeId) (root : NodeId)
    (kind : ExpressionKind) (steps : List PathStep) : Prop where
  getLast?_eq : chain.getLast? = some root
  parent?_root : a.parent? root = none
  kinds_eq : chain.reverse.map a.kind? = some kind :: steps.map fun s ↦ some s.kind
  segments_eq : chain.reverse.filterMap a.segment? = kind.name :: steps.map PathStep.text
  descend?_eq : a.descend? root (steps.map PathStep.position) = some id

/-- The `path` of a node is the text of its steps. -/
theorem Locates.path_eq (h : a.Locates id (a.ancestors id) root kind steps) :
    a.path id = String.intercalate "/" (kind.name :: steps.map PathStep.text) := by
  rw [path, h.segments_eq]

namespace LaidOut

variable (h : Arena.empty.LaidOut a)
include h

/-- A node that has a `parent` is found among its children. -/
theorem exists_position {parent : NodeId} (hparent : a.parent? id = some parent) :
    ∃ node i, a.get? parent = some node ∧ node.children[i]? = some id ∧
      a.position? id = some i := by
  obtain ⟨node, hnode, hmem⟩ := h.parent?_eq_some_iff.1 hparent
  cases hplace : node.children.idxOf? id with
  | none => exact absurd hmem (List.idxOf?_eq_none_iff.1 hplace)
  | some i =>
    obtain ⟨hi, hid, -⟩ := List.idxOf?_eq_some_iff.1 hplace
    refine ⟨node, i, hnode, hid ▸ List.getElem?_eq_getElem hi, ?_⟩
    simp only [position?, hparent, hnode, Option.bind_eq_bind, Option.bind_some, hplace]

/-- The way down a whole `Lineage`. -/
theorem exists_locates_of_lineage (lineage : a.Lineage id chain) (hid : id < a.size) :
    ∃ root kind steps, a.Locates id chain root kind steps := by
  induction lineage with
  | @root id hroot =>
    obtain ⟨node, hnode⟩ := exists_get? hid
    refine ⟨id, node.kind, [], rfl, hroot, ?_, ?_, rfl⟩
    · simp [kind?, hnode]
    · simp [segment?, position?, hnode, hroot]
  | @child id parent chain hparent above ih =>
    obtain ⟨node, hnode⟩ := exists_get? hid
    obtain ⟨parentNode, i, hget, hchild, hposition⟩ := h.exists_position hparent
    obtain ⟨root, kind, steps, hlast, hroot, hkinds, hsegments, hdescend⟩ :=
      ih (lt_size_of_get? hget)
    refine ⟨root, kind, steps ++ [⟨i, node.kind⟩], ?_, hroot, ?_, ?_, ?_⟩
    · rw [List.getLast?_cons, hlast, Option.getD_some]
    · simp [hkinds, kind?, hnode]
    · simp [hsegments, segment?, hnode, hposition, PathStep.text]
    · simp [descend?_append, hdescend, descend?, hget, hchild]

/-- The way down to a node, along its `ancestors`. -/
theorem exists_locates (hid : id < a.size) :
    ∃ root kind steps, a.Locates id (a.ancestors id) root kind steps :=
  h.exists_locates_of_lineage (lineage_ancestors h.acyclic id) hid

/-- Nodes of one tree with the same `path` are the same. -/
theorem eq_of_path_eq (hid : id < a.size) (hid' : id' < a.size)
    (same : (a.ancestors id).getLast? = (a.ancestors id').getLast?)
    (hpath : a.path id = a.path id') : id = id' := by
  obtain ⟨root, kind, steps, way⟩ := h.exists_locates hid
  obtain ⟨root', kind', steps', way'⟩ := h.exists_locates hid'
  rw [way.path_eq, way'.path_eq] at hpath
  rw [way.getLast?_eq, way'.getLast?_eq] at same
  obtain rfl := Option.some.inj same
  have hdescend := way.descend?_eq
  rw [positions_of_intercalate hpath, way'.descend?_eq] at hdescend
  exact (Option.some.inj hdescend).symm

end LaidOut

/-! ### Paths and ancestors -/

/-- What the `path` of a node says of it. -/
structure PathLaws (a : Arena ExpressionNode) : Prop where
  lineage : ∀ id, a.Lineage id (a.ancestors id)
  /-- The `path` has a segment for every node of the chain, which names it, and the positions in
  brackets lead down to the node. -/
  locates : ∀ id < a.size, ∃ root kind steps, a.Locates id (a.ancestors id) root kind steps ∧
    a.path id = String.intercalate "/" (kind.name :: steps.map PathStep.text)
  injective : ∀ id < a.size, ∀ id' < a.size,
    (a.ancestors id).getLast? = (a.ancestors id').getLast? → a.path id = a.path id' → id = id'

/-- What the `ancestors` of a node are, whatever the table of parents is. -/
structure AncestorLaws {α : Type} (a : Arena α) : Prop where
  head? : ∀ id, (a.ancestors id).head? = some id
  isChain : ∀ id, (a.ancestors id).IsChain fun child parent ↦ a.parent? child = some parent
  length_le : ∀ id, (a.ancestors id).length ≤ a.size + 1
  /-- Nothing is cut off, unless the table is not `Acyclic`. -/
  lineage : a.Acyclic → ∀ id, a.Lineage id (a.ancestors id)

end Arena

/-- The `path` of a node of an item has a segment for every node on the way from its root, and the
positions in it lead down to the node, so that nodes of one tree have different paths. The
`ancestors` of a node follow the table of parents, with at most one entry more than there are nodes,
and end before the root only on a cyclic table. -/
theorem ItemDocument.pathLaws :
    (∀ {d : ItemDocument} {item : Item}, d.item = .ok item → item.layout.expressions.PathLaws) ∧
      ∀ {α : Type} (a : Arena α), a.AncestorLaws := by
  refine ⟨fun {d item} lowered ↦ ?_, fun {α} a ↦ ?_⟩
  · have laidOut := laidOut_of_item lowered
    exact
      { lineage := Arena.lineage_ancestors laidOut.acyclic
        locates := fun id hid ↦
          have ⟨root, kind, steps, way⟩ := laidOut.exists_locates hid
          ⟨root, kind, steps, way, way.path_eq⟩
        injective := fun id hid id' hid' ↦ laidOut.eq_of_path_eq hid hid' }
  · exact
      { head? := fun id ↦ by
          obtain ⟨above, habove⟩ := a.exists_climb_eq_cons a.size id
          rw [Arena.ancestors, habove, List.head?_cons]
        isChain := a.isChain_climb a.size
        length_le := a.length_ancestors_le
        lineage := Arena.lineage_ancestors }

/-- A document with one condition, in which two nodes have the same name on every level. -/
def twinDocument : ItemDocument :=
  let isNullOfNull : Json :=
    .fields [("op", .string "isNull"), ("children", .array [.fields [("op", .string "null")]])]
  { identifier := "twins"
    title := none
    adaptive := false
    declarations := []
    templateProcessing := [.fields [("rule", .string "templateConstraint"),
      ("expression", .fields [("op", .string "and"),
        ("children", .array [isNullOfNull, isNullOfNull])])]]
    responseProcessing := [] }

/-- A node whose parent has a parent outside the arena. -/
def danglingArena : Arena Nat := ⟨#[⟨0, some 1⟩, ⟨1, some 5⟩]⟩

/-- The names on the way are the same for both nodes of `twinDocument`, and the chain in
`danglingArena` is as long as a chain can be. -/
theorem pathLaws_twins :
    (∃ item, twinDocument.item = .ok item ∧ item.path 0 = "and/isNull[0]/null[0]" ∧
      item.path 2 = "and/isNull[1]/null[0]" ∧ item.layout.expressions.PathLaws) ∧
    danglingArena.Acyclic ∧ danglingArena.ancestors 0 = [0, 1, 5] ∧
      danglingArena.Lineage 0 (danglingArena.ancestors 0) := by
  have hitem : Gives twinDocument.item (fun item ↦ item.path 0 = "and/isNull[0]/null[0]" ∧
      item.path 2 = "and/isNull[1]/null[0]") fun _ ↦ False := by
    decide +kernel
  obtain ⟨item, lowered, hfirst, hsecond⟩ := hitem.exists_eq_ok
  have acyclic : danglingArena.Acyclic := Arena.acyclic_of_lt fun child parent hparent ↦ by
    match child, Arena.lt_size_of_parent? hparent, hparent with
    | 0, _, hparent | 1, _, hparent => cases hparent; decide
  exact ⟨⟨item, lowered, hfirst, hsecond, ItemDocument.pathLaws.1 lowered⟩, acyclic, by decide,
    (ItemDocument.pathLaws.2 danglingArena).lineage acyclic 0⟩

end AssessmentItem
