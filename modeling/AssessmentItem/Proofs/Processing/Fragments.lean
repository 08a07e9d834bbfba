import AssessmentItem.Proofs.Layout.Rules
import AssessmentItem.Proofs.Processing.Exits

/-!
# Fragments and exits

A fragment runs like its own rules put in its place: since a list runs like its beginning and then
like its rest, what has to hold of a list holds at every place in a list, and from there at every
depth, since the run of a rule depends on the runs of the lists in it alone.  Whatever ends a list
early ends the lists around it too, at every depth.

Rules refer to each other by ids.  Putting the rules of a fragment in its place changes the lists of
ids in the arena of an item, or the lists of its phases, and so another item runs.  Of the arena of
rules the run sees no more than the rules that it comes to, and their ids stay.

## Main definitions

* `Inlines` : a list of rules with the rules of one fragment put in its place, at any depth.
* `Layout.Splices`, `Item.Inlines` : the same for the lists of ids of an item, at any places.
* `Layout.Settles` : the rules below a rule end within a depth.
* `FragmentLaws` : fragments are transparent, and exits are absolute.

## Main results

* `Processing.runRules_eq_of_inlines`, `Item.Inlines.runRules_eq` : a fragment runs like its rules.
* `Processing.fragmentLaws` : the laws hold for every item.
-/

namespace AssessmentItem

open Evaluation

/-! ### Lists of rules -/

namespace Processing

variable {item : Item}

/-- Lists that run alike run alike between the same rules `before` and `after`. -/
theorem runRules_congr_between {rules rules' : List RuleTree}
    (h : runRules item rules = runRules item rules') (before after : List RuleTree) :
    runRules item (before ++ rules ++ after) = runRules item (before ++ rules' ++ after) := by
  rw [runRules_append, runRules_append before, h, ← runRules_append before, ← runRules_append]

theorem runRules_map_congr {α : Type} {f g : α → RuleTree} :
    (l : List α) → (∀ a ∈ l, runRule item (f a) = runRule item (g a)) →
    runRules item (l.map f) = runRules item (l.map g)
  | [], _ => rfl
  | a :: l, h => by
      rw [List.map_cons, List.map_cons, runRules_cons, runRules_cons, h a List.mem_cons_self,
        runRules_map_congr l fun a' ha' ↦ h a' (List.mem_cons_of_mem a ha')]

/-! ### Rules with lists of rules -/

/-- Branches with the same `guard`, whose `rules` run alike. -/
abbrev SameBranches (item : Item) :
    List (Branch ExpressionTree RuleTree) → List (Branch ExpressionTree RuleTree) → Prop :=
  List.Forall₂ fun b b' ↦ b.guard = b'.guard ∧ runRules item b.rules = runRules item b'.rules

theorem runBranches_congr {branches branches' : List (Branch ExpressionTree RuleTree)}
    (h : SameBranches item branches branches') (name : String) :
    runBranches item name branches = runBranches item name branches' := by
  induction h with
  | nil => rfl
  | @cons b b' _ _ hb _ ih =>
    obtain ⟨guard, rules⟩ := b
    obtain ⟨guard', rules'⟩ := b'
    obtain ⟨rfl, hrules⟩ : guard = guard' ∧ runRules item rules = runRules item rules' := hb
    rw [runBranches, runBranches, hrules, ih]

theorem runRule_condition_congr {branches branches' : List (Branch ExpressionTree RuleTree)}
    {otherwise otherwise' : List RuleTree} (hbranches : SameBranches item branches branches')
    (hotherwise : runRules item otherwise = runRules item otherwise') (id : NodeId)
    (phase : Phase) :
    runRule item (.node id (.condition phase branches otherwise)) =
      runRule item (.node id (.condition phase branches' otherwise')) := by
  have hname : (Rule.condition phase branches otherwise).name =
      (Rule.condition phase branches' otherwise').name := by
    cases phase <;> rfl
  rw [runRule, runRule, hname, hotherwise, runBranches_congr hbranches]

theorem sameBranches_refl (branches : List (Branch ExpressionTree RuleTree)) :
    SameBranches item branches branches :=
  List.forall₂_same.2 fun _ _ ↦ ⟨rfl, rfl⟩

/-! ### Fragments in trees -/

/-- The second list is the first one with the rules of a `.fragment` put in its place: in the list
itself, or in a list of rules at any depth below it. -/
inductive Inlines : List RuleTree → List RuleTree → Prop
  | here (before after : List RuleTree) (id : NodeId) (rules : List RuleTree) :
      Inlines (before ++ [.node id (.fragment rules)] ++ after) (before ++ rules ++ after)
  | fragment (before after : List RuleTree) (id : NodeId) {rules rules' : List RuleTree}
      (below : Inlines rules rules') :
      Inlines (before ++ [.node id (.fragment rules)] ++ after)
        (before ++ [.node id (.fragment rules')] ++ after)
  | branch (before after : List RuleTree) (id : NodeId) (phase : Phase)
      (first last : List (Branch ExpressionTree RuleTree)) (guard : ExpressionTree)
      (otherwise : List RuleTree) {rules rules' : List RuleTree} (below : Inlines rules rules') :
      Inlines
        (before ++ [.node id (.condition phase (first ++ ⟨guard, rules⟩ :: last) otherwise)] ++
          after)
        (before ++ [.node id (.condition phase (first ++ ⟨guard, rules'⟩ :: last) otherwise)] ++
          after)
  | otherwise (before after : List RuleTree) (id : NodeId) (phase : Phase)
      (branches : List (Branch ExpressionTree RuleTree)) {rules rules' : List RuleTree}
      (below : Inlines rules rules') :
      Inlines (before ++ [.node id (.condition phase branches rules)] ++ after)
        (before ++ [.node id (.condition phase branches rules')] ++ after)

/-- A `.fragment` runs like its rules, at any place and at any depth. -/
theorem runRules_eq_of_inlines {rules rules' : List RuleTree} (h : Inlines rules rules') :
    runRules item rules = runRules item rules' := by
  induction h with
  | here before after id rules =>
    refine runRules_congr_between ?_ before after
    rw [runRules_singleton, runRule_fragment]
  | fragment before after id below ih =>
    refine runRules_congr_between ?_ before after
    rw [runRules_singleton, runRules_singleton, runRule_fragment, runRule_fragment, ih]
  | branch before after id phase first last guard otherwise below ih =>
    refine runRules_congr_between ?_ before after
    rw [runRules_singleton, runRules_singleton]
    refine runRule_condition_congr ?_ rfl id phase
    exact List.rel_append (sameBranches_refl first) (.cons ⟨rfl, ih⟩ (sameBranches_refl last))
  | otherwise before after id phase branches below ih =>
    refine runRules_congr_between ?_ before after
    rw [runRules_singleton, runRules_singleton]
    exact runRule_condition_congr (sameBranches_refl branches) ih id phase

end Processing

/-! ### What a run sees of an item -/

section SameExpressions

variable {item item' : Item}

/-- Items with the same `layout.expressions` have the same places `within` them. -/
theorem Scope.within_congr (h : item'.layout.expressions = item.layout.expressions)
    {α : Type} (store : Store) (id : NodeId) (kind : ExpressionKind) (d : Drawing Fault α) :
    (⟨item', store⟩ : Scope).within id kind d = (⟨item, store⟩ : Scope).within id kind d := by
  rw [Scope.within, Scope.within, Scope.site, Scope.site, Item.path, Item.path, h]

mutual

theorem evaluate_congr_item (h : item'.layout.expressions = item.layout.expressions)
    (store : Store) :
    (e : ExpressionTree) → evaluate ⟨item', store⟩ e = evaluate ⟨item, store⟩ e
  | .missing id => by rw [evaluate, evaluate]
  | .node id (.leaf leaf) children => by rw [evaluate, evaluate, Scope.within_congr h]
  | .node id (.operator op) children => by
      rw [evaluate, evaluate, Scope.within_congr h, evaluateAll_congr_item h store children]
      simp only [Scope.within_congr h]

theorem evaluateAll_congr_item (h : item'.layout.expressions = item.layout.expressions)
    (store : Store) :
    (es : List ExpressionTree) → evaluateAll ⟨item', store⟩ es = evaluateAll ⟨item, store⟩ es
  | [] => by rw [evaluateAll, evaluateAll]
  | e :: es => by
      rw [evaluateAll, evaluateAll, evaluate_congr_item h store e,
        evaluateAll_congr_item h store es]

end

namespace Processing

theorem value_congr_item (h : item'.layout.expressions = item.layout.expressions)
    (e : ExpressionTree) : value item' e = value item e := by
  rw [value, value]
  congr 1
  funext run
  rw [evaluate_congr_item h]

theorem atRule_congr_item (h : item'.layout.expressions = item.layout.expressions) {α : Type}
    (name : String) (e : ExpressionTree) (r : Except Fault α) :
    atRule item' name e r = atRule item name e r := by
  cases r with
  | ok a => rfl
  | error fault => rw [atRule, atRule, Item.path, Item.path, h]

theorem guardHolds_congr_item (h : item'.layout.expressions = item.layout.expressions)
    (name : String) (guard : ExpressionTree) :
    guardHolds item' name guard = guardHolds item name guard := by
  rw [guardHolds, guardHolds, value_congr_item h]
  simp only [atRule_congr_item h]

theorem runAssignment_congr_item (h : item'.layout.expressions = item.layout.expressions)
    (id : NodeId) (kind : AssignmentKind) (identifier : String) (e : ExpressionTree) :
    runAssignment item' id kind identifier e = runAssignment item id kind identifier e := by
  have hlookUp (d : VariableDeclaration) (v : Value) :
      lookUp item' d identifier e v = lookUp item d identifier e v := by
    rw [lookUp, lookUp]
    simp only [atRule_congr_item h]
  rw [runAssignment, runAssignment, value_congr_item h]
  simp only [hlookUp]

mutual

/-- Of an item `runRule` sees `layout.expressions` alone. -/
theorem runRule_congr_item (h : item'.layout.expressions = item.layout.expressions) :
    (tree : RuleTree) → runRule item' tree = runRule item tree
  | .missing id => by rw [runRule, runRule]
  | .node id (.condition phase branches otherwise) => by
      rw [runRule, runRule, runBranches_congr_item h _ branches, runRules_congr_item h otherwise]
  | .node id (.assign kind identifier e) => by
      rw [runRule, runRule, runAssignment_congr_item h]
  | .node id (.exit phase) => by rw [runRule, runRule]
  | .node id (.constraint condition) => by rw [runRule, runRule, guardHolds_congr_item h]
  | .node id (.fragment rules) => by rw [runRule, runRule, runRules_congr_item h rules]

theorem runRules_congr_item (h : item'.layout.expressions = item.layout.expressions) :
    (rules : List RuleTree) → runRules item' rules = runRules item rules
  | [] => by rw [runRules, runRules]
  | rule :: rules => by
      rw [runRules_cons, runRules_cons, runRule_congr_item h rule, runRules_congr_item h rules]

theorem runBranches_congr_item (h : item'.layout.expressions = item.layout.expressions)
    (name : String) : (branches : List (Branch ExpressionTree RuleTree)) →
    runBranches item' name branches = runBranches item name branches
  | [] => by rw [runBranches, runBranches]
  | ⟨guard, rules⟩ :: branches => by
      rw [runBranches, runBranches, guardHolds_congr_item h, runRules_congr_item h rules,
        runBranches_congr_item h name branches]

end

end Processing

end SameExpressions

/-! ### Fragments in arenas -/

namespace Layout

/-- The ids `ids'` are `ids` with the rules of fragments put in their places, at any number of
places. -/
inductive Splices (l : Layout) : List NodeId → List NodeId → Prop
  | nil : Splices l [] []
  | keep (id : NodeId) {ids ids' : List NodeId} (rest : Splices l ids ids') :
      Splices l (id :: ids) (id :: ids')
  | fragment {id : NodeId} {rules ids ids' : List NodeId}
      (there : l.rules.get? id = some (.fragment rules)) (rest : Splices l ids ids') :
      Splices l (id :: ids) (rules ++ ids')

/-- The second rule is the first one with the rules of fragments put in their places, in any of its
lists. -/
inductive SplicesRule (l : Layout) : RuleNode → RuleNode → Prop
  | same (rule : RuleNode) : SplicesRule l rule rule
  | condition (phase : Phase) {branches branches' : List (Branch NodeId NodeId)}
      {otherwise otherwise' : List NodeId}
      (inBranches : List.Forall₂ (fun b b' ↦ b.guard = b'.guard ∧ l.Splices b.rules b'.rules)
        branches branches')
      (inOtherwise : l.Splices otherwise otherwise') :
      SplicesRule l (.condition phase branches otherwise) (.condition phase branches' otherwise')
  | fragment {rules rules' : List NodeId} (below : l.Splices rules rules') :
      SplicesRule l (.fragment rules) (.fragment rules')

/-- The rules below `id` end within `depth`, at rules that have none below them or at ids that have
no rule. -/
inductive Settles (l : Layout) : Nat → NodeId → Prop
  | missing {id : NodeId} (depth : Nat) (gone : l.rules.get? id = none) : Settles l depth id
  | node {depth : Nat} {id : NodeId} {rule : RuleNode} (there : l.rules.get? id = some rule)
      (below : ∀ child ∈ rule.children, Settles l depth child) : Settles l (depth + 1) id

theorem Settles.mono {l : Layout} {depth : Nat} {id : NodeId} (h : l.Settles depth id) {more : Nat}
    (hmore : depth ≤ more) : l.Settles more id := by
  induction h generalizing more with
  | missing _ gone => exact .missing more gone
  | node there _ ih =>
    obtain ⟨more, rfl⟩ := Nat.exists_eq_add_of_le' (Nat.le_of_add_left_le hmore)
    exact .node there fun child hchild ↦ ih child hchild (Nat.le_of_succ_le_succ hmore)

/-- Where every child is smaller than its parent, the rules below every `id` end. -/
theorem settles_of_children_lt {l : Layout}
    (h : ∀ id rule, l.rules.get? id = some rule → ∀ child ∈ rule.children, child < id)
    (id : NodeId) : l.Settles l.rules.size id := by
  have hsucc (id : NodeId) : l.Settles (id + 1) id := by
    induction id using Nat.strongRecOn with
    | ind id ih =>
      cases hrule : l.rules.get? id with
      | none => exact .missing _ hrule
      | some rule =>
        exact .node hrule fun child hchild ↦
          (ih child (h id rule hrule child hchild)).mono (h id rule hrule child hchild)
  cases hrule : l.rules.get? id with
  | none => exact .missing _ hrule
  | some rule => exact (hsucc id).mono (Arena.lt_size_of_get? hrule)

theorem unfoldRule_of_none {l : Layout} {id : NodeId} (h : l.rules.get? id = none) (depth : Nat) :
    l.unfoldRule depth id = .missing id := by
  cases depth with
  | zero => rw [unfoldRule]
  | succ depth => rw [unfoldRule, h]

theorem unfoldRule_of_some {l : Layout} {id : NodeId} {rule : RuleNode}
    (h : l.rules.get? id = some rule) (depth : Nat) :
    l.unfoldRule (depth + 1) id =
      .node id (rule.map l.expressions.expressionTree (l.unfoldRule depth)) := by
  rw [unfoldRule, h]

end Layout

section Splices

open Processing

variable {item : Item} {l l' : Layout} {depth more : Nat}

/-- Lists of ids with `Splices` run alike if every rule below them does, up to the `depth` at which
the rules of the first list end. -/
theorem Layout.Splices.runRules_eq {ids ids' : List NodeId} (h : l.Splices ids ids')
    (ih : ∀ d ≤ depth, ∀ id, l.Settles d id →
      runRule item (l.unfoldRule d id) = runRule item (l'.unfoldRule more id))
    (settles : ∀ id ∈ ids, l.Settles depth id) :
    runRules item (ids.map (l.unfoldRule depth)) =
      runRules item (ids'.map (l'.unfoldRule more)) := by
  induction h with
  | nil => rfl
  | keep id _ hrest =>
    obtain ⟨hid, hids⟩ := List.forall_mem_cons.1 settles
    rw [List.map_cons, List.map_cons, runRules_cons, runRules_cons, hrest hids,
      ih depth (Nat.le_refl _) id hid]
  | @fragment id rules ids ids' there _ hrest =>
    obtain ⟨hid, hids⟩ := List.forall_mem_cons.1 settles
    have hfragment : runRule item (l.unfoldRule depth id) =
        runRules item (rules.map (l'.unfoldRule more)) := by
      cases hid with
      | missing _ gone =>
        rw [there] at gone
        cases gone
      | @node depth _ rule there' below =>
        obtain rfl := Option.some.inj (there.symm.trans there')
        rw [Layout.unfoldRule_of_some there, Rule.map, runRule_fragment]
        exact runRules_map_congr rules fun child hchild ↦
          ih depth (Nat.le_succ depth) child (below child hchild)
    rw [List.map_cons, runRules_cons, List.map_append, runRules_append, hrest hids, hfragment]

/-- Rules with `SplicesRule` run alike if the rules below them do. -/
theorem Layout.SplicesRule.runRule_eq {rule rule' : RuleNode} (h : l.SplicesRule rule rule')
    (hexpressions : l'.expressions = l.expressions)
    (ih : ∀ d ≤ depth, ∀ id, l.Settles d id →
      runRule item (l.unfoldRule d id) = runRule item (l'.unfoldRule more id))
    (settles : ∀ child ∈ rule.children, l.Settles depth child) (id : NodeId) :
    runRule item (.node id (rule.map l.expressions.expressionTree (l.unfoldRule depth))) =
      runRule item (.node id (rule'.map l'.expressions.expressionTree (l'.unfoldRule more))) := by
  rw [hexpressions]
  have hsame {ids : List NodeId} (hids : ∀ child ∈ ids, l.Settles depth child) :
      runRules item (ids.map (l.unfoldRule depth)) =
        runRules item (ids.map (l'.unfoldRule more)) :=
    runRules_map_congr ids fun child hchild ↦ ih depth (Nat.le_refl _) child (hids child hchild)
  cases h with
  | same =>
    cases rule with
    | condition phase branches otherwise =>
      refine runRule_condition_congr ?_ (hsame fun child hchild ↦
        settles child (List.mem_append_right _ hchild)) id phase
      refine List.forall₂_map_left_iff.2 (List.forall₂_map_right_iff.2
        (List.forall₂_same.2 fun b hb ↦ ⟨rfl, hsame fun child hchild ↦ ?_⟩))
      exact settles child (List.mem_append_left _ (List.mem_flatMap.2 ⟨b, hb, hchild⟩))
    | fragment rules =>
      rw [Rule.map, Rule.map, runRule_fragment, runRule_fragment]
      exact hsame settles
    | assign | exit | constraint => rfl
  | @condition phase branches branches' otherwise otherwise' inBranches inOtherwise =>
    refine runRule_condition_congr ?_ (inOtherwise.runRules_eq ih fun child hchild ↦
      settles child (List.mem_append_right _ hchild)) id phase
    have hbranches : ∀ b ∈ branches, ∀ child ∈ b.rules, l.Settles depth child :=
      fun b hb child hchild ↦
        settles child (List.mem_append_left _ (List.mem_flatMap.2 ⟨b, hb, hchild⟩))
    clear settles inOtherwise
    induction inBranches with
    | nil => exact .nil
    | cons hb _ hrest =>
      obtain ⟨hguard, hrules⟩ := hb
      obtain ⟨hhead, htail⟩ := List.forall_mem_cons.1 hbranches
      exact .cons ⟨congrArg l.expressions.expressionTree hguard, hrules.runRules_eq ih hhead⟩
        (hrest htail)
  | fragment below =>
    rw [Rule.map, Rule.map, runRule_fragment, runRule_fragment]
    exact below.runRules_eq ih settles

/-- The tree that `unfoldRule` gives for `id` runs as it does with the rules of fragments put in
their places. -/
theorem runRule_unfoldRule_of_splices (hexpressions : l'.expressions = l.expressions)
    (hrules : ∀ id, Option.Rel l.SplicesRule (l.rules.get? id) (l'.rules.get? id)) (depth : Nat) :
    ∀ id more, l.Settles depth id → depth ≤ more →
      runRule item (l.unfoldRule depth id) = runRule item (l'.unfoldRule more id) := by
  -- A fragment that is put in its place is one level less, so its rules are met at a smaller depth.
  induction depth using Nat.strongRecOn with
  | ind depth ih =>
    intro id more settles hmore
    have hrule := hrules id
    cases settles with
    | missing _ gone =>
      rw [gone] at hrule
      cases hrule' : l'.rules.get? id with
      | some rule' =>
        rw [hrule'] at hrule
        cases hrule
      | none => rw [Layout.unfoldRule_of_none gone, Layout.unfoldRule_of_none hrule']
    | @node depth _ rule there below =>
      obtain ⟨more, rfl⟩ := Nat.exists_eq_add_of_le' (Nat.le_of_add_left_le hmore)
      have hle : depth ≤ more := Nat.le_of_succ_le_succ hmore
      rw [there] at hrule
      cases hrule' : l'.rules.get? id with
      | none =>
        rw [hrule'] at hrule
        cases hrule
      | some rule' =>
        rw [hrule'] at hrule
        cases hrule with
        | some hsplices =>
          rw [Layout.unfoldRule_of_some there, Layout.unfoldRule_of_some hrule']
          refine hsplices.runRule_eq hexpressions (fun d hd id hid ↦ ?_) below id
          exact ih d (Nat.lt_succ_of_le hd) id more hid (Nat.le_trans hd hle)

end Splices

/-- The item `item'` is `item` with the rules of fragments put in their places: in the `roots` of
the phases and in the lists of its rules, at any number of places. -/
structure Item.Inlines (item item' : Item) : Prop where
  expressions : item'.layout.expressions = item.layout.expressions
  rules : ∀ id, Option.Rel item.layout.SplicesRule (item.layout.rules.get? id)
    (item'.layout.rules.get? id)
  roots : ∀ phase, item.layout.Splices (item.roots phase) (item'.roots phase)

namespace Item.Inlines

open Processing

variable {item item' : Item}

theorem size_le (h : item.Inlines item') : item.layout.rules.size ≤ item'.layout.rules.size := by
  by_contra hlt
  have hrule := h.rules item'.layout.rules.size
  have hgone : item'.layout.rules.get? item'.layout.rules.size = none := by
    rw [Arena.get?, Arena.size, Array.getElem?_size, Option.map_none]
  rw [hgone, Arena.get?, Array.getElem?_eq_getElem (Nat.not_le.1 hlt)] at hrule
  cases hrule

/-- The rules of `item` run as those of `item'`, for every phase. -/
theorem runRules_eq (h : item.Inlines item') {phase : Phase}
    (settles : ∀ id ∈ item.roots phase, item.layout.Settles item.layout.rules.size id) :
    runRules item (item.ruleTrees phase) = runRules item' (item'.ruleTrees phase) := by
  rw [runRules_congr_item h.expressions]
  refine (h.roots phase).runRules_eq (fun d hd id hid ↦ ?_) settles
  exact runRule_unfoldRule_of_splices h.expressions h.rules d id _ hid (Nat.le_trans hd h.size_le)

end Item.Inlines

/-! ### The laws -/

namespace Processing

/-- Fragments are transparent, and an exit, a failed constraint or an error ends everything around
it. All of this is so for every run, with its store, its generator and its notes. -/
structure FragmentLaws (item : Item) : Prop where
  /-- The rules of a `.fragment` may stand in its place at any depth of a list of trees. -/
  trees : ∀ rules rules', Inlines rules rules' → ∀ run,
    (runRules item rules').run run = (runRules item rules).run run
  /-- They may stand in its place in any lists of an item whose rules end, as `Settles` says. -/
  arenas : ∀ item' phase, item.Inlines item' →
    (∀ id ∈ item.roots phase, item.layout.Settles item.layout.rules.size id) → ∀ run,
    (runRules item' (item'.ruleTrees phase)).run run =
      (runRules item (item.ruleTrees phase)).run run
  /-- Whatever ends the beginning of a list, if it is not `Outcome.completed`, ends the list. -/
  exits : ∀ rules later run run' result, (runRules item rules).run run = (result, run') →
    result ≠ .ok .completed → (runRules item (rules ++ later)).run run = (result, run')
  /-- Whatever so ends a list that the run `Enters` ends the whole list: that of a fragment, of a
  branch that is chosen or of the other rules of a condition, at any depth. -/
  nested : ∀ rules run inner run₁, Enters item rules run inner run₁ → ∀ result run',
    (runRules item inner).run run₁ = (result, run') → result ≠ .ok .completed →
    (runRules item rules).run run = (result, run')
  /-- Whatever a rule so ends with that the run comes to at any depth, `rules` ends with. -/
  stops : ∀ rules run first rest run₁, Enters item rules run (first :: rest) run₁ →
    ∀ result run', (runRule item first).run run₁ = (result, run') → result ≠ .ok .completed →
    (runRules item rules).run run = (result, run')

theorem fragmentLaws (item : Item) : FragmentLaws item where
  trees _ _ h _ := by rw [runRules_eq_of_inlines h]
  arenas _ _ h settles _ := by rw [h.runRules_eq settles]
  exits _ later _ _ _ h hresult := run_runRules_append_of_ne_completed h hresult later
  nested _ _ _ _ entered _ _ h hresult := entered.run_runRules_eq h hresult
  stops _ _ _ rest _ entered _ _ h hresult :=
    entered.run_runRules_eq (run_runRules_cons_of_ne_completed h hresult rest) hresult

/-- An item whose only outcome `SCORE` gets the number of attempts, and once more after a fragment.
In the fragment stands a condition that always holds, and whose rule exits. -/
def fragmentItem : Item where
  identifier := "fragment"
  title := ""
  adaptive := false
  declarations := builtIns ++ [⟨"SCORE", .single, some .integer, .null, .outcome .plain⟩]
  layout :=
    ⟨⟨#[⟨⟨.leaf (.valueOf "numAttempts"), []⟩, none⟩,
        ⟨⟨.leaf (.baseValue (.boolean true)), []⟩, none⟩]⟩,
      ⟨#[⟨.assign .outcomeValue "SCORE" 0, none⟩, ⟨.exit .response, some 2⟩,
        ⟨.condition .response [⟨1, [1]⟩] [], some 3⟩, ⟨.fragment [2], none⟩,
        ⟨.assign .outcomeValue "SCORE" 0, none⟩]⟩⟩
  templateRules := []
  responseRules := [0, 3, 4]

/-- The item `fragmentItem` with the rule of the fragment in its place. -/
def flatItem : Item := { fragmentItem with responseRules := [0, 2, 4] }

/-- The exit in the condition of the fragment ends the list around it: `SCORE` has been assigned
once, with the fragment as without it. -/
theorem fragmentLaws_exit :
    (∀ run, (runRules flatItem (flatItem.ruleTrees .response)).run run =
      (runRules fragmentItem (fragmentItem.ruleTrees .response)).run run) ∧
    ∃ run, (runRules fragmentItem (fragmentItem.ruleTrees .response)).run
        ⟨.ofItem fragmentItem, .ofSeed 0, []⟩ = (.ok (.exited .response), run) ∧
      run.assignments.map (·.identifier) = ["SCORE"] := by
  have inlines : fragmentItem.Inlines flatItem := by
    refine ⟨rfl, fun id ↦ ?_, fun phase ↦ ?_⟩
    · change Option.Rel _ (fragmentItem.layout.rules.get? id) (fragmentItem.layout.rules.get? id)
      cases fragmentItem.layout.rules.get? id with
      | none => exact .none
      | some rule => exact .some (.same rule)
    · cases phase with
      | template => exact .nil
      | response =>
        have there : fragmentItem.layout.rules.get? 3 = some (.fragment [2]) := rfl
        exact .keep 0 (.fragment there (.keep 4 .nil))
  have settles : ∀ id ∈ fragmentItem.roots .response,
      fragmentItem.layout.Settles fragmentItem.layout.rules.size id := by
    refine fun id _ ↦ Layout.settles_of_children_lt (fun id rule hrule ↦ ?_) id
    have hid : id < 5 := Arena.lt_size_of_get? hrule
    match id with
    | 0 | 1 | 2 | 3 | 4 =>
      cases hrule
      decide
  obtain ⟨run₁, assigned, noted⟩ : ∃ run₁,
      (runRule fragmentItem (fragmentItem.layout.ruleTree 0)).run
        ⟨.ofItem fragmentItem, .ofSeed 0, []⟩ = (.ok .completed, run₁) ∧
      run₁.assignments.map (·.identifier) = ["SCORE"] := ⟨_, rfl, rfl⟩
  have chosen : Chooses fragmentItem "responseCondition"
      [⟨.node 1 (.leaf (.baseValue (.boolean true))) [], [.node 1 (.exit .response)]⟩] run₁
      (some ⟨.node 1 (.leaf (.baseValue (.boolean true))) [], [.node 1 (.exit .response)]⟩) run₁ :=
    .holds rfl
  have entered : Enters fragmentItem (fragmentItem.ruleTrees .response)
      ⟨.ofItem fragmentItem, .ofSeed 0, []⟩ [.node 1 (.exit .response)] run₁ :=
    .later assigned (.fragment (.branch chosen (.here _ _)))
  exact ⟨(fragmentLaws fragmentItem).arenas flatItem .response inlines settles, run₁,
    (fragmentLaws fragmentItem).stops _ _ _ _ _ entered _ _ rfl nofun, noted⟩

end Processing

end AssessmentItem
