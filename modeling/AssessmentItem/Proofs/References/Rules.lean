import AssessmentItem.Proofs.Processing.Assignments
import AssessmentItem.Proofs.References.Expressions

/-!
# References of rules

The check of an item visits the rules of both phases, and so does their run; neither knows of the
other.  Where the check passes, the rules and the expressions of both phases are all there, and a
run, from any store of the item, never fails because something is not there or is of the wrong
kind.  Nothing is demanded of the arenas: one in which a rule stands below itself has no tree
without a gap, and the check does not pass.

## Main definitions

* `AuthoringError.IsReference` : the errors of a run that refer to what is not there.
* `ExpressionTree.Complete`, `RuleTree.Complete` : the trees without a gap.

## Main results

* `each_of_checkRule` : what the check of a rule says.
* `checkReferences_sound` : a checked item has no errors of reference.
-/

namespace AssessmentItem

open Evaluation Processing

/-- Whether an error refers to a rule, a node or a variable that is not there, to a variable of a
kind to which the rule may not assign, or to the correct value of a variable that has none. -/
def AuthoringError.IsReference : AuthoringError → Prop
  | .evaluation error => error.fault.IsReference
  | .rule _ _ .missingRule | .rule _ _ .undeclared | .rule _ _ (.wrongKind _)
  | .rule _ _ (.assignment (.undeclared _)) => True
  | .rule .. | .noTable _ => False

/-! ### Trees without a gap -/

/-- No node of an expression is `.missing`. -/
inductive ExpressionTree.Complete : ExpressionTree → Prop
  | node {id : NodeId} {kind : ExpressionKind} {children : List ExpressionTree}
      (below : ∀ child ∈ children, child.Complete) : Complete (.node id kind children)

theorem ExpressionTree.Resolved.complete {item : Item} {tree : ExpressionTree}
    (h : tree.Resolved item) : tree.Complete := by
  induction h with
  | node _ _ ih => exact .node ih

/-- No rule of a tree is `.missing`, and the expressions of its rules are `Complete`. -/
def RuleTree.Complete (tree : RuleTree) : Prop :=
  tree.Each (fun _ rule ↦ ∀ e ∈ rule.expressions, e.Complete) fun _ ↦ False

theorem Rule.map_congr {E E' R R' : Type} (f : E → E') {g g' : R → R'} {rule : Rule E R}
    (h : ∀ child ∈ rule.children, g child = g' child) : rule.map f g = rule.map f g' := by
  cases rule with
  | condition phase branches otherwise =>
    have hbranches : ∀ b ∈ branches, b.rules.map g = b.rules.map g' := fun b hb ↦
      List.map_congr_left fun r hr ↦
        h r (List.mem_append_left _ (List.mem_flatMap.2 ⟨b, hb, hr⟩))
    have hotherwise : otherwise.map g = otherwise.map g' :=
      List.map_congr_left fun r hr ↦ h r (List.mem_append_right _ hr)
    rw [map, map, hotherwise]
    congr 1
    refine List.map_congr_left fun b hb ↦ ?_
    rw [hbranches b hb]
  | fragment rules => exact congrArg fragment (List.map_congr_left h)
  | _ => rfl

/-- The unfolding of a tree without a gap has come to its end: with more `fuel` it is the same. -/
theorem Layout.unfoldRule_eq_of_each {P : NodeId → Rule ExpressionTree RuleTree → Prop}
    (l : Layout) : (fuel : Nat) → (id : NodeId) → (l.unfoldRule fuel id).Each P (fun _ ↦ False) →
    ∀ more, fuel ≤ more → l.unfoldRule more id = l.unfoldRule fuel id
  | 0, id, h, _, _ => by
      rw [unfoldRule] at h
      cases h with
      | missing here => exact here.elim
  | fuel + 1, id, h, more, hmore => by
      obtain ⟨more, rfl⟩ := Nat.exists_eq_add_of_lt hmore
      rw [unfoldRule] at h ⊢
      rw [unfoldRule]
      cases hnode : l.rules.get? id with
      | none => rfl
      | some node =>
        rw [hnode] at h
        cases h with
        | node _ below =>
          rw [Rule.children_map] at below
          refine congrArg (RuleTree.node id) (Rule.map_congr _ fun child hchild ↦ ?_)
          exact l.unfoldRule_eq_of_each fuel child (below _ (List.mem_map_of_mem hchild)) _
            (by omega)

/-! ### What the check says -/

/-- The names in a rule are declared as they should be: those in its `expressions`, and the one that
it assigns to. -/
structure Item.ResolvesRule (item : Item) (rule : Rule ExpressionTree RuleTree) : Prop where
  expressions : ∀ e ∈ rule.expressions, e.Resolved item
  target : ∀ kind identifier e, rule = .assign kind identifier e →
    item.Declares identifier kind.targets

section Check

variable {item : Item} {phase : Phase}

mutual

/-- A rule that passes `checkRule` has all rules below it, and the names in each of them resolve. -/
theorem each_of_checkRule : (tree : RuleTree) → item.checkRule phase tree = .ok () →
    tree.Each (fun _ rule ↦ item.ResolvesRule rule) fun _ ↦ False
  | .missing id, h => by
      rw [Item.checkRule] at h
      cases h
  | .node id (.condition kind branches otherwise), h => by
      rw [Item.checkRule] at h
      by_cases hempty : branches.isEmpty
      · rw [if_pos hempty] at h
        cases h
      · rw [if_neg hempty] at h
        obtain ⟨_, hguards, h⟩ := bind_eq_ok_iff.1 h
        obtain ⟨_, hbranches, hotherwise⟩ := bind_eq_ok_iff.1 h
        refine .node ⟨resolved_of_checkExpressions _ hguards, fun _ _ _ h ↦ nomatch h⟩ ?_
        intro rule hrule
        rcases List.mem_append.1 hrule with hrule | hrule
        · obtain ⟨b, hb, hrule⟩ := List.mem_flatMap.1 hrule
          exact each_of_checkBranches branches hbranches b hb rule hrule
        · exact each_of_checkRules otherwise hotherwise rule hrule
  | .node id (.assign kind identifier value), h => by
      rw [Item.checkRule] at h
      obtain ⟨_, hname, hvalue⟩ := bind_eq_ok_iff.1 h
      refine .node ⟨?_, ?_⟩ (by simp [Rule.children])
      · intro e he
        obtain rfl := List.mem_singleton.1 he
        exact resolved_of_checkExpression e hvalue
      · rintro _ _ _ ⟨⟩
        exact checkName_eq_ok_iff.1 hname
  | .node id (.exit _), _ =>
      .node ⟨by simp [Rule.expressions], fun _ _ _ h ↦ nomatch h⟩ (by simp [Rule.children])
  | .node id (.constraint condition), h => by
      rw [Item.checkRule] at h
      refine .node ⟨?_, fun _ _ _ h ↦ nomatch h⟩ (by simp [Rule.children])
      intro e he
      obtain rfl := List.mem_singleton.1 he
      exact resolved_of_checkExpression e h
  | .node id (.fragment rules), h => by
      rw [Item.checkRule] at h
      exact .node ⟨by simp [Rule.expressions], fun _ _ _ h ↦ nomatch h⟩
        (each_of_checkRules rules h)

theorem each_of_checkRules : (trees : List RuleTree) → item.checkRules phase trees = .ok () →
    ∀ tree ∈ trees, tree.Each (fun _ rule ↦ item.ResolvesRule rule) fun _ ↦ False
  | [], _ => by simp
  | tree :: trees, h => by
      rw [Item.checkRules] at h
      obtain ⟨_, htree, htrees⟩ := bind_eq_ok_iff.1 h
      exact List.forall_mem_cons.2 ⟨each_of_checkRule tree htree, each_of_checkRules trees htrees⟩

theorem each_of_checkBranches : (branches : List (Branch ExpressionTree RuleTree)) →
    item.checkBranches phase branches = .ok () →
    ∀ b ∈ branches, ∀ tree ∈ b.rules,
      tree.Each (fun _ rule ↦ item.ResolvesRule rule) fun _ ↦ False
  | [], _ => by simp
  | ⟨_, rules⟩ :: branches, h => by
      rw [Item.checkBranches] at h
      obtain ⟨_, hrules, hbranches⟩ := bind_eq_ok_iff.1 h
      exact List.forall_mem_cons.2 ⟨each_of_checkRules rules hrules,
        each_of_checkBranches branches hbranches⟩

end

theorem each_of_checkReferences (h : item.checkReferences = .ok ()) (phase : Phase) :
    ∀ tree ∈ item.ruleTrees phase,
      tree.Each (fun _ rule ↦ item.ResolvesRule rule) fun _ ↦ False := by
  obtain ⟨_, htemplate, hresponse⟩ := bind_eq_ok_iff.1 h
  cases phase with
  | template => exact each_of_checkRules _ htemplate
  | response => exact each_of_checkRules _ hresponse

end Check

/-! ### What the run finds -/

section Run

variable {item : Item} {run : Run}

theorem ends_value_inward (hrun : run.store.declarations = item.declarations)
    {e : ExpressionTree} (he : e.Resolved item) :
    Ends (value item e) run (fun _ run' ↦ run'.store.declarations = item.declarations)
      fun error run' ↦ run'.store.declarations = item.declarations ∧ ¬error.IsReference := by
  rw [ends_value]
  exact (ends_evaluate_inward hrun e he run.generator).mono (fun _ _ _ ↦ hrun)
    fun _ _ h ↦ ⟨hrun, h⟩

theorem ends_target_of_declares (hrun : run.store.declarations = item.declarations)
    {kind : AssignmentKind} {identifier : String} (h : item.Declares identifier kind.targets)
    {Q : VariableDeclaration → Run → Prop} {E : AuthoringError → Run → Prop}
    (hQ : ∀ d, run.store.declaration? identifier = some d → Q d run) :
    Ends (target kind identifier) run Q E := by
  obtain ⟨slot, hslot, hkind⟩ := exists_slot?_of_declares hrun h
  have hd : run.store.declaration? identifier = some slot.declaration := by
    rw [Store.declaration?, hslot, Option.map_some]
  rw [target, ends_bind, ends_get, hd]
  dsimp only
  rw [if_pos hkind]
  exact hQ _ hd

theorem ends_assign_of_declared (hrun : run.store.declarations = item.declarations)
    {d : VariableDeclaration} {identifier : String}
    (hd : run.store.declaration? identifier = some d) (id : NodeId) (kind : AssignmentKind)
    (v : Value) :
    Ends (assign id kind identifier v) run
      (fun _ run' ↦ run'.store.declarations = item.declarations)
      fun error run' ↦ run'.store.declarations = item.declarations ∧ ¬error.IsReference := by
  refine (ends_assign id kind identifier v).mono (fun _ run' h ↦ ?_) fun error run' h ↦ ?_
  · obtain ⟨store, hstore, rfl⟩ := h
    exact (Store.declarations_write hstore).trans hrun
  · obtain ⟨rfl, fault, hfault, rfl⟩ := h
    refine ⟨hrun, ?_⟩
    rcases Store.write_eq_error_iff.1 hfault with ⟨hnone, -⟩ | ⟨d', -, hconform⟩
    · rw [hd] at hnone
      cases hnone
    · cases fault with
      | undeclared x => exact absurd hconform (d'.conform_ne_undeclared v x)
      | _ => exact fun h ↦ h

/-- Every step of rules that the item resolves fails with errors that are not `IsReference`. -/
theorem stepsKeep_of_resolves (item : Item) :
    StepsKeep item (fun _ rule ↦ item.ResolvesRule rule) (fun _ ↦ False)
      (fun run ↦ run.store.declarations = item.declarations) fun error ↦ ¬error.IsReference where
  missing _ h := h.elim
  guard id rule here e he name run hrun := by
    rw [guardHolds, ends_bind]
    refine (ends_value_inward hrun (here.expressions e he)).mono (fun v run' hrun' ↦ ?_)
      fun _ _ h ↦ h
    rw [ends_atRule]
    exact (gives_readSingle (Q := fun _ ↦ True) v trivial fun _ _ _ ↦ trivial).mono
      (fun _ _ ↦ hrun') fun _ h ↦ ⟨hrun', h⟩
  assign id kind identifier e here run hrun := by
    rw [runAssignment, ends_bind]
    have he := here.expressions e (List.mem_singleton_self e)
    have htarget := here.target kind identifier e rfl
    refine (ends_value_inward hrun he).mono (fun v run₁ hrun₁ ↦ ?_) fun _ _ h ↦ h
    rw [ends_bind]
    refine ends_target_of_declares hrun₁ htarget fun d hd ↦ ?_
    split
    · rw [ends_bind]
      refine (ends_lookUp d identifier e v).mono (fun w run₂ h ↦ ?_) fun error run₂ h ↦ ?_
      · obtain ⟨rfl, -⟩ := h
        exact ends_assign_of_declared hrun₁ hd id kind w
      · obtain ⟨rfl, rfl | ⟨site, fault, rfl, hfault⟩⟩ := h
        · exact ⟨hrun₁, fun h ↦ h⟩
        · exact ⟨hrun₁, hfault⟩
    · exact ends_assign_of_declared hrun₁ hd id kind v

end Run

/-- The rules of an item that passes `checkReferences` are all there, so that their run comes to its
end, and it never fails because a rule, a node or a variable is not there or is of the wrong
kind. -/
theorem checkReferences_sound {item : Item} {store : Store}
    (checked : item.checkReferences = .ok ()) (stems : Store.StemsFrom item store) (phase : Phase)
    (generator : Generator) :
    (∀ id ∈ item.roots phase, (item.layout.ruleTree id).Complete ∧
      ∀ fuel, item.layout.rules.size ≤ fuel →
        item.layout.unfoldRule fuel id = item.layout.ruleTree id) ∧
    ∀ error, (execute item (item.ruleTrees phase) store generator).1 = .error error →
      ¬error.IsReference := by
  have each := each_of_checkReferences checked phase
  refine ⟨fun id hid ↦ ?_, fun error herror ↦ ?_⟩
  · have hid := each _ (List.mem_map_of_mem hid)
    exact ⟨hid.mono (fun _ _ h e he ↦ (h.expressions e he).complete) fun _ h ↦ h,
      item.layout.unfoldRule_eq_of_each _ id hid⟩
  · exact ((stepsKeep_of_resolves item).runRules _ each).of_run_eq_error
      stems.declarations_eq herror

/-- The declaration of the outcome `SCORE` as a whole number. -/
def scoreDeclaration : VariableDeclaration :=
  ⟨"SCORE", .single, some .integer, .null, .outcome .plain⟩

/-- An item whose only rule gives its outcome the value of `numAttempts`. -/
def countingItem : Item where
  identifier := "counting"
  title := ""
  adaptive := false
  declarations := builtIns ++ [scoreDeclaration]
  layout :=
    ⟨⟨#[⟨⟨.leaf (.valueOf "numAttempts"), []⟩, none⟩]⟩,
      ⟨#[⟨.assign .outcomeValue "SCORE" 0, none⟩]⟩⟩
  templateRules := []
  responseRules := [0]

theorem countingItem_checked :
    countingItem.checkReferences = .ok () ∧
      (∀ id ∈ [0], (countingItem.layout.ruleTree id).Complete ∧
        ∀ fuel, 1 ≤ fuel →
          countingItem.layout.unfoldRule fuel id = countingItem.layout.ruleTree id) ∧
      ∀ error, (execute countingItem (countingItem.ruleTrees .response)
          ((Store.ofItem countingItem).resetKind .outcome) (.ofSeed 0)).1 = .error error →
        ¬error.IsReference := by
  have checked : countingItem.checkReferences = .ok () := rfl
  exact ⟨checked, checkReferences_sound checked (.resetKind .outcome .fresh) .response (.ofSeed 0)⟩

end AssessmentItem
