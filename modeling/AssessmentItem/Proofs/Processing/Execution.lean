import AssessmentItem.Proofs.Processing.Effects

/-!
# Runs that succeed

A run notes assignments of rules that it has come to, however it ends.  Where it does not fail, it
has noted all of them: an assignment that it comes to is made, and what is noted stays noted.  So
the notes of such a run tell which assignments have been executed.

## Main results

* `Processing.Reaches.exists_noted` : an assignment that a run comes to is noted by its end.
* `Processing.executes_iff_of_execute_eq_ok` : what is executed is what is noted.
* `Processing.Reaches.of_each` : a run comes to rules of its trees alone.
-/

namespace AssessmentItem.Processing

open Evaluation

variable {item : Item} {run run' : Run} {outcome : Outcome}

/-! ### What is noted stays noted -/

theorem mem_assignments_of_sameWrites {a : Assignment} (ha : a ∈ run.assignments)
    (hsame : run.SameWrites run') : a ∈ run'.assignments := by
  rwa [hsame.assignments_eq]

theorem stepsKeep_mem_assignments (item : Item) (a : Assignment) :
    StepsKeep item (fun _ _ ↦ True) (fun _ ↦ True) (fun run ↦ a ∈ run.assignments)
      fun _ ↦ True where
  missing _ _ := trivial
  guard id rule _ e _ name run h :=
    (ends_guardHolds name e).mono (fun _ _ hsame ↦ mem_assignments_of_sameWrites h hsame)
      fun _ _ hsame ↦ ⟨mem_assignments_of_sameWrites h hsame, trivial⟩
  assign id kind identifier e _ run h := by
    refine (ends_runAssignment id kind identifier e).mono (fun _ run' hrun ↦ ?_)
      fun _ _ hsame ↦ ⟨mem_assignments_of_sameWrites h hsame, trivial⟩
    obtain ⟨v, -, hnoted⟩ := hrun
    rw [hnoted]
    exact List.mem_append_left _ h

theorem mem_assignments_of_run {a : Assignment} (ha : a ∈ run.assignments)
    (rules : List RuleTree) : a ∈ ((runRules item rules).run run).2.assignments :=
  ((stepsKeep_mem_assignments item a).runRules rules
    (RuleTree.each_rules_of_forall (fun _ _ ↦ trivial) (fun _ ↦ trivial) rules)).run ha

/-! ### Parts of a run -/

/-- Where `runRules` succeeds it has run the first rule, and what that has noted is noted in the
end. -/
theorem exists_run_of_runRules_cons {tree : RuleTree} {rules : List RuleTree}
    (h : (runRules item (tree :: rules)).run run = (.ok outcome, run')) :
    ∃ first run₁, (runRule item tree).run run = (.ok first, run₁) ∧
      run₁.assignments ⊆ run'.assignments ∧
      (first = .completed → (runRules item rules).run run₁ = (.ok outcome, run')) := by
  rw [runRules] at h
  obtain ⟨first, run₁, hfirst, hrest⟩ := run_bind_eq_ok_iff.1 h
  refine ⟨first, run₁, hfirst, ?_⟩
  cases first with
  | completed =>
    have hrest : (runRules item rules).run run₁ = (.ok outcome, run') := hrest
    refine ⟨fun a ha ↦ ?_, fun _ ↦ hrest⟩
    have hmem : a ∈ ((runRules item rules).run run₁).2.assignments :=
      mem_assignments_of_run ha rules
    rwa [hrest] at hmem
  | exited phase =>
    cases hrest
    exact ⟨List.Subset.refl _, nofun⟩
  | constraintFailed =>
    cases hrest
    exact ⟨List.Subset.refl _, nofun⟩

/-- The run of `runBranches` is that of the branch which is `chosen`. -/
theorem run_runBranches_of_chooses {name : String}
    {branches : List (Branch ExpressionTree RuleTree)}
    {chosen : Option (Branch ExpressionTree RuleTree)}
    (h : Chooses item name branches run chosen run') :
    (runBranches item name branches).run run =
      (chosen.elim (pure none) fun b ↦ some <$> runRules item b.rules).run run' := by
  induction h with
  | none run =>
    rw [runBranches]
    rfl
  | holds guard =>
    rw [runBranches, run_bind_of_run_eq_ok guard, Option.elim_some, ← bind_pure_comp]
    rfl
  | fails guard later ih =>
    rw [runBranches, run_bind_of_run_eq_ok guard, ← ih]
    rfl

/-- The run of a `.condition` is that of the rules which are `chosen`. -/
theorem run_condition_of_chooses {id : NodeId} {phase : Phase}
    {branches : List (Branch ExpressionTree RuleTree)} {otherwise : List RuleTree}
    {chosen : Option (Branch ExpressionTree RuleTree)}
    (h : Chooses item (Rule.condition phase branches otherwise).name branches run chosen run') :
    (runRule item (.node id (.condition phase branches otherwise))).run run =
      (runRules item (chosen.elim otherwise (·.rules))).run run' := by
  rw [runRule, run_bind, run_runBranches_of_chooses h]
  cases chosen with
  | none => rfl
  | some b =>
    rw [Option.elim_some, Option.elim_some, ← bind_pure_comp, run_bind]
    rcases (runRules item b.rules).run run' with ⟨_ | _, _⟩ <;> rfl

/-! ### What is executed -/

/-- An assignment that a run `Reaches` is noted by its end, if the run does not fail. -/
theorem Reaches.exists_noted {rules : List RuleTree} {id : NodeId}
    {rule : Rule ExpressionTree RuleTree} (h : Reaches item rules run id rule)
    {kind : AssignmentKind} {x : String} {e : ExpressionTree} (hrule : rule = .assign kind x e)
    (succeeded : (runRules item rules).run run = (.ok outcome, run')) :
    ∃ a ∈ run'.assignments, a.kind = kind ∧ a.identifier = x := by
  induction h generalizing outcome run' with
  | here =>
    subst hrule
    obtain ⟨first, run₁, hfirst, hsub, -⟩ := exists_run_of_runRules_cons succeeded
    rw [runRule] at hfirst
    obtain ⟨_, run₂, hassigned, hpure⟩ := run_bind_eq_ok_iff.1 hfirst
    cases hpure
    obtain ⟨v, -, hnoted⟩ := (ends_runAssignment _ kind x e).of_run_eq_ok hassigned
    exact ⟨_, hsub (hnoted ▸ List.mem_append_right _ (List.mem_singleton_self _)), rfl, rfl⟩
  | later completed reached ih =>
    obtain ⟨first, run₁, hfirst, -, hrest⟩ := exists_run_of_runRules_cons succeeded
    cases completed.symm.trans hfirst
    exact ih hrule (hrest rfl)
  | fragment reached ih =>
    obtain ⟨first, run₁, hfirst, hsub, -⟩ := exists_run_of_runRules_cons succeeded
    rw [runRule] at hfirst
    obtain ⟨a, ha, hnoted⟩ := ih hrule hfirst
    exact ⟨a, hsub ha, hnoted⟩
  | branch chosen reached ih | otherwise chosen reached ih =>
    obtain ⟨first, run₁, hfirst, hsub, -⟩ := exists_run_of_runRules_cons succeeded
    rw [run_condition_of_chooses chosen] at hfirst
    obtain ⟨a, ha, hnoted⟩ := ih hrule hfirst
    exact ⟨a, hsub ha, hnoted⟩

/-- Where `execute` does not fail, its `assignments` tell which assignments it `Executes`. -/
theorem executes_iff_of_execute_eq_ok {rules : List RuleTree} {store : Store}
    {generator : Generator} (succeeded : execute item rules store generator = (.ok outcome, run))
    (kind : AssignmentKind) (x : String) :
    Executes item rules store generator kind x ↔
      ∃ a ∈ run.assignments, a.kind = kind ∧ a.identifier = x := by
  constructor
  · rintro ⟨id, e, reached⟩
    exact reached.exists_noted rfl succeeded
  · rintro ⟨a, ha, rfl, rfl⟩
    refine executes_of_mem_assignments ?_
    rwa [succeeded]

/-! ### What is not executed -/

theorem Chooses.mem {name : String} {branches : List (Branch ExpressionTree RuleTree)}
    {b : Branch ExpressionTree RuleTree} (h : Chooses item name branches run (some b) run') :
    b ∈ branches := by
  generalize hchosen : some b = chosen at h
  induction h with
  | none => cases hchosen
  | holds =>
    obtain rfl := Option.some.inj hchosen
    exact List.mem_cons_self
  | fails _ _ ih => exact List.mem_cons_of_mem _ (ih hchosen)

/-- A run `Reaches` rules of its trees alone. -/
theorem Reaches.of_each {P : NodeId → Rule ExpressionTree RuleTree → Prop} {M : NodeId → Prop}
    {rules : List RuleTree} {id : NodeId} {rule : Rule ExpressionTree RuleTree}
    (h : Reaches item rules run id rule) (each : ∀ tree ∈ rules, tree.Each P M) : P id rule := by
  induction h with
  | here => exact (RuleTree.each_node_iff.1 (each _ List.mem_cons_self)).1
  | later _ _ ih => exact ih fun tree htree ↦ each tree (List.mem_cons_of_mem _ htree)
  | fragment _ ih => exact ih (RuleTree.each_node_iff.1 (each _ List.mem_cons_self)).2
  | branch chosen _ ih =>
    have below := (RuleTree.each_node_iff.1 (each _ List.mem_cons_self)).2
    exact ih fun tree htree ↦
      below tree (List.mem_append_left _ (List.mem_flatMap.2 ⟨_, chosen.mem, htree⟩))
  | otherwise _ _ ih =>
    have below := (RuleTree.each_node_iff.1 (each _ List.mem_cons_self)).2
    exact ih fun tree htree ↦ below tree (List.mem_append_right _ htree)

/-- What no rule of `rules` assigns, at any depth, is not executed. -/
theorem not_executes_of_each {rules : List RuleTree} {kind : AssignmentKind} {x : String}
    (each : ∀ tree ∈ rules, tree.Each (fun _ rule ↦ ∀ e, rule ≠ .assign kind x e) fun _ ↦ True)
    (store : Store) (generator : Generator) : ¬Executes item rules store generator kind x := by
  rintro ⟨id, e, reached⟩
  exact reached.of_each each e rfl

end AssessmentItem.Processing
