import AssessmentItem.Proofs.References.Rules

/-!
# What a run of rules may change

A rule writes one part of the slot of one variable, and its kind says which part and of which kinds
of variables.  So of a slot that a run of rules has changed one can tell what kind of rule has done
so, and that a rule of that kind which names the variable has been executed: the run has come to it,
through the branches that its guards have chosen.  The values of responses are out of reach for all
rules, and what no rule names stays as it is.  All this holds however the run ends.

## Main definitions

* `Processing.Reaches` : the run of rules comes to a rule.
* `Processing.Executes` : an assignment of some kind to a variable is executed.
* `Slot.Framed` : what a run may change of a slot.

## Main results

* `ends_runRules_reached` : a run notes assignments of rules that it has come to, and no others.
* `execute_frame` : what a run leaves of every slot.
-/

namespace AssessmentItem

/-! ### Rules that are executed -/

namespace Processing

/-- The guards of `branches` are found out one after the other, up to the first one that holds. The
branch of that guard is chosen; if none holds, the choice is `none`. -/
inductive Chooses (item : Item) (name : String) : List (Branch ExpressionTree RuleTree) → Run →
    Option (Branch ExpressionTree RuleTree) → Run → Prop
  | none (run : Run) : Chooses item name [] run none run
  | holds {b : Branch ExpressionTree RuleTree} {branches : List (Branch ExpressionTree RuleTree)}
      {run run' : Run} (guard : (guardHolds item name b.guard).run run = (.ok true, run')) :
      Chooses item name (b :: branches) run (some b) run'
  | fails {b : Branch ExpressionTree RuleTree} {branches : List (Branch ExpressionTree RuleTree)}
      {run run' run'' : Run} {chosen : Option (Branch ExpressionTree RuleTree)}
      (guard : (guardHolds item name b.guard).run run = (.ok false, run'))
      (later : Chooses item name branches run' chosen run'') :
      Chooses item name (b :: branches) run chosen run''

/-- The run of `rules` from a state comes to `rule`: to the first one of the list, to one within it,
or to a later one once the first has ended with `.completed`. -/
inductive Reaches (item : Item) :
    List RuleTree → Run → NodeId → Rule ExpressionTree RuleTree → Prop
  | here {id : NodeId} {rule : Rule ExpressionTree RuleTree} {rules : List RuleTree} {run : Run} :
      Reaches item (.node id rule :: rules) run id rule
  | later {first : RuleTree} {rules : List RuleTree} {run run' : Run} {id : NodeId}
      {rule : Rule ExpressionTree RuleTree}
      (completed : (runRule item first).run run = (.ok .completed, run'))
      (reached : Reaches item rules run' id rule) : Reaches item (first :: rules) run id rule
  | fragment {outer : NodeId} {below rules : List RuleTree} {run : Run} {id : NodeId}
      {rule : Rule ExpressionTree RuleTree} (reached : Reaches item below run id rule) :
      Reaches item (.node outer (.fragment below) :: rules) run id rule
  | branch {outer : NodeId} {phase : Phase} {branches : List (Branch ExpressionTree RuleTree)}
      {otherwise rules : List RuleTree} {run run' : Run} {b : Branch ExpressionTree RuleTree}
      {id : NodeId} {rule : Rule ExpressionTree RuleTree}
      (chosen : Chooses item (Rule.condition phase branches otherwise).name branches run (some b)
        run')
      (reached : Reaches item b.rules run' id rule) :
      Reaches item (.node outer (.condition phase branches otherwise) :: rules) run id rule
  | otherwise {outer : NodeId} {phase : Phase} {branches : List (Branch ExpressionTree RuleTree)}
      {otherwise rules : List RuleTree} {run run' : Run} {id : NodeId}
      {rule : Rule ExpressionTree RuleTree}
      (chosen : Chooses item (Rule.condition phase branches otherwise).name branches run none run')
      (reached : Reaches item otherwise run' id rule) :
      Reaches item (.node outer (.condition phase branches otherwise) :: rules) run id rule

/-- The run of `rules` on `store` comes to an assignment of `kind` to `x`. -/
def Executes (item : Item) (rules : List RuleTree) (store : Store) (generator : Generator)
    (kind : AssignmentKind) (x : String) : Prop :=
  ∃ id e, Reaches item rules ⟨store, generator, []⟩ id (.assign kind x e)

/-- Every assignment that a run has noted in addition to another run is of a rule with `P`. -/
def NotesOnly (P : NodeId → Rule ExpressionTree RuleTree → Prop) (run run' : Run) : Prop :=
  ∀ a ∈ run'.assignments,
    a ∈ run.assignments ∨ ∃ e, P a.ruleId (.assign a.kind a.identifier e)

section Reached

variable {item : Item} {P P' : NodeId → Rule ExpressionTree RuleTree → Prop}
  {run run' run'' : Run}

theorem NotesOnly.of_sameWrites (h : run.SameWrites run') : NotesOnly P run run' := by
  intro a ha
  rw [h.assignments_eq] at ha
  exact .inl ha

theorem NotesOnly.mono (h : NotesOnly P run run') (hP : ∀ id rule, P id rule → P' id rule) :
    NotesOnly P' run run' := by
  intro a ha
  rcases h a ha with ha | ⟨e, he⟩
  · exact .inl ha
  · exact .inr ⟨e, hP _ _ he⟩

theorem NotesOnly.trans (h : NotesOnly P run run') (h' : NotesOnly P run' run'') :
    NotesOnly P run run'' := by
  intro a ha
  rcases h' a ha with ha | he
  · exact h a ha
  · exact .inr he

end Reached

/-- The run of the rules of the branch that `Chooses` picks comes to `rule`. -/
def ReachesWithin (item : Item) (name : String) (branches : List (Branch ExpressionTree RuleTree))
    (run : Run) (id : NodeId) (rule : Rule ExpressionTree RuleTree) : Prop :=
  ∃ b run', Chooses item name branches run (some b) run' ∧ Reaches item b.rules run' id rule

mutual

/-- A run of `runRule` notes assignments of rules that it `Reaches`, and no others. -/
theorem ends_runRule_reached (item : Item) (rules : List RuleTree) :
    (tree : RuleTree) → (run : Run) → Ends (runRule item tree) run
      (fun _ run' ↦ NotesOnly (Reaches item (tree :: rules) run) run run')
      fun _ run' ↦ NotesOnly (Reaches item (tree :: rules) run) run run'
  | .missing _, run => by
      rw [runRule]
      exact .of_sameWrites (.refl run)
  | .node id (.condition phase branches otherwise), run => by
      have chosen (i : NodeId) (rule : Rule ExpressionTree RuleTree) :
          ReachesWithin item (Rule.condition phase branches otherwise).name branches run i rule →
          Reaches item (.node id (.condition phase branches otherwise) :: rules) run i rule :=
        fun ⟨_, _, hchosen, hreached⟩ ↦ .branch hchosen hreached
      rw [runRule, ends_bind]
      refine (ends_runBranches_reached item _ branches run).mono (fun outcome run₁ h ↦ ?_)
        fun _ _ h ↦ h.mono chosen
      obtain ⟨hnotes, hnone⟩ := h
      cases outcome with
      | some outcome => exact hnotes.mono chosen
      | none =>
        have later (i : NodeId) (rule : Rule ExpressionTree RuleTree)
            (h : Reaches item otherwise run₁ i rule) :
            Reaches item (.node id (.condition phase branches otherwise) :: rules) run i rule :=
          .otherwise (hnone rfl) h
        exact (ends_runRules_reached item otherwise run₁).mono
          (fun _ _ h ↦ (hnotes.mono chosen).trans (h.mono later))
          fun _ _ h ↦ (hnotes.mono chosen).trans (h.mono later)
  | .node id (.assign kind identifier e), run => by
      rw [runRule, ends_bind]
      refine (ends_runAssignment id kind identifier e).mono (fun _ run' h ↦ ?_)
        fun _ _ h ↦ .of_sameWrites h
      obtain ⟨v, -, hnoted⟩ := h
      intro a ha
      rw [hnoted] at ha
      rcases List.mem_append.1 ha with ha | ha
      · exact .inl ha
      · obtain rfl := List.mem_singleton.1 ha
        exact .inr ⟨e, .here⟩
  | .node _ (.exit phase), run => by
      rw [runRule]
      exact .of_sameWrites (.refl run)
  | .node id (.constraint condition), run => by
      rw [runRule, ends_bind]
      refine (ends_guardHolds _ condition).mono (fun holds run' h ↦ ?_)
        fun _ _ h ↦ .of_sameWrites h
      cases holds <;> exact .of_sameWrites h
  | .node id (.fragment below), run => by
      rw [runRule]
      exact (ends_runRules_reached item below run).mono
        (fun _ _ h ↦ h.mono fun _ _ ↦ .fragment) fun _ _ h ↦ h.mono fun _ _ ↦ .fragment

/-- A run of `runRules` notes assignments of rules that it `Reaches`, and no others. -/
theorem ends_runRules_reached (item : Item) :
    (rules : List RuleTree) → (run : Run) → Ends (runRules item rules) run
      (fun _ run' ↦ NotesOnly (Reaches item rules run) run run')
      fun _ run' ↦ NotesOnly (Reaches item rules run) run run'
  | [], run => by
      rw [runRules]
      exact .of_sameWrites (.refl run)
  | tree :: rules, run => by
      rw [runRules, ends_bind]
      refine (ends_runRule_reached item rules tree run).with_run.mono (fun outcome run₁ h ↦ ?_)
        fun _ _ h ↦ h
      obtain ⟨hrun, hnotes⟩ := h
      cases outcome with
      | completed =>
        exact (ends_runRules_reached item rules run₁).mono
          (fun _ _ h ↦ hnotes.trans (h.mono fun _ _ ↦ .later hrun))
          fun _ _ h ↦ hnotes.trans (h.mono fun _ _ ↦ .later hrun)
      | exited phase => exact hnotes
      | constraintFailed => exact hnotes

theorem ends_runBranches_reached (item : Item) (name : String) :
    (branches : List (Branch ExpressionTree RuleTree)) → (run : Run) →
    Ends (runBranches item name branches) run
      (fun outcome run' ↦ NotesOnly (ReachesWithin item name branches run) run run' ∧
        (outcome = none → Chooses item name branches run none run'))
      fun _ run' ↦ NotesOnly (ReachesWithin item name branches run) run run'
  | [], run => by
      rw [runBranches]
      exact ⟨.of_sameWrites (.refl run), fun _ ↦ .none run⟩
  | ⟨guard, rules⟩ :: branches, run => by
      rw [runBranches, ends_bind]
      refine (ends_guardHolds name guard).with_run.mono (fun holds run₁ h ↦ ?_)
        fun _ _ h ↦ .of_sameWrites h
      obtain ⟨hrun, hsame⟩ := h
      have hguard : NotesOnly (ReachesWithin item name (⟨guard, rules⟩ :: branches) run) run run₁ :=
        .of_sameWrites hsame
      cases holds with
      | true =>
        have here (i : NodeId) (rule : Rule ExpressionTree RuleTree)
            (h : Reaches item rules run₁ i rule) :
            ReachesWithin item name (⟨guard, rules⟩ :: branches) run i rule :=
          ⟨_, _, .holds hrun, h⟩
        exact (ends_bind _ _).2 ((ends_runRules_reached item rules run₁).mono
          (fun _ _ h ↦ ⟨hguard.trans (h.mono here), nofun⟩) fun _ _ h ↦ hguard.trans (h.mono here))
      | false =>
        have later (i : NodeId) (rule : Rule ExpressionTree RuleTree) :
            ReachesWithin item name branches run₁ i rule →
            ReachesWithin item name (⟨guard, rules⟩ :: branches) run i rule :=
          fun ⟨b, run', hchosen, hreached⟩ ↦ ⟨b, run', .fails hrun hchosen, hreached⟩
        exact (ends_runBranches_reached item name branches run₁).mono
          (fun _ _ h ↦ ⟨hguard.trans (h.1.mono later), fun hnone ↦ .fails hrun (h.2 hnone)⟩)
          fun _ _ h ↦ hguard.trans (h.mono later)

end

/-- For every assignment of a run its kind and its variable are among those that the rules
`Executes`. -/
theorem executes_of_mem_assignments {item : Item} {rules : List RuleTree} {store : Store}
    {generator : Generator} {a : Assignment}
    (ha : a ∈ (execute item rules store generator).2.assignments) :
    Executes item rules store generator a.kind a.identifier := by
  have hnotes : NotesOnly (Reaches item rules ⟨store, generator, []⟩) ⟨store, generator, []⟩
      (execute item rules store generator).2 :=
    (ends_run _ _ (P := fun _ run ↦ NotesOnly _ _ run)).1
      (ends_runRules_reached item rules ⟨store, generator, []⟩)
  rcases hnotes a ha with h | ⟨e, he⟩
  · nomatch h
  · exact ⟨_, e, he⟩

end Processing

/-! ### The slots that a run leaves -/

open Processing

/-- What a run may change of a slot whose variable is assigned to by rules of the kinds
`executed`. -/
structure Slot.Framed (executed : AssignmentKind → Prop) (s s' : Slot) : Prop where
  declaration_eq : s'.declaration = s.declaration
  /-- No rule reaches the `value` of a `.response`. -/
  value_of_response : s.declaration.kind = .response → s'.value = s.value
  value_of_template : s.declaration.kind = .template → s'.value ≠ s.value → executed .templateValue
  value_of_outcome : s.declaration.kind = .outcome → s'.value ≠ s.value →
    executed .outcomeValue ∨ executed .lookup
  defaultOverride : s'.defaultOverride ≠ s.defaultOverride →
    (s.declaration.kind = .response ∨ s.declaration.kind = .outcome) ∧ executed .defaultValue
  correctOverride : s'.correctOverride ≠ s.correctOverride →
    s.declaration.kind = .response ∧ executed .correctResponse

/-- A part `p` of a slot that is not as it was has been written by an assignment with `part a.kind =
p`, to a variable whose kind is among `a.kind.targets`. -/
theorem Store.Replays.exists_assignment_of_held_ne {store store' : Store} {as : List Assignment}
    (h : store.Replays as store') {x : String} {s s' : Slot} (hs : store.slot? x = some s)
    (hs' : store'.slot? x = some s') {p : SlotPart} (hne : s'.held p ≠ s.held p) :
    ∃ a ∈ as, a.identifier = x ∧ part a.kind = p ∧ s.declaration.kind ∈ a.kind.targets := by
  by_contra hnone
  push Not at hnone
  have hheld : store'.held? p x = store.held? p x := by
    refine h.held?_eq fun a ha hid hpart ↦ ?_
    obtain ⟨d, hd, htarget⟩ := h.target a ha
    rw [hid, declaration?_of_slot? hs] at hd
    obtain rfl := Option.some.inj hd
    exact hnone a ha hid hpart htarget
  rw [held?, held?, hs, hs'] at hheld
  exact hne hheld

/-- The kinds of assignments that write a `.value`: one for templates, two for outcomes, none for
responses. -/
theorem kind_of_part_eq_value {kind : AssignmentKind} (hpart : part kind = .value)
    {target : VariableKind} (htarget : target ∈ kind.targets) :
    target = .template ∧ kind = .templateValue ∨
      target = .outcome ∧ (kind = .outcomeValue ∨ kind = .lookup) := by
  cases kind <;> simp [part, AssignmentKind.targets] at hpart htarget ⊢ <;> exact htarget

theorem kind_of_part_eq_default {kind : AssignmentKind} (hpart : part kind = .default) :
    kind = .defaultValue := by
  cases kind <;> first | rfl | cases hpart

theorem kind_of_part_eq_correct {kind : AssignmentKind} (hpart : part kind = .correct) :
    kind = .correctResponse := by
  cases kind <;> first | rfl | cases hpart

/-- A slot after assignments of kinds that are `executed`. -/
theorem Store.Replays.framed {store store' : Store} {as : List Assignment}
    (h : store.Replays as store') {x : String} {executed : AssignmentKind → Prop}
    (hexecuted : ∀ a ∈ as, a.identifier = x → executed a.kind) {s : Slot}
    (hs : store.slot? x = some s) : ∃ s', store'.slot? x = some s' ∧ s.Framed executed s' := by
  have hdecl : (store'.slot? x).map (·.declaration) = (store.slot? x).map (·.declaration) :=
    h.map_slot?_eq fun a _ _ s v ↦ s.declaration_write (part a.kind) v
  rw [hs] at hdecl
  obtain ⟨s', hs', hsame⟩ := Option.map_eq_some_iff.1 hdecl
  have written {p : SlotPart} (hne : s'.held p ≠ s.held p) :
      ∃ kind, part kind = p ∧ s.declaration.kind ∈ kind.targets ∧ executed kind := by
    obtain ⟨a, ha, hid, hpart, htarget⟩ := h.exists_assignment_of_held_ne hs hs' hne
    exact ⟨a.kind, hpart, htarget, hexecuted a ha hid⟩
  have valueWritten (hne : s'.value ≠ s.value) :
      s.declaration.kind = .template ∧ executed .templateValue ∨
        s.declaration.kind = .outcome ∧ (executed .outcomeValue ∨ executed .lookup) := by
    obtain ⟨kind, hpart, htarget, hdone⟩ :=
      written (p := .value) fun heq ↦ hne (Option.some.inj heq)
    rcases kind_of_part_eq_value hpart htarget with ⟨hkind, rfl⟩ | ⟨hkind, rfl | rfl⟩
    · exact .inl ⟨hkind, hdone⟩
    · exact .inr ⟨hkind, .inl hdone⟩
    · exact .inr ⟨hkind, .inr hdone⟩
  refine ⟨s', hs', hsame, fun hkind ↦ ?_, fun hkind hne ↦ ?_, fun hkind hne ↦ ?_, fun hne ↦ ?_,
    fun hne ↦ ?_⟩
  · by_contra hne
    rcases valueWritten hne with ⟨htemplate, -⟩ | ⟨houtcome, -⟩
    · exact nomatch hkind.symm.trans htemplate
    · exact nomatch hkind.symm.trans houtcome
  · rcases valueWritten hne with ⟨-, hdone⟩ | ⟨houtcome, -⟩
    · exact hdone
    · exact nomatch hkind.symm.trans houtcome
  · rcases valueWritten hne with ⟨htemplate, -⟩ | ⟨-, hdone⟩
    · exact nomatch hkind.symm.trans htemplate
    · exact hdone
  · obtain ⟨kind, hpart, htarget, hdone⟩ := written (p := .default) hne
    obtain rfl := kind_of_part_eq_default hpart
    exact ⟨by simpa [AssignmentKind.targets] using htarget, hdone⟩
  · obtain ⟨kind, hpart, htarget, hdone⟩ := written (p := .correct) hne
    obtain rfl := kind_of_part_eq_correct hpart
    exact ⟨List.mem_singleton.1 htarget, hdone⟩

/-- Every slot that `execute` leaves, however it ends, differs from the one before as the rules that
it `Executes` may change it. A slot whose variable no rule below the list names is the same as
before. -/
theorem execute_frame (item : Item) (rules : List RuleTree) (store : Store) (generator : Generator)
    (x : String) :
    (∀ s, store.slot? x = some s →
      ∃ s', (execute item rules store generator).2.store.slot? x = some s' ∧
        s.Framed (fun kind ↦ Executes item rules store generator kind x) s') ∧
    ((∀ tree ∈ rules, tree.Each (fun _ rule ↦ rule.target? ≠ some x) fun _ ↦ True) →
      (execute item rules store generator).2.store.slot? x = store.slot? x) := by
  refine ⟨fun s hs ↦ ?_, fun unnamed ↦ ?_⟩
  · have hall : ∀ rule ∈ rules, rule.Each (fun _ _ ↦ True) fun _ ↦ True :=
      RuleTree.each_rules_of_forall (fun _ _ ↦ trivial) (fun _ ↦ trivial) rules
    have hreplays := (logged_execute item hall store generator).replays
    refine hreplays.framed (fun a ha hid ↦ ?_) hs
    rw [← hid]
    exact executes_of_mem_assignments ha
  · have hlogged := logged_execute item unnamed store generator
    have hnot : ∀ a ∈ (execute item rules store generator).2.assignments, a.identifier ≠ x := by
      intro a ha hid
      obtain ⟨e, he⟩ := hlogged.noted a ha
      exact he (congrArg some hid)
    have hsame := hlogged.replays.map_slot?_eq (f := id) fun a ha hid ↦ absurd hid (hnot a ha)
    rwa [Option.map_id_fun, id, id] at hsame

/-- A store of `countingItem` whose `numAttempts` is three. -/
def countedStore : Store := (Store.ofItem countingItem).put .value "numAttempts" (.integer 3)

theorem execute_frame_countedStore :
    let run := (execute countingItem (countingItem.ruleTrees .response) countedStore (.ofSeed 0)).2
    (∃ s s', countedStore.slot? "SCORE" = some s ∧ run.store.slot? "SCORE" = some s' ∧
      s'.value ≠ s.value ∧
      (Executes countingItem (countingItem.ruleTrees .response) countedStore (.ofSeed 0)
          .outcomeValue "SCORE" ∨
        Executes countingItem (countingItem.ruleTrees .response) countedStore (.ofSeed 0)
          .lookup "SCORE")) ∧
    run.store.slot? "duration" = countedStore.slot? "duration" := by
  intro run
  have frame (x : String) :=
    execute_frame countingItem (countingItem.ruleTrees .response) countedStore (.ofSeed 0) x
  refine ⟨?_, (frame "duration").2 ?_⟩
  · have hslot : countedStore.slot? "SCORE" =
        some ⟨scoreDeclaration, .integer 0, none, none⟩ := rfl
    obtain ⟨s', hs', hframed⟩ := (frame "SCORE").1 _ hslot
    have hthree :
        ((run.store.value? "SCORE").bind Value.single?).bind Scalar.integer? = some 3 := by
      decide +kernel
    have hne : s'.value ≠ .integer 0 := by
      intro hzero
      rw [Store.value?, hs', Option.map_some, hzero] at hthree
      exact absurd hthree (by decide)
    exact ⟨_, s', hslot, hs', hne, hframed.value_of_outcome rfl hne⟩
  · intro tree htree
    obtain rfl := List.mem_singleton.1 htree
    exact .node (by decide) (List.forall_mem_nil _)

end AssessmentItem
