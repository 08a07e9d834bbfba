import AssessmentItem.Proofs.Processing.Runs

/-!
# Assignments of a run

A step of a run either writes one value of a suitable kind of variable and notes it, or leaves the
store and the notes as they are.  So the store that a run leaves is the one it began with, written
by the noted assignments in their order, and what no assignment writes is as it was.

## Main definitions

* `Assignment.Applies`, `Store.Replays` : what an assignment and a list of them do to a store.
* `Run.Logged` : the store of a run is the one that its assignments replay.

## Main results

* `logged_execute` : a run is logged, however it ends.
* `Store.Replays.wellTyped` : assignments keep a store well typed.
* `Store.Replays.value?_of_response` : assignments leave the values of responses.
-/

namespace AssessmentItem

open Evaluation Processing

/-! ### Steps -/

/-- Two runs have the same `store` and have noted the same `assignments`. -/
structure Run.SameWrites (run run' : Run) : Prop where
  store_eq : run'.store = run.store
  assignments_eq : run'.assignments = run.assignments

theorem Run.SameWrites.refl (run : Run) : run.SameWrites run := ⟨rfl, rfl⟩

section Steps

variable {α : Type} {item : Item} {run : Run} {Q : α → Run → Prop}
  {E : AuthoringError → Run → Prop}

theorem ends_value {Q : Value → Run → Prop} (e : ExpressionTree) :
    Ends (value item e) run Q E ↔ Ends (evaluate ⟨item, run.store⟩ e) run.generator
      (fun v generator ↦ Q v { run with generator })
      fun error generator ↦ E (.evaluation error) { run with generator } := by
  unfold Ends value
  rw [ExceptT.run_mk]
  rcases (evaluate ⟨item, run.store⟩ e).run run.generator with ⟨_ | _, _⟩ <;> rfl

@[simp] theorem ends_atRule (name : String) (e : ExpressionTree) (r : Except Fault α) :
    Ends (atRule item name e r) run Q E ↔ Gives r (fun a ↦ Q a run) fun fault ↦
      E (.evaluation ⟨⟨name, item.path e.id⟩, fault⟩) run := by
  cases r <;> rfl

/-- The run of `value item e` leaves the store, and its value is well formed if the store is
`WellTyped`. -/
theorem ends_value_sameWrites (e : ExpressionTree) :
    Ends (value item e) run
      (fun v run' ↦ run.SameWrites run' ∧ (run.store.WellTyped → v.WellFormed))
      fun _ run' ↦ run.SameWrites run' := by
  rw [ends_value]
  by_cases h : run.store.WellTyped
  · exact (ends_evaluate h e run.generator).mono (fun _ _ hv ↦ ⟨⟨rfl, rfl⟩, fun _ ↦ hv.wellFormed⟩)
      fun _ _ _ ↦ ⟨rfl, rfl⟩
  · exact (ends_any _ run.generator).mono (fun _ _ _ ↦ ⟨⟨rfl, rfl⟩, fun hw ↦ absurd hw h⟩)
      fun _ _ _ ↦ ⟨rfl, rfl⟩

/-- The fault of a `readSingle` that finds a value it cannot read refers to nothing. -/
theorem gives_readSingle (v : Value) {whenNull : α} {expected : BaseTypes}
    {read? : Scalar → Option α} {Q : α → Prop} (hnull : Q whenNull)
    (hread : ∀ s a, read? s = some a → Q a) :
    Gives (readSingle v whenNull expected read?) Q Inward := by
  unfold readSingle
  split
  · exact hnull
  · split
    · rename_i ha
      exact hread _ _ ha
    · exact fun h ↦ h
  · exact fun h ↦ h

/-- The run of `guardHolds` leaves the store. -/
theorem ends_guardHolds (name : String) (guard : ExpressionTree) :
    Ends (guardHolds item name guard) run (fun _ run' ↦ run.SameWrites run')
      fun _ run' ↦ run.SameWrites run' := by
  rw [guardHolds, ends_bind]
  refine (ends_value_sameWrites guard).mono (fun v run' h ↦ ?_) fun _ _ h ↦ h
  rw [ends_atRule]
  exact (gives_readSingle (Q := fun _ ↦ True) v trivial fun _ _ _ ↦ trivial).mono
    (fun _ _ ↦ h.1) fun _ _ ↦ h.1

theorem ends_target (kind : AssignmentKind) (identifier : String) :
    Ends (target kind identifier) run
      (fun d run' ↦ run' = run ∧ run.store.declaration? identifier = some d ∧
        d.kind ∈ kind.targets)
      fun _ run' ↦ run' = run := by
  rw [target, ends_bind, ends_get]
  split
  · rfl
  · rename_i d hd
    by_cases hkind : d.kind ∈ kind.targets
    · rw [if_pos hkind]
      exact ⟨rfl, hd, hkind⟩
    · rw [if_neg hkind]
      rfl

/-- What `lookUp` gives is a member of a table or `.null`. -/
theorem ends_lookUp (d : VariableDeclaration) (identifier : String) (e : ExpressionTree)
    (v : Value) :
    Ends (lookUp item d identifier e v) run (fun w run' ↦ run' = run ∧ w.WellFormed)
      fun error run' ↦ run' = run ∧ (error = .noTable identifier ∨
        ∃ site fault, error = .evaluation ⟨site, fault⟩ ∧ Inward fault) := by
  unfold lookUp
  split
  · exact ⟨rfl, .inl rfl⟩
  · rename_i table _
    rw [ends_atRule]
    have hread : Gives (readSingle v .null .numeric fun s ↦
        s.number?.map fun x ↦ ((table.find? x).map Value.single).getD .null)
        Value.WellFormed Inward := by
      refine gives_readSingle v Value.wellFormed_null fun s w hw ↦ ?_
      obtain ⟨x, -, rfl⟩ := Option.map_eq_some_iff.1 hw
      cases table.find? x <;> trivial
    exact hread.mono (fun w hw ↦ ⟨rfl, hw⟩) fun fault hfault ↦ ⟨rfl, .inr ⟨_, fault, rfl, hfault⟩⟩

theorem ends_assign (id : NodeId) (kind : AssignmentKind) (identifier : String) (v : Value) :
    Ends (assign id kind identifier v) run
      (fun _ run' ↦ ∃ store, run.store.write (part kind) identifier v = .ok store ∧
        run' = { run with
          store, assignments := run.assignments ++ [⟨identifier, v, kind, id⟩] })
      fun error run' ↦ run' = run ∧
        ∃ fault, run.store.write (part kind) identifier v = .error fault ∧
          error = .rule kind.name identifier (.assignment fault) := by
  rw [assign, ends_bind, ends_get]
  split
  · rename_i fault hfault
    exact ⟨rfl, fault, hfault, rfl⟩
  · rename_i store hstore
    exact ⟨store, hstore, rfl⟩

end Steps

/-! ### Assignments -/

/-- The assignment `a` takes `store` to `store'`: it writes `a.value` to `part a.kind` of a variable
whose kind is among `a.kind.targets`. -/
structure Assignment.Applies (a : Assignment) (store store' : Store) : Prop where
  target : ∃ d, store.declaration? a.identifier = some d ∧ d.kind ∈ a.kind.targets
  wellFormed : store.WellTyped → a.value.WellFormed
  written : store.write (part a.kind) a.identifier a.value = .ok store'

/-- The assignments `as` take a store to another, one after the other. -/
inductive Store.Replays : Store → List Assignment → Store → Prop
  | nil (store : Store) : Store.Replays store [] store
  | snoc {store store' store'' : Store} {as : List Assignment} {a : Assignment}
      (before : Store.Replays store as store') (last : a.Applies store' store'') :
      Store.Replays store (as ++ [a]) store''

/-- The run of `runAssignment` writes its value and notes it, or it writes and notes nothing. -/
theorem ends_runAssignment {item : Item} {run : Run} (id : NodeId) (kind : AssignmentKind)
    (identifier : String) (e : ExpressionTree) :
    Ends (runAssignment item id kind identifier e) run
      (fun _ run' ↦ ∃ v, Assignment.Applies ⟨identifier, v, kind, id⟩ run.store run'.store ∧
        run'.assignments = run.assignments ++ [⟨identifier, v, kind, id⟩])
      fun _ run' ↦ run.SameWrites run' := by
  rw [runAssignment, ends_bind]
  refine (ends_value_sameWrites e).mono (fun v run₁ hv ↦ ?_) fun _ _ h ↦ h
  obtain ⟨⟨hstore, hnoted⟩, hwell⟩ := hv
  rw [ends_bind]
  refine (ends_target kind identifier).mono (fun d run₂ hrun₂ ↦ ?_) fun _ run₂ h ↦
    h ▸ ⟨hstore, hnoted⟩
  obtain ⟨hrun₂, hd, hkind⟩ := hrun₂
  obtain rfl : run₁ = run₂ := hrun₂.symm
  have assigned (w : Value) (hw : run.store.WellTyped → w.WellFormed) :
      Ends (assign id kind identifier w) run₁
        (fun _ run' ↦ ∃ v, Assignment.Applies ⟨identifier, v, kind, id⟩ run.store run'.store ∧
          run'.assignments = run.assignments ++ [⟨identifier, v, kind, id⟩])
        fun _ run' ↦ run.SameWrites run' := by
    refine (ends_assign id kind identifier w).mono (fun _ run' h ↦ ?_) fun _ run' h ↦
      h.1 ▸ ⟨hstore, hnoted⟩
    obtain ⟨store, hwritten, rfl⟩ := h
    rw [hstore] at hd hwritten
    exact ⟨w, ⟨⟨d, hd, hkind⟩, hw, hwritten⟩, congrArg (· ++ _) hnoted⟩
  split
  · rw [ends_bind]
    refine (ends_lookUp d identifier e v).mono (fun w run' hw ↦ ?_) fun _ run' h ↦
      h.1 ▸ ⟨hstore, hnoted⟩
    obtain ⟨rfl, hw⟩ := hw
    exact assigned w fun _ ↦ hw
  · exact assigned v hwell

/-! ### Runs -/

/-- The store of a run is the one that its assignments replay from `store`, and each of them is that
of a rule with `P`. -/
structure Run.Logged (P : NodeId → Rule ExpressionTree RuleTree → Prop) (store : Store)
    (run : Run) : Prop where
  replays : store.Replays run.assignments run.store
  noted : ∀ a ∈ run.assignments, ∃ e, P a.ruleId (.assign a.kind a.identifier e)

section Logged

variable {P : NodeId → Rule ExpressionTree RuleTree → Prop} {store : Store} {run run' : Run}

theorem Run.Logged.sameWrites (h : run.Logged P store) (hsame : run.SameWrites run') :
    run'.Logged P store := by
  obtain ⟨hstore, hnoted⟩ := hsame
  constructor
  · rw [hstore, hnoted]
    exact h.replays
  · rw [hnoted]
    exact h.noted

/-- Every step keeps a run `Logged`. -/
theorem stepsKeep_logged (item : Item) (P : NodeId → Rule ExpressionTree RuleTree → Prop)
    (store : Store) :
    StepsKeep item P (fun _ ↦ True) (Run.Logged P store) fun _ ↦ True where
  missing _ _ := trivial
  guard id rule _ e _ name run h :=
    (ends_guardHolds name e).mono (fun _ _ hsame ↦ h.sameWrites hsame)
      fun _ _ hsame ↦ ⟨h.sameWrites hsame, trivial⟩
  assign id kind identifier e here run h := by
    refine (ends_runAssignment id kind identifier e).mono (fun _ run' hrun ↦ ?_)
      fun _ _ hsame ↦ ⟨h.sameWrites hsame, trivial⟩
    obtain ⟨v, hv, hnoted⟩ := hrun
    constructor
    · rw [hnoted]
      exact .snoc h.replays hv
    · rw [hnoted]
      intro a ha
      rcases List.mem_append.1 ha with ha | ha
      · exact h.noted a ha
      · obtain rfl := List.mem_singleton.1 ha
        exact ⟨e, here⟩

/-- A run of `execute` is `Logged`, however it ends. -/
theorem logged_execute (item : Item) {rules : List RuleTree}
    (hrules : ∀ rule ∈ rules, rule.Each P fun _ ↦ True) (store : Store) (generator : Generator) :
    (execute item rules store generator).2.Logged P store :=
  ((stepsKeep_logged item P store).runRules rules hrules).run ⟨.nil store, by simp⟩

/-- The assignments of a phase replay its store, and each of them is that of a rule that
`item.layout` holds. -/
theorem logged_execute_ruleTrees (item : Item) (phase : Phase) (store : Store)
    (generator : Generator) :
    (execute item (item.ruleTrees phase) store generator).2.Logged item.layout.Holds store := by
  refine logged_execute item (fun rule hrule ↦ ?_) store generator
  obtain ⟨id, -, rfl⟩ := List.mem_map.1 hrule
  exact item.layout.each_unfoldRule _ id

end Logged

/-! ### What assignments keep -/

namespace Store.Replays

variable {store store' : Store} {as : List Assignment} {x : String}

theorem declarations_eq (h : store.Replays as store') :
    store'.declarations = store.declarations := by
  induction h with
  | nil => rfl
  | snoc _ last ih => rw [declarations_write last.written, ih]

/-- Assignments keep a store `WellTyped`. -/
theorem wellTyped (h : store.Replays as store')
    (distinct : (store.declarations.map (·.identifier)).Nodup) (hw : store.WellTyped) :
    store'.WellTyped := by
  induction h with
  | nil => exact hw
  | snoc before last ih =>
    rw [← before.declarations_eq] at distinct
    exact wellTyped_write ih distinct (last.wellFormed ih) last.written

/-- A view `f` of a slot that sees none of the assignments to `x` gives what it gave before them. -/
theorem map_slot?_eq {β : Type} {f : Slot → β} (h : store.Replays as store')
    (hf : ∀ a ∈ as, a.identifier = x → ∀ s v, f (s.write (part a.kind) v) = f s) :
    (store'.slot? x).map f = (store.slot? x).map f := by
  induction h with
  | nil => rfl
  | @snoc _ _ as a _ last ih =>
    rw [← ih fun a ha ↦ hf a (List.mem_append_left _ ha)]
    exact map_slot?_write last.written fun hx ↦ hf a (by simp) hx.symm

/-- The part `p` of `x` that no assignment writes is as it was. -/
theorem held?_eq (h : store.Replays as store') {p : SlotPart}
    (hx : ∀ a ∈ as, a.identifier = x → part a.kind ≠ p) :
    store'.held? p x = store.held? p x :=
  Store.held?_congr (h.map_slot?_eq fun a ha hid ↦ Slot.held_write_of_ne (hx a ha hid))

/-- The value of `x` that no assignment writes is as it was. -/
theorem value?_eq (h : store.Replays as store')
    (hx : ∀ a ∈ as, a.identifier = x → part a.kind ≠ .value) :
    store'.value? x = store.value? x := by
  rw [← held?_value, ← held?_value]
  exact h.held?_eq hx

/-- The default of `x` that no assignment writes is as it was. -/
theorem default?_eq (h : store.Replays as store')
    (hx : ∀ a ∈ as, a.identifier = x → a.kind ≠ .defaultValue) :
    store'.default? x = store.default? x := by
  refine h.map_slot?_eq fun a ha hid ↦ Slot.default_write_of_ne fun hpart ↦ hx a ha hid ?_
  generalize a.kind = kind at hpart ⊢
  cases kind <;> first | rfl | cases hpart

/-- Every assignment is to a variable whose kind is among `a.kind.targets`. -/
theorem target (h : store.Replays as store') :
    ∀ a ∈ as, ∃ d, store.declaration? a.identifier = some d ∧ d.kind ∈ a.kind.targets := by
  induction h with
  | nil => simp
  | snoc before last ih =>
    intro a ha
    rcases List.mem_append.1 ha with ha | ha
    · exact ih a ha
    · obtain rfl := List.mem_singleton.1 ha
      obtain ⟨d, hd, hkind⟩ := last.target
      rw [declaration?_congr before.declarations_eq] at hd
      exact ⟨d, hd, hkind⟩

/-- Of a `.response` the rules write the default and the correct value alone. -/
theorem part_ne_of_response (h : store.Replays as store') {d : VariableDeclaration}
    (hd : store.declaration? x = some d) (hkind : d.kind = .response) :
    ∀ a ∈ as, a.identifier = x → part a.kind ≠ .value := by
  intro a ha hid
  obtain ⟨d', hd', htarget⟩ := h.target a ha
  rw [hid, hd] at hd'
  obtain rfl := Option.some.inj hd'
  rw [hkind] at htarget
  generalize a.kind = kind at htarget ⊢
  cases kind <;> simp [part, AssignmentKind.targets] at htarget ⊢

/-- Assignments leave the value of a `.response`. -/
theorem value?_of_response (h : store.Replays as store') {d : VariableDeclaration}
    (hd : store.declaration? x = some d) (hkind : d.kind = .response) :
    store'.value? x = store.value? x :=
  h.value?_eq (h.part_ne_of_response hd hkind)

end Store.Replays

end AssessmentItem
