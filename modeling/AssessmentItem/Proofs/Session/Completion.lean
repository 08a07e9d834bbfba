import AssessmentItem.Proofs.Processing.Execution
import AssessmentItem.Proofs.Session.Failure

/-!
# How far an item is completed

An item is not attempted until responses are processed.  Where no rule has written how far it is
completed, the session writes that this is unknown.  Whether a rule has written it, the session
reads off the report, in which any assignment that names the variable counts.  That includes one to
its default, which leaves its value: after such an attempt the item still is not attempted.

## Main definitions

* `Session.ExecutesInAttempt` : response processing executes an assignment to a variable.

## Main results

* `Session.Attempted.executes_iff` : what an attempt that succeeds has executed is in its report.
* `Session.Attempted.value?_completionStatus` : what an attempt leaves of how far the item is
  completed.
* `Session.completionStatus_of_process` : how far the item is completed after its first attempt.
-/

namespace AssessmentItem

open Processing

/-- A report has no `lastValue?` of `x` exactly if none of its assignments names `x`, of whatever
kind they are. -/
theorem Report.isNone_lastValue?_iff {r : Report} {x : String} :
    (r.lastValue? x).isNone ↔ ∀ a ∈ r.assignments, a.identifier ≠ x := by
  simp [lastValue?]

/-- An assignment to an outcome is of kind `outcomeValue`, `lookup` or `defaultValue`. -/
theorem kind_of_outcome_mem_targets {kind : AssignmentKind}
    (h : VariableKind.outcome ∈ kind.targets) :
    kind = .outcomeValue ∨ kind = .lookup ∨ kind = .defaultValue := by
  cases kind <;> simp [AssignmentKind.targets] at h ⊢

namespace Session

variable {s s' : Session} {base base' store : Store} {run : Run} {outcome : Outcome}

/-! ### What an attempt executes -/

/-- Response processing of the session `s` executes an assignment of `kind` to `x`. -/
def ExecutesInAttempt (s : Session) (kind : AssignmentKind) (x : String) : Prop :=
  ∃ base store, s.OutcomesReset base ∧
    base.write .value BuiltIn.numAttempts.identifier
      (.integer (Int64.ofNat (s.completedAttempts + 1))) = .ok store ∧
    Executes s.item (s.item.ruleTrees .response) store s.generator kind x

/-- An attempt is processed on one store: `OutcomesReset` determines it. -/
theorem OutcomesReset.unique (h : s.OutcomesReset base) (h' : s.OutcomesReset base') :
    base = base' := by
  cases h with
  | adaptive hadaptive =>
    cases h' with
    | adaptive => rfl
    | reset hnot => exact nomatch hadaptive.symm.trans hnot
  | reset hnot current written =>
    cases h' with
    | adaptive hadaptive => exact nomatch hadaptive.symm.trans hnot
    | reset _ current' written' =>
      obtain rfl := Option.some.inj (current.symm.trans current')
      exact Except.ok.inj (written.symm.trans written')

/-- What an attempt that succeeds has executed is in its report, and nothing else. -/
theorem Attempted.executes_iff (h : s.Attempted base (.ok outcome) run) (kind : AssignmentKind)
    (x : String) :
    s.ExecutesInAttempt kind x ↔ ∃ a ∈ run.assignments, a.kind = kind ∧ a.identifier = x := by
  obtain ⟨store, hstore, hran⟩ := h.ran
  rw [← executes_iff_of_execute_eq_ok hran]
  constructor
  · rintro ⟨base', store', hbase', hstore', hexecuted⟩
    obtain rfl := h.outcomesReset.unique hbase'
    obtain rfl := Except.ok.inj (hstore.symm.trans hstore')
    exact hexecuted
  · intro hexecuted
    exact ⟨base, store, h.outcomesReset, hstore, hexecuted⟩

/-- What no rule of response processing assigns is not executed in an attempt. -/
theorem not_executesInAttempt {kind : AssignmentKind} {x : String}
    (each : ∀ tree ∈ s.item.ruleTrees .response,
      tree.Each (fun _ rule ↦ ∀ e, rule ≠ .assign kind x e) fun _ ↦ True) :
    ¬s.ExecutesInAttempt kind x := by
  rintro ⟨_, store, -, -, executed⟩
  exact not_executes_of_each each store s.generator executed

/-! ### What an attempt leaves -/

/-- The reset of the outcomes carries over `completionStatus`. -/
theorem OutcomesReset.value?_completionStatus (h : s.OutcomesReset base) (sound : s.Sound) :
    base.value? BuiltIn.completionStatus.identifier =
      s.value? BuiltIn.completionStatus.identifier := by
  cases h with
  | adaptive => rfl
  | @reset _ status _ current written =>
    have hdecl : (s.store.resetKind .outcome).declarations = s.item.declarations :=
      (s.store.declarations_resetKind .outcome).trans sound.declarations_eq
    obtain ⟨d, w, hd, hconform, rfl⟩ := Store.write_eq_ok_iff.1 written
    obtain ⟨d', hd', -, -, htype⟩ :=
      exists_declaration?_builtIn sound.declared hdecl .completionStatus
    obtain rfl := Option.some.inj (hd.symm.trans hd')
    have hsame : w = status := VariableDeclaration.conform_eq_self_of_ne_float hconform fun h ↦
      nomatch htype.symm.trans h
    obtain ⟨v, hv⟩ := exists_value?_builtIn sound.declared hdecl .completionStatus
    rw [Store.value?_put_self hv, hsame, current]

/-- The rules of an attempt that name `completionStatus` give it a value or a default. -/
theorem Attempted.kind_of_completionStatus {result : Except AuthoringError Outcome}
    (h : s.Attempted base result run) (sound : s.Sound) {a : Assignment}
    (ha : a ∈ run.assignments) (hid : a.identifier = BuiltIn.completionStatus.identifier) :
    a.kind = .outcomeValue ∨ a.kind = .lookup ∨ a.kind = .defaultValue := by
  obtain ⟨counted, hcounted, hlogged⟩ := h.logged
  have hdecl := (Store.declarations_write hcounted).trans h.outcomesReset.declarations_eq
  obtain ⟨d, hd, hkind, -⟩ := exists_declaration?_builtIn sound.declared
    (hdecl.trans sound.declarations_eq) .completionStatus
  obtain ⟨d', hd', htarget⟩ := hlogged.replays.target a ha
  rw [hid, hd] at hd'
  obtain rfl := Option.some.inj hd'
  rw [hkind] at htarget
  exact kind_of_outcome_mem_targets htarget

/-- An attempt whose rules give no value to `completionStatus` leaves it. -/
theorem Attempted.value?_completionStatus {result : Except AuthoringError Outcome}
    (h : s.Attempted base result run) (sound : s.Sound)
    (unset : ∀ a ∈ run.assignments, a.identifier = BuiltIn.completionStatus.identifier →
      a.kind = .defaultValue) :
    run.store.value? BuiltIn.completionStatus.identifier =
      s.value? BuiltIn.completionStatus.identifier := by
  rw [← h.outcomesReset.value?_completionStatus sound]
  refine h.value?_eq (by decide) fun a ha hid ↦ ?_
  rw [unset a ha hid]
  exact nofun

/-- Over `not_attempted` the session notes `unknown`, if the report does not name
`completionStatus`, and otherwise it notes nothing. -/
theorem Noted.value?_completionStatus {item : Item} {report : Report} {store' : Store}
    (h : Noted report store store') (declared : Declared item.declarations)
    (hdecl : store.declarations = item.declarations)
    (first : (store.value? BuiltIn.completionStatus.identifier).bind Value.text? =
      some CompletionStatus.notAttempted.identifier) :
    ((∃ a ∈ report.assignments, a.identifier = BuiltIn.completionStatus.identifier) →
      store' = store) ∧
    ((∀ a ∈ report.assignments, a.identifier ≠ BuiltIn.completionStatus.identifier) →
      store'.value? BuiltIn.completionStatus.identifier =
        some CompletionStatus.unknown.value) := by
  rw [Noted] at h
  constructor
  · rintro ⟨a, ha, hid⟩
    rwa [if_neg fun hnot ↦ Report.isNone_lastValue?_iff.1 hnot.1 a ha hid] at h
  · intro unnamed
    rw [if_pos ⟨Report.isNone_lastValue?_iff.2 unnamed, first⟩] at h
    obtain rfl := Except.ok.inj
      (h.symm.trans (write_builtIn declared hdecl .completionStatus rfl rfl))
    obtain ⟨v, hv⟩ := exists_value?_builtIn declared hdecl .completionStatus
    exact Store.value?_put_self hv CompletionStatus.unknown.value

/-! ### The first attempt -/

/-- What an attempt that succeeds makes of `not_attempted`, if its rules give no value to
`completionStatus`. -/
theorem Step.completionStatus_of_processed {answer : Answer}
    (h : s.Step .process (.ok answer) s') (sound : s.Sound)
    (first : s.completionStatus? = some CompletionStatus.notAttempted.identifier)
    (unset : ∀ kind, kind = .outcomeValue ∨ kind = .lookup →
      ¬s.ExecutesInAttempt kind BuiltIn.completionStatus.identifier) :
    (¬s.ExecutesInAttempt .defaultValue BuiltIn.completionStatus.identifier →
      s'.value? BuiltIn.completionStatus.identifier = some CompletionStatus.unknown.value) ∧
    (s.ExecutesInAttempt .defaultValue BuiltIn.completionStatus.identifier →
      s'.completionStatus? = some CompletionStatus.notAttempted.identifier) := by
  cases h with
  | @processed base store run outcome attempted noted =>
    have hdefault : ∀ a ∈ run.assignments,
        a.identifier = BuiltIn.completionStatus.identifier → a.kind = .defaultValue := by
      intro a ha hid
      have hnot (hkind : a.kind = .outcomeValue ∨ a.kind = .lookup) : False :=
        unset a.kind hkind ((attempted.executes_iff _ _).2 ⟨a, ha, rfl, hid⟩)
      rcases attempted.kind_of_completionStatus sound ha hid with hkind | hkind | hkind
      · exact (hnot (.inl hkind)).elim
      · exact (hnot (.inr hkind)).elim
      · exact hkind
    have hsame := attempted.value?_completionStatus sound hdefault
    have hfirst : (run.store.value? BuiltIn.completionStatus.identifier).bind Value.text? =
        some CompletionStatus.notAttempted.identifier := by
      rw [hsame]
      exact first
    obtain ⟨hkept, hwritten⟩ := noted.value?_completionStatus sound.declared
      (attempted.declarations_eq.trans sound.declarations_eq) hfirst
    rw [completionStatus?, value?, store_attemptCompleted]
    constructor
    · intro hnot
      refine hwritten fun a ha hid ↦ ?_
      exact hnot ((attempted.executes_iff _ _).2 ⟨a, ha, hdefault a ha hid, hid⟩)
    · intro hexecuted
      obtain ⟨a, ha, -, hid⟩ := (attempted.executes_iff _ _).1 hexecuted
      rw [hkept ⟨a, ha, hid⟩]
      exact hfirst

/-- In every session whose `completionStatus` is `not_attempted`, if `process` succeeds and executes
no rule that gives a value to `completionStatus`, then this is `unknown` after it, unless a rule of
kind `defaultValue` is executed for it: then it still is `not_attempted`. -/
theorem completionStatus_of_process {declarations : List VariableDeclaration} {item : Item}
    (declared : declareAll declarations = .ok item.declarations) {settings : DeliverySettings}
    {seed : UInt64} {events : List Event} (trace : (new item settings seed).Trace events s)
    (first : s.completionStatus? = some CompletionStatus.notAttempted.identifier)
    {answer : Answer} (succeeded : (serve .process).run s = (.ok answer, s'))
    (unset : ∀ kind, kind = .outcomeValue ∨ kind = .lookup →
      ¬s.ExecutesInAttempt kind BuiltIn.completionStatus.identifier) :
    (¬s.ExecutesInAttempt .defaultValue BuiltIn.completionStatus.identifier →
      s'.value? BuiltIn.completionStatus.identifier = some CompletionStatus.unknown.value) ∧
    (s.ExecutesInAttempt .defaultValue BuiltIn.completionStatus.identifier →
      s'.completionStatus? = some CompletionStatus.notAttempted.identifier) := by
  have hsound := (trace.sound (sound_new (declared_of_declareAll declared) settings seed)).1
  have hstep := step_serve hsound .process
  rw [succeeded] at hstep
  exact hstep.completionStatus_of_processed hsound first unset

/-- An item whose only rule gives a default to `completionStatus`. -/
def defaultingItem : Item where
  identifier := "defaulting"
  title := ""
  adaptive := false
  declarations := builtIns
  layout :=
    ⟨⟨#[⟨⟨.leaf (.baseValue (.identifier "incomplete")), []⟩, none⟩]⟩,
      ⟨#[⟨.assign .defaultValue "completionStatus" 0, none⟩]⟩⟩
  templateRules := []
  responseRules := [0]

/-- A session of `item` that has a submission without values, validated. -/
def answeredSession (item : Item) : Session :=
  let started := ((serve .start).run (new item { maxAttempts := 2 } 1)).2
  ((serve .validate).run ((serve (.bind .empty)).run started).2).2

theorem exists_trace_answeredSession (item : Item) :
    ∃ events, (new item { maxAttempts := 2 } 1).Trace events (answeredSession item) :=
  ⟨_, ((Trace.nil.call .start).call (.bind .empty)).call .validate⟩

/-- The session `answeredSession item` after its first attempt. -/
def completedSession (item : Item) : Session := ((serve .process).run (answeredSession item)).2

theorem completionStatus_countingItem :
    (answeredSession countingItem).completionStatus? =
        some CompletionStatus.notAttempted.identifier ∧
      (completedSession countingItem).value? BuiltIn.completionStatus.identifier =
        some CompletionStatus.unknown.value := by
  have declared : declareAll [scoreDeclaration] = .ok countingItem.declarations := rfl
  obtain ⟨events, trace⟩ := exists_trace_answeredSession countingItem
  have first : (answeredSession countingItem).completionStatus? =
      some CompletionStatus.notAttempted.identifier := by
    decide +kernel
  obtain ⟨answer, succeeded⟩ : ∃ answer, (serve .process).run (answeredSession countingItem) =
      (.ok answer, completedSession countingItem) := exists_run_eq_ok (by decide +kernel)
  have hitem : (answeredSession countingItem).item = countingItem :=
    (trace.sound (sound_new (declared_of_declareAll declared) _ _)).2.1
  have unassigned (kind : AssignmentKind) : ¬(answeredSession countingItem).ExecutesInAttempt kind
      BuiltIn.completionStatus.identifier := by
    refine not_executesInAttempt ?_
    rw [hitem]
    intro tree htree
    obtain rfl := List.mem_singleton.1 htree
    refine .node (fun e hrule ↦ ?_) nofun
    injection hrule with _ hid
    exact absurd hid (by decide)
  exact ⟨first, (completionStatus_of_process declared trace first succeeded
    fun kind _ ↦ unassigned kind).1 (unassigned .defaultValue)⟩

/-- The references of `defaultingItem` are in order, no rule that is executed gives a value to
`completionStatus`, and after the first attempt it still is `not_attempted`. -/
theorem notAttempted_defaultingItem :
    defaultingItem.checkReferences = .ok () ∧
      (∃ events, (new defaultingItem { maxAttempts := 2 } 1).Trace events
        (answeredSession defaultingItem)) ∧
      (answeredSession defaultingItem).stage = .validated ∧
      (answeredSession defaultingItem).completionStatus? =
        some CompletionStatus.notAttempted.identifier ∧
      (∃ answer, (serve .process).run (answeredSession defaultingItem) =
        (.ok answer, completedSession defaultingItem)) ∧
      (∀ kind, kind = .outcomeValue ∨ kind = .lookup →
        ¬(answeredSession defaultingItem).ExecutesInAttempt kind
          BuiltIn.completionStatus.identifier) ∧
      (completedSession defaultingItem).completionStatus? =
        some CompletionStatus.notAttempted.identifier := by
  obtain ⟨events, trace⟩ := exists_trace_answeredSession defaultingItem
  refine ⟨rfl, ⟨events, trace⟩, by decide +kernel, by decide +kernel,
    exists_run_eq_ok (by decide +kernel), fun kind hkind ↦ not_executesInAttempt ?_,
    by decide +kernel⟩
  have hitem : (answeredSession defaultingItem).item = defaultingItem :=
    (trace.sound (sound_new declared_builtIns _ _)).2.1
  rw [hitem]
  intro tree htree
  obtain rfl := List.mem_singleton.1 htree
  refine .node (fun e hrule ↦ ?_) nofun
  cases hrule
  rcases hkind with h | h <;> cases h

end Session

end AssessmentItem
