import AssessmentItem.Proofs.Processing.Replay
import AssessmentItem.Proofs.References.Rules
import AssessmentItem.Proofs.Session.Typing

/-!
# Calls that fail

A call that is refused or fails leaves the session as it was, save that the draws of template
processing have been made.  Response processing is different once its rules run: the store is then
the one on which the attempt is processed with the assignments that were made before the failure,
and all else, the number of attempts included, is as before.  The attempt is processed on the store
before the call where the item is adaptive.  Where it is not, the outcomes are put to their defaults
first, and a failure leaves them there.

## Main definitions

* `Session.FailedAttempt` : what a failed attempt leaves.

## Main results

* `Session.serve_eq_error` : what a call that is refused or fails leaves.
* `Session.process_eq_error` : what response processing leaves when a rule fails.
-/

namespace AssessmentItem.Session

open Processing

variable {s s' : Session} {base store : Store} {run : Run}

/-! ### Calls that do nothing -/

/-- A call that fails leaves the session as it was, but for the `generator`: the draws of template
processing stay made after a `start` or a `restart`. -/
theorem Step.eq_of_error {request : Request} {error : SessionError}
    (h : s.Step request (.error error) s') (refusal : request = .process → error.IsRefusal) :
    s' = { s with generator := s'.generator } ∧
      (request ≠ .start → request ≠ .restart → s' = s) := by
  cases h with
  | refused => exact ⟨rfl, fun _ _ ↦ rfl⟩
  | unprepared _ _ generator prepares =>
    refine ⟨rfl, fun hstart hrestart ↦ ?_⟩
    rcases prepares with rfl | rfl
    · exact absurd rfl hstart
    · exact absurd rfl hrestart
  | unreset | misprocessed | unrestored => exact (refusal rfl).elim

/-- In every session a call that fails leaves the session as it was, the whole store included, but
for the `generator`, which only `start` and `restart` move; of `process` this is said where the
error `IsRefusal`. -/
theorem serve_eq_error {declarations : List VariableDeclaration} {item : Item}
    (declared : declareAll declarations = .ok item.declarations) {settings : DeliverySettings}
    {seed : UInt64} {events : List Event} (trace : (new item settings seed).Trace events s)
    {request : Request} {error : SessionError}
    (failed : (serve request).run s = (.error error, s'))
    (refusal : request = .process → error.IsRefusal) :
    s' = { s with generator := s'.generator } ∧
      (request ≠ .start → request ≠ .restart → s' = s) := by
  have hsound := (trace.sound (sound_new (declared_of_declareAll declared) settings seed)).1
  have hstep := step_serve hsound request
  rw [failed] at hstep
  exact hstep.eq_of_error refusal

/-- The item `countingItem` with a template rule that is not there. -/
def unpreparedItem : Item := { countingItem with templateRules := [7] }

theorem unpreparedItem_start :
    ∃ s', (serve .start).run (new unpreparedItem {} 1) =
        (.error (.authoring (.rule "rule" "#7" .missingRule)), s') ∧
      s' = { new unpreparedItem {} 1 with generator := s'.generator } := by
  have declared : declareAll [scoreDeclaration] = .ok unpreparedItem.declarations := rfl
  have failed : (serve .start).run (new unpreparedItem {} 1) =
      (.error (.authoring (.rule "rule" "#7" .missingRule)),
        ((serve .start).run (new unpreparedItem {} 1)).2) := rfl
  exact ⟨_, failed, (serve_eq_error declared .nil failed nofun).1⟩

/-! ### The store of a failed attempt -/

/-- The values on which an attempt is processed: the outcomes of an item that is not `adaptive` have
their defaults, except `completionStatus`, and all else is as in the session. -/
theorem OutcomesReset.value?_eq (h : s.OutcomesReset base) (hs : s.store.WellTyped) {x : String}
    {d : VariableDeclaration} (hd : s.store.declaration? x = some d) :
    base.value? x =
      if s.item.adaptive = false ∧ d.kind = .outcome ∧ x ≠ BuiltIn.completionStatus.identifier then
        s.store.default? x
      else s.store.value? x := by
  cases h with
  | adaptive hadaptive => simp [hadaptive]
  | reset hadaptive current written =>
    by_cases hx : x = BuiltIn.completionStatus.identifier
    · subst hx
      obtain ⟨d', hd', hadmits⟩ := hs.value? current
      rw [← Store.declaration?_congr (s.store.declarations_resetKind .outcome)] at hd'
      rw [if_neg fun h ↦ h.2.2 rfl,
        Store.value?_write_self written hd' (conform_of_admits hadmits)]
      exact current.symm
    · rw [Store.value?_write_of_ne written hx]
      by_cases hkind : d.kind = .outcome
      · rw [if_pos ⟨hadaptive, hkind, hx⟩, Store.value?_resetKind_self hd hkind]
      · rw [if_neg fun h ↦ hkind h.2.1, Store.value?_resetKind_of_ne hd hkind]

/-- What the rules of an attempt do not write is in the end as it was when they began, but for
`numAttempts`. -/
theorem Attempted.value?_eq {result : Except AuthoringError Outcome}
    (h : s.Attempted base result run) {x : String} (hx : x ≠ BuiltIn.numAttempts.identifier)
    (unwritten : ∀ a ∈ run.assignments, a.identifier = x → part a.kind ≠ .value) :
    run.store.value? x = base.value? x := by
  obtain ⟨counted, hcounted, hlogged⟩ := h.logged
  rw [hlogged.replays.value?_eq unwritten, Store.value?_write_of_ne hcounted hx]

/-- With `numAttempts` put back, the store of an attempt is `base` with the assignments of its rules
replayed. -/
theorem Attempted.replay_put (sound : s.Sound) {result : Except AuthoringError Outcome}
    (h : s.Attempted base result run) {v : Value}
    (hv : base.value? BuiltIn.numAttempts.identifier = some v) :
    base.replay run.assignments =
      .ok (run.store.put .value BuiltIn.numAttempts.identifier v) := by
  obtain ⟨counted, hcounted, hlogged⟩ := h.logged
  have hdecl := h.outcomesReset.declarations_eq
  have hput := write_builtIn sound.declared (hdecl.trans sound.declarations_eq) .numAttempts
    (v := .integer (Int64.ofNat (s.completedAttempts + 1))) rfl rfl
  obtain rfl := Except.ok.inj (hput.symm.trans hcounted)
  -- No rule writes the value of a response.
  obtain ⟨d, hd, hkind, -⟩ := exists_declaration?_builtIn sound.declared
    ((base.declarations_put _ _ _).trans (hdecl.trans sound.declarations_eq)) .numAttempts
  exact hlogged.replays.replay_put (sound.nodup hdecl) hv
    (hlogged.replays.part_ne_of_response hd hkind)

/-- The value of `numAttempts` that the store held before an attempt can be put back after it. -/
theorem Attempted.write_heldAttempts (sound : s.Sound) (hs : s.store.WellTyped)
    {result : Except AuthoringError Outcome} (h : s.Attempted base result run) :
    ∃ v, base.value? BuiltIn.numAttempts.identifier = some v ∧
      run.store.write .value BuiltIn.numAttempts.identifier (heldAttempts base) =
        .ok (run.store.put .value BuiltIn.numAttempts.identifier v) := by
  have hdecl := h.outcomesReset.declarations_eq
  have hbase := (wellTyped_attempted sound hs h).1
  obtain ⟨v, hv⟩ := exists_value?_builtIn sound.declared (hdecl.trans sound.declarations_eq)
    .numAttempts
  refine ⟨v, hv, ?_⟩
  rw [heldAttempts, hv, Option.getD_some]
  exact hbase.write_value? hv (h.declarations_eq.trans hdecl.symm)

/-! ### Failures of response processing -/

/-- What a failed attempt leaves, which has been processed on `base` and has assigned as `run`
tells. -/
structure FailedAttempt (s s' : Session) (base : Store) (run : Run) : Prop where
  /-- The assignments made before the failure stay: the store is `base` with them replayed. -/
  replayed : base.replay run.assignments = .ok s'.store
  adaptive : s.item.adaptive = true → base = s.store
  attempts_eq : s'.store.value? BuiltIn.numAttempts.identifier =
    s.store.value? BuiltIn.numAttempts.identifier
  /-- A variable whose value no rule has written keeps it, except that an outcome of an item that is
  not `adaptive`, other than `completionStatus`, keeps the default it was put to. -/
  value?_eq : ∀ x d, s.store.declaration? x = some d →
    (∀ a ∈ run.assignments, a.identifier = x → part a.kind ≠ .value) →
    s'.store.value? x =
      if s.item.adaptive = false ∧ d.kind = .outcome ∧
          x ≠ BuiltIn.completionStatus.identifier then
        s.store.default? x
      else s.store.value? x

/-- With `numAttempts` put back, an attempt leaves what `FailedAttempt` says. -/
theorem Attempted.failed (sound : s.Sound) (hs : s.store.WellTyped)
    {result : Except AuthoringError Outcome} (h : s.Attempted base result run) {v : Value}
    (hv : base.value? BuiltIn.numAttempts.identifier = some v)
    (hstore : s'.store = run.store.put .value BuiltIn.numAttempts.identifier v) :
    s.FailedAttempt s' base run := by
  have hbase {x : String} {d : VariableDeclaration} (hd : s.store.declaration? x = some d) :=
    h.outcomesReset.value?_eq hs hd
  have hback : s'.store.value? BuiltIn.numAttempts.identifier =
      base.value? BuiltIn.numAttempts.identifier := by
    obtain ⟨w, hw⟩ := exists_value?_builtIn sound.declared
      (h.declarations_eq.trans sound.declarations_eq) .numAttempts
    rw [hstore, Store.value?_put_self hw, hv]
  constructor
  · rw [hstore]
    exact h.replay_put sound hv
  · intro hadaptive
    cases h.outcomesReset with
    | adaptive _ => rfl
    | reset hnot =>
      rw [hadaptive] at hnot
      cases hnot
  · obtain ⟨d, hd, hkind, -⟩ :=
      exists_declaration?_builtIn sound.declared sound.declarations_eq .numAttempts
    have hresponse : d.kind ≠ .outcome := by
      rw [hkind]
      exact nofun
    rw [hback, hbase hd, if_neg fun h ↦ hresponse h.2.1]
  · intro x d hd unwritten
    rw [← hbase hd]
    by_cases hx : x = BuiltIn.numAttempts.identifier
    · rw [hx, hback]
    · rw [hstore, Store.value?_put_of_ne hx, h.value?_eq hx unwritten]

/-- A `process` that fails changes the store and makes draws, and does nothing else. -/
theorem Step.frame_of_process_error {error : SessionError}
    (h : s.Step .process (.error error) s') :
    s' = { s with store := s'.store, generator := s'.generator } := by
  cases h <;> rfl

/-- On a `WellTyped` store nothing but a rule can fail in `process`: `completionStatus` and
`numAttempts` are always put back. -/
theorem Step.failedAttempt {error : AuthoringError}
    (h : s.Step .process (.error (.authoring error)) s') (sound : s.Sound)
    (hs : s.store.WellTyped) :
    ∃ base run, s.Attempted base (.error error) run ∧ s.FailedAttempt s' base run := by
  cases h with
  | refused _ _ refusal => exact (refusal rfl).elim
  | unprepared _ _ _ prepares => rcases prepares with h | h <;> cases h
  | unreset current lost =>
    have hput := hs.write_value? current (s.store.declarations_resetKind .outcome)
    cases lost.symm.trans hput
  | @misprocessed base store run _ attempted restored =>
    obtain ⟨v, hv, hput⟩ := attempted.write_heldAttempts sound hs
    have hstore := Except.ok.inj (restored.symm.trans hput)
    exact ⟨base, run, attempted, attempted.failed sound hs hv hstore⟩
  | unrestored attempted lost =>
    obtain ⟨v, hv, hput⟩ := attempted.write_heldAttempts sound hs
    cases lost.symm.trans hput

/-- Where `process` fails with an `authoring` error, the state, the stage and the counters are as
before the call.  If the declared values have their types, a rule has failed and the attempt is a
`FailedAttempt`: the store is the one on which the attempt is processed with the assignments made
before the failure, `numAttempts` has its previous value, and so has every variable that no rule has
written, but for the outcomes that an item that is not `adaptive` has put to their defaults. -/
theorem process_eq_error {declarations : List VariableDeclaration} {item : Item}
    (declared : declareAll declarations = .ok item.declarations) {settings : DeliverySettings}
    {seed : UInt64} {events : List Event} (trace : (new item settings seed).Trace events s)
    {error : AuthoringError} (failed : (serve .process).run s = (.error (.authoring error), s')) :
    s' = { s with store := s'.store, generator := s'.generator } ∧
      ((∀ d ∈ declarations, d.WellTyped) →
        ∃ base run, s.Attempted base (.error error) run ∧ s.FailedAttempt s' base run) := by
  have hdeclared := declared_of_declareAll declared
  have hsound := (trace.sound (sound_new hdeclared settings seed)).1
  have hstep := step_serve hsound .process
  rw [failed] at hstep
  refine ⟨hstep.frame_of_process_error, fun typed ↦ ?_⟩
  have hs := trace.wellTyped (wellTyped_of_declareAll declared typed) hdeclared
  exact hstep.failedAttempt hsound hs

/-- An item whose rule gives `SCORE` a whole number in the first attempt, and a boolean, which
cannot be assigned, in the second. -/
def failingItem : Item where
  identifier := "failing"
  title := ""
  adaptive := false
  declarations := builtIns ++ [scoreDeclaration]
  layout :=
    ⟨⟨#[⟨⟨.leaf (.valueOf "numAttempts"), []⟩, some 2⟩,
        ⟨⟨.leaf (.baseValue (.integer 2)), []⟩, some 2⟩, ⟨⟨.operator .lt, [0, 1]⟩, none⟩,
        ⟨⟨.leaf (.baseValue (.integer 5)), []⟩, none⟩,
        ⟨⟨.leaf (.baseValue (.boolean true)), []⟩, none⟩]⟩,
      ⟨#[⟨.assign .outcomeValue "SCORE" 3, none⟩, ⟨.assign .outcomeValue "SCORE" 4, none⟩,
        ⟨.condition .response [⟨2, [0]⟩] [1], none⟩]⟩⟩
  templateRules := []
  responseRules := [2]

/-- A session of `failingItem` before its second attempt is processed. -/
def secondAttempt : Session :=
  let answered (s : Session) : Session :=
    ((serve .validate).run ((serve (.bind .empty)).run s).2).2
  let started := ((serve .start).run (new failingItem { maxAttempts := 2 } 1)).2
  answered ((serve .process).run (answered started)).2

/-- The session `secondAttempt` after its `process` has failed. -/
def afterFailure : Session := ((serve .process).run secondAttempt).2

theorem exists_trace_secondAttempt :
    ∃ events, (new failingItem { maxAttempts := 2 } 1).Trace events secondAttempt :=
  ⟨_, (((((Trace.nil.call .start).call (.bind .empty)).call .validate).call .process).call
    (.bind .empty)).call .validate⟩

theorem secondAttempt_fails :
    ∃ error, (serve .process).run secondAttempt = (.error (.authoring error), afterFailure) := by
  have failed : ∃ error, ((serve .process).run secondAttempt).1 = .error (.authoring error) := by
    decide +kernel
  obtain ⟨error, herror⟩ := failed
  exact ⟨error, Prod.ext herror rfl⟩

theorem process_secondAttempt :
    ∃ error, (serve .process).run secondAttempt = (.error (.authoring error), afterFailure) ∧
      afterFailure = { secondAttempt with
        store := afterFailure.store, generator := afterFailure.generator } ∧
      ∃ base run, secondAttempt.Attempted base (.error error) run ∧
        secondAttempt.FailedAttempt afterFailure base run := by
  have declared : declareAll [scoreDeclaration] = .ok failingItem.declarations := rfl
  have typed : ∀ d ∈ [scoreDeclaration], d.WellTyped := by
    intro d hd
    obtain rfl := List.mem_singleton.1 hd
    exact ⟨scoreDeclaration.admits_null, nofun⟩
  obtain ⟨events, trace⟩ := exists_trace_secondAttempt
  obtain ⟨error, failed⟩ := secondAttempt_fails
  obtain ⟨hframe, hstore⟩ := process_eq_error declared trace failed
  exact ⟨error, failed, hframe, hstore typed⟩

/-- The rules of `secondAttempt` make no assignment. -/
theorem Attempted.assignments_secondAttempt {result : Except AuthoringError Outcome}
    (h : secondAttempt.Attempted base result run) : run.assignments = [] := by
  obtain ⟨store, hstore, hran⟩ := h.ran
  cases h.outcomesReset with
  | adaptive hadaptive => exact absurd hadaptive (by decide +kernel)
  | @reset _ status _ current written =>
    have unassigned : ∀ status ∈ secondAttempt.value? BuiltIn.completionStatus.identifier,
        Gives ((secondAttempt.store.resetKind .outcome).write .value
          BuiltIn.completionStatus.identifier status) (fun base ↦
            Gives (base.write .value BuiltIn.numAttempts.identifier
              (.integer (Int64.ofNat (secondAttempt.completedAttempts + 1)))) (fun store ↦
                (execute secondAttempt.item (secondAttempt.item.ruleTrees .response) store
                  secondAttempt.generator).2.assignments = []) fun _ ↦ True) fun _ ↦ True := by
      decide +kernel
    have hstore := ((unassigned status current).of_eq_ok written).of_eq_ok hstore
    rw [hran] at hstore
    exact hstore

/-- The second attempt fails before any assignment, and `SCORE` has lost the value of the first
one. -/
theorem score_lost_afterFailure :
    (∃ events, (new failingItem { maxAttempts := 2 } 1).Trace events secondAttempt) ∧
      (∃ error, (serve .process).run secondAttempt = (.error (.authoring error), afterFailure)) ∧
      (∀ base result run, secondAttempt.Attempted base result run → run.assignments = []) ∧
      ((secondAttempt.value? "SCORE").bind Value.single?).bind Scalar.integer? = some 5 ∧
      ((afterFailure.value? "SCORE").bind Value.single?).bind Scalar.integer? = some 0 :=
  ⟨exists_trace_secondAttempt, secondAttempt_fails, fun _ _ _ h ↦ h.assignments_secondAttempt,
    by decide +kernel, by decide +kernel⟩

end AssessmentItem.Session
