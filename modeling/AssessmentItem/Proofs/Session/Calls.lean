import AssessmentItem.Proofs.Session.Stores

/-!
# Calls on a session

A session is called in one of nine ways.  The ways in which a call can end are listed once, with
everything that each of them does to the session, so that what a call keeps is shown by going
through the list.

## Main definitions

* `Session.Request`, `Session.Answer`, `Session.serve` : the calls on a session as one function.
* `Session.Sound` : the store of a session has the declarations of its item.
* `Session.Attempted` : the run of response processing on a session.
* `Session.Step` : the ways in which a call ends.
* `SessionError.IsRefusal` : the errors of a call that comes at the wrong time.

## Main results

* `Session.step_serve` : every call ends in one of the ways.
* `Session.Step.sound` : a call keeps a session sound.
-/

namespace AssessmentItem

/-- Whether an error says that the `state` or the `stage` of a session does not allow a call. -/
def SessionError.IsRefusal : SessionError → Prop
  | .refused .. => True
  | .notPermitted _ | .authoring _ | .definition _ => False

namespace Session

/-! ### Requests -/

/-- A call on a session with what it is given, as `serve` runs it. -/
inductive Request
  | start
  | bind (submission : Submission)
  | validate
  | process
  | close
  | reset
  | restart
  | requestSolution
  | recordElapsed (elapsed : TimeSpan)

/-- What a call that succeeds gives: the `bad` or `invalid` identifiers, a `report`, a `solution`,
or nothing. -/
inductive Answer
  | done
  | bad (identifiers : List String)
  | invalid (identifiers : List String)
  | report (report : Report)
  | solution (values : FieldMap Value)

/-- Whether a call fails with an `authoring` error. -/
instance (r : Except SessionError Answer) : Decidable (∃ error, r = .error (.authoring error)) :=
  match r with
  | .error (.authoring error) => .isTrue ⟨error, rfl⟩
  | .error (.refused ..) | .error (.notPermitted _) | .error (.definition _) | .ok _ =>
    .isFalse fun ⟨_, h⟩ ↦ nomatch h

/-- The call that a `Request` asks for. -/
def serve : Request → Call Answer
  | .start => (fun _ ↦ .done) <$> start
  | .bind submission => .bad <$> bind submission
  | .validate => .invalid <$> validate
  | .process => .report <$> process
  | .close => (fun _ ↦ .done) <$> close
  | .reset => (fun _ ↦ .done) <$> reset
  | .restart => (fun _ ↦ .done) <$> restart
  | .requestSolution => .solution <$> requestSolution
  | .recordElapsed elapsed => (fun _ ↦ .done) <$> recordElapsed elapsed

/-! ### Sound sessions -/

/-- The `store` of a session has the declarations of its `item`, and these declare every variable
once. -/
structure Sound (s : Session) : Prop where
  declared : Declared s.item.declarations
  declarations_eq : s.store.declarations = s.item.declarations

section Sound

variable {item : Item} {store : Store}

/-- A built-in variable `b` has the kind, the cardinality and the base type of `b.declaration`, also
where the item declares it anew. -/
theorem exists_declaration?_builtIn (declared : Declared item.declarations)
    (hstore : store.declarations = item.declarations) (b : BuiltIn) :
    ∃ d, store.declaration? b.identifier = some d ∧ d.kind = b.declaration.kind ∧
      d.cardinality = b.declaration.cardinality ∧ d.baseType = b.declaration.baseType := by
  obtain ⟨d, hd, hsame⟩ := declared.builtIn b
  rw [← hstore, ← Store.declaration?_eq] at hd
  obtain ⟨hkind, hcard, htype⟩ := VariableDeclaration.sameType_iff.1 hsame
  exact ⟨d, hd, hkind.symm, hcard.symm, htype.symm⟩

/-- A value of the type of `b.declaration` can be written, and it is held as it is. -/
theorem write_builtIn (declared : Declared item.declarations)
    (hstore : store.declarations = item.declarations) (b : BuiltIn) {v : Value}
    (hcard : v.cardinality? = some b.declaration.cardinality)
    (htype : v.baseType? = b.declaration.baseType) :
    store.write .value b.identifier v = .ok (store.put .value b.identifier v) := by
  obtain ⟨d, hd, -, hcard', htype'⟩ := exists_declaration?_builtIn declared hstore b
  have hconform : d.conform v = .ok v := by
    refine VariableDeclaration.conform_eq_self ?_ (htype.trans htype'.symm)
    rw [hcard, hcard']
  exact Store.write_eq_ok_iff.2 ⟨d, v, hd, hconform, rfl⟩

/-- The store of every item holds a value of `b`. -/
theorem exists_value?_builtIn (declared : Declared item.declarations)
    (hstore : store.declarations = item.declarations) (b : BuiltIn) :
    ∃ v, store.value? b.identifier = some v := by
  obtain ⟨d, hd, -⟩ := exists_declaration?_builtIn declared hstore b
  obtain ⟨slot, hslot, -⟩ := Option.map_eq_some_iff.1 hd
  exact ⟨slot.value, by rw [Store.value?, hslot, Option.map_some]⟩

end Sound

/-! ### Parts of calls -/

section Parts

variable {s : Session} {Q : Unit → Session → Prop} {E : SessionError → Session → Prop}

theorem ends_requireInteracting (call : CallKind) (hQ : s.state = .interacting → Q () s)
    (hE : ∀ error, error.IsRefusal → E error s) : Ends (requireInteracting call) s Q E := by
  rw [requireInteracting, ends_bind, ends_get]
  by_cases h : s.state = .interacting
  · rw [if_neg (not_not_intro h)]
    exact hQ h
  · rw [if_pos h]
    exact hE _ trivial

theorem ends_ensure (action : CandidateAction)
    (hQ : blockedReason? s.settings s.state action = none → Q () s) (hE : ∀ error, E error s) :
    Ends (ensure action) s Q E := by
  rw [ensure, ends_bind, ends_get]
  split
  · rename_i h
    exact hQ h
  · exact hE _
  · exact hE _

theorem ends_writeBuiltIn (b : BuiltIn) (v : Value)
    (hQ : ∀ store, s.store.write .value b.identifier v = .ok store → Q () { s with store })
    (hE : ∀ fault, s.store.write .value b.identifier v = .error fault →
      ∀ error, E (.authoring error) s) :
    Ends (writeBuiltIn b v) s Q E := by
  rw [writeBuiltIn, ends_bind, ends_get]
  split
  · rename_i store h
    exact hQ store h
  · rename_i fault h
    exact hE fault h _

theorem ends_freshStore {Q : Store → Session → Prop}
    (hQ : ∀ store generator,
      prepare s.item (maxTemplateTries - 1) s.generator = (.ok store, generator) →
        Q store { s with generator })
    (hE : ∀ generator error, E error { s with generator }) : Ends freshStore s Q E := by
  rw [freshStore, ends_bind, ends_get]
  rcases h : prepare s.item (maxTemplateTries - 1) s.generator with ⟨error | store, generator⟩
  · exact hE generator _
  · exact hQ store generator h

theorem ends_runResponseRules {Q : Except AuthoringError Report → Session → Prop}
    (hQ : ∀ result run,
      execute s.item (s.item.ruleTrees .response) s.store s.generator = (result, run) →
        Q (result.map fun outcome ↦ ⟨outcome, run.assignments⟩)
          { s with store := run.store, generator := run.generator }) :
    Ends runResponseRules s Q E := by
  rw [runResponseRules, ends_bind, ends_get]
  rcases h : execute s.item (s.item.ruleTrees .response) s.store s.generator with ⟨result, run⟩
  exact hQ result run h

end Parts

/-! ### The ways in which a call ends -/

/-- A store on which an attempt is processed, but for `numAttempts`: the outcomes have their
defaults, except that `completionStatus` stays; those of an `adaptive` item stay, too. -/
inductive OutcomesReset (s : Session) : Store → Prop
  | adaptive (adaptive : s.item.adaptive = true) : OutcomesReset s s.store
  | reset {store : Store} {status : Value} (notAdaptive : s.item.adaptive = false)
      (current : s.value? BuiltIn.completionStatus.identifier = some status)
      (written : (s.store.resetKind .outcome).write .value BuiltIn.completionStatus.identifier
        status = .ok store) :
      OutcomesReset s store

/-- The value of `numAttempts` that a store holds. -/
def heldAttempts (store : Store) : Value := (store.value? BuiltIn.numAttempts.identifier).getD .null

/-- The rules of response processing run on a validated session, on a store whose `numAttempts` has
gone up to that of the attempt.  `base` is the store before it has. -/
structure Attempted (s : Session) (base : Store) (result : Except AuthoringError Outcome)
    (run : Run) : Prop where
  interacting : s.state = .interacting
  validated : s.stage = .validated
  outcomesReset : s.OutcomesReset base
  ran : ∃ store, base.write .value BuiltIn.numAttempts.identifier
      (.integer (Int64.ofNat (s.completedAttempts + 1))) = .ok store ∧
    execute s.item (s.item.ruleTrees .response) store s.generator = (result, run)

/-- The store after rules have run without failing: where `completionStatus` is `not_attempted` it
becomes `unknown`, unless the report names it. -/
def Noted (report : Report) (store store' : Store) : Prop :=
  if (report.lastValue? BuiltIn.completionStatus.identifier).isNone ∧
      (store.value? BuiltIn.completionStatus.identifier).bind Value.text? =
        some CompletionStatus.notAttempted.identifier then
    store.write .value BuiltIn.completionStatus.identifier CompletionStatus.unknown.value =
      .ok store'
  else store' = store

/-- The ways in which a call on a session ends: with which `result`, and with which session. -/
inductive Step (s : Session) : Request → Except SessionError Answer → Session → Prop
  /-- The call fails and does nothing.  With `process` this happens only if `error.IsRefusal`. -/
  | refused (request : Request) (error : SessionError)
      (refusal : request = .process → error.IsRefusal) : Step s request (.error error) s
  /-- Template processing fails, and its draws are made: the `generator` is that of the last try. -/
  | unprepared (request : Request) (error : SessionError) (generator : Generator)
      (prepares : request = .start ∨ request = .restart) :
      Step s request (.error error) { s with generator }
  | started {store : Store} {generator : Generator} (state : s.state = .notInitialized)
      (prepared : prepare s.item (maxTemplateTries - 1) s.generator = (.ok store, generator)) :
      Step s .start (.ok .done) ({ s with generator }.started store)
  | bound (submission : Submission) {store : Store} {failed bad : List String}
      (interacting : s.state = .interacting)
      (written : writeAll s.store (s.item.bindResponses submission).1.entries = (store, failed))
      (sorted : bad = ((s.item.bindResponses submission).2 ++ failed).mergeSort
        fun a b ↦ a ≤ b) :
      Step s (.bind submission) (.ok (.bad bad))
        { s with store, stage := if bad.isEmpty then .bound else .bindFailed }
  | validated {invalid : List String} (interacting : s.state = .interacting)
      (stage : s.stage ≠ .idle ∧ s.stage ≠ .bindFailed)
      (checked : validateResponses s.item s.store = .ok invalid) :
      Step s .validate (.ok (.invalid invalid))
        { s with stage := if invalid.isEmpty then .validated else .validationFailed }
  /-- The outcomes have their defaults, but `completionStatus` cannot be kept. -/
  | unreset {status : Value} {fault : AssignmentFault}
      (current : s.value? BuiltIn.completionStatus.identifier = some status)
      (lost : (s.store.resetKind .outcome).write .value BuiltIn.completionStatus.identifier
        status = .error fault) (error : AuthoringError) :
      Step s .process (.error (.authoring error)) { s with store := s.store.resetKind .outcome }
  /-- A rule fails, and `numAttempts` is put back to `heldAttempts`. -/
  | misprocessed {base store : Store} {run : Run} {error : AuthoringError}
      (attempted : s.Attempted base (.error error) run)
      (restored : run.store.write .value BuiltIn.numAttempts.identifier (heldAttempts base) =
        .ok store) :
      Step s .process (.error (.authoring error)) { s with store, generator := run.generator }
  /-- A rule fails, and `numAttempts` cannot be put back. -/
  | unrestored {base : Store} {run : Run} {error : AuthoringError} {fault : AssignmentFault}
      (attempted : s.Attempted base (.error error) run)
      (lost : run.store.write .value BuiltIn.numAttempts.identifier (heldAttempts base) =
        .error fault) (error' : AuthoringError) :
      Step s .process (.error (.authoring error'))
        { s with store := run.store, generator := run.generator }
  | processed {base store : Store} {run : Run} {outcome : Outcome}
      (attempted : s.Attempted base (.ok outcome) run)
      (noted : Noted ⟨outcome, run.assignments⟩ run.store store) :
      Step s .process (.ok (.report ⟨outcome, run.assignments⟩))
        (attemptCompleted { s with store, generator := run.generator })
  | closed (available : blockedReason? s.settings s.state .close = none) :
      Step s .close (.ok .done) { s with state := .closed, stage := .idle }
  | reset (available : blockedReason? s.settings s.state .reset = none) :
      Step s .reset (.ok .done) (s.started (settleDefaults s.store))
  | restarted {store : Store} {generator : Generator}
      (available : blockedReason? s.settings s.state .restart = none)
      (prepared : prepare s.item (maxTemplateTries - 1) s.generator = (.ok store, generator)) :
      Step s .restart (.ok .done) ({ s with generator }.started store)
  | solved (available : blockedReason? s.settings s.state .solution = none)
      (values : FieldMap Value) :
      Step s .requestSolution (.ok (.solution values)) { s with solutionRequested := true }
  | elapsed (elapsed : TimeSpan) {store : Store} {spent : Float}
      (interacting : s.state = .interacting)
      (written : s.store.write .value BuiltIn.duration.identifier (.float spent) = .ok store) :
      Step s (.recordElapsed elapsed) (.ok .done) { s with store }

/-- The call `serve request` ends in one of the ways of `Step`. -/
abbrev Serves (s : Session) (request : Request) : Prop :=
  Ends (serve request) s (fun answer ↦ s.Step request (.ok answer))
    fun error ↦ s.Step request (.error error)

section Serves

variable {s : Session}

theorem serves_start (s : Session) : s.Serves .start := by
  rw [Serves, serve, ends_map, start, ends_bind, ends_get]
  by_cases hstate : s.state = .notInitialized
  · rw [if_neg (not_not_intro hstate), ends_bind]
    exact ends_freshStore (fun store generator h ↦ .started hstate h) fun generator error ↦
      .unprepared .start error generator (.inl rfl)
  · rw [if_pos hstate]
    exact .refused .start _ nofun

theorem serves_bind (s : Session) (submission : Submission) : s.Serves (.bind submission) := by
  rw [Serves, serve, ends_map, bind, ends_bind]
  refine ends_requireInteracting _ (fun hstate ↦ ?_) fun error _ ↦ .refused _ error nofun
  exact .bound submission hstate rfl rfl

theorem serves_validate (s : Session) : s.Serves .validate := by
  rw [Serves, serve, ends_map, validate, ends_bind]
  refine ends_requireInteracting _ (fun hstate ↦ ?_) fun error _ ↦ .refused _ error nofun
  rw [ends_bind, ends_get]
  cases hstage : s.stage with
  | idle | bindFailed => exact .refused _ _ nofun
  | bound | validated | validationFailed =>
    cases hchecked : validateResponses s.item s.store with
    | error error => exact .refused _ _ nofun
    | ok invalid => exact .validated hstate (by simp [hstage]) hchecked

/-- The reset of the outcomes gives a store that is `OutcomesReset`, or it fails to write
`completionStatus` back. -/
theorem ends_resetOutcomes (sound : s.Sound) {Q : Unit → Session → Prop}
    {E : SessionError → Session → Prop}
    (hQ : ∀ store, s.OutcomesReset store → Q () { s with store })
    (hE : ∀ status fault, s.value? BuiltIn.completionStatus.identifier = some status →
      (s.store.resetKind .outcome).write .value BuiltIn.completionStatus.identifier status =
        .error fault →
      ∀ error, E (.authoring error) { s with store := s.store.resetKind .outcome }) :
    Ends resetOutcomes s Q E := by
  rw [resetOutcomes, ends_bind, ends_get]
  cases hadaptive : s.item.adaptive with
  | true => exact hQ _ (.adaptive hadaptive)
  | false =>
    obtain ⟨status, hstatus⟩ :=
      exists_value?_builtIn sound.declared sound.declarations_eq .completionStatus
    have hcurrent : s.value? BuiltIn.completionStatus.identifier = some status := hstatus
    simp only [Bool.not_false, if_true, ends_bind, ends_set, hcurrent]
    exact ends_writeBuiltIn _ _ (fun store h ↦ hQ store (.reset hadaptive hcurrent h))
      fun fault h error ↦ hE status fault hcurrent h error

theorem OutcomesReset.declarations_eq {store : Store} (h : s.OutcomesReset store) :
    store.declarations = s.store.declarations := by
  cases h with
  | adaptive _ => rfl
  | reset _ _ written => rw [Store.declarations_write written, Store.declarations_resetKind]

/-- The run of an attempt is `Logged` from the store on which it began, the one with `numAttempts`
gone up. -/
theorem Attempted.logged {base : Store} {result : Except AuthoringError Outcome} {run : Run}
    (h : s.Attempted base result run) :
    ∃ store, base.write .value BuiltIn.numAttempts.identifier
        (.integer (Int64.ofNat (s.completedAttempts + 1))) = .ok store ∧
      run.Logged s.item.layout.Holds store := by
  obtain ⟨store, hstore, hran⟩ := h.ran
  have hlogged := logged_execute_ruleTrees s.item .response store s.generator
  rw [hran] at hlogged
  exact ⟨store, hstore, hlogged⟩

theorem Attempted.declarations_eq {base : Store} {result : Except AuthoringError Outcome}
    {run : Run} (h : s.Attempted base result run) :
    run.store.declarations = s.store.declarations := by
  obtain ⟨store, hstore, hlogged⟩ := h.logged
  rw [hlogged.replays.declarations_eq, Store.declarations_write hstore,
    h.outcomesReset.declarations_eq]

theorem ends_noteAttempted (declared : Declared s.item.declarations)
    (hstore : s.store.declarations = s.item.declarations) (report : Report)
    {Q : Unit → Session → Prop} {E : SessionError → Session → Prop}
    (hQ : ∀ store, Noted report s.store store → Q () { s with store }) :
    Ends (noteAttempted report) s Q E := by
  rw [noteAttempted, ends_bind, ends_get]
  dsimp only
  split
  · rename_i hnote
    have hwritten := write_builtIn declared hstore .completionStatus
      (v := CompletionStatus.unknown.value) rfl rfl
    exact ends_writeBuiltIn _ _ (fun store h ↦ hQ store ((if_pos hnote).mpr h)) fun fault h _ ↦
      nomatch h.symm.trans hwritten
  · rename_i hnote
    exact hQ s.store ((if_neg hnote).mpr rfl)

theorem serves_process (sound : s.Sound) : s.Serves .process := by
  rw [Serves, serve, ends_map, process, ends_bind]
  refine ends_requireInteracting _ (fun hstate ↦ ?_) fun error h ↦ .refused _ error fun _ ↦ h
  rw [ends_bind, ends_get]
  by_cases hstage : s.stage = .validated
  · rw [if_neg (not_not_intro hstage), ends_bind]
    refine ends_resetOutcomes sound (fun base hbase ↦ ?_) fun _ _ hcurrent hlost error ↦
      .unreset hcurrent hlost error
    have hdecl : base.declarations = s.item.declarations :=
      hbase.declarations_eq.trans sound.declarations_eq
    have hcounted := write_builtIn sound.declared hdecl .numAttempts
      (v := .integer (Int64.ofNat (s.completedAttempts + 1))) rfl rfl
    rw [ends_bind, ends_get, ends_bind]
    refine ends_writeBuiltIn _ _ (fun store hstore ↦ ?_) fun fault hfault _ ↦
      nomatch hfault.symm.trans hcounted
    rw [ends_bind]
    refine ends_runResponseRules fun result run hrun ↦ ?_
    have hattempted : s.Attempted base result run := ⟨hstate, hstage, hbase, store, hstore, hrun⟩
    cases result with
    | error error =>
      exact (ends_bind _ _).2 (ends_writeBuiltIn _ _ (fun store' h ↦ .misprocessed hattempted h)
        fun fault h error' ↦ .unrestored hattempted h error')
    | ok outcome =>
      have hrundecl : run.store.declarations = s.item.declarations :=
        hattempted.declarations_eq.trans sound.declarations_eq
      exact (ends_bind _ _).2 (ends_noteAttempted
        (s := { s with store := run.store, generator := run.generator }) sound.declared hrundecl _
        fun store' h ↦ .processed hattempted h)
  · rw [if_pos hstage]
    exact .refused _ _ fun _ ↦ trivial

theorem serves_close (s : Session) : s.Serves .close := by
  rw [Serves, serve, ends_map, close, ends_bind]
  exact ends_ensure _ (fun h ↦ .closed h) fun error ↦ .refused _ error nofun

theorem serves_reset (s : Session) : s.Serves .reset := by
  rw [Serves, serve, ends_map, Session.reset, ends_bind]
  exact ends_ensure _ (fun h ↦ .reset h) fun error ↦ .refused _ error nofun

theorem serves_restart (s : Session) : s.Serves .restart := by
  rw [Serves, serve, ends_map, restart, ends_bind]
  refine ends_ensure _ (fun havailable ↦ ?_) fun error ↦ .refused _ error nofun
  rw [ends_bind]
  exact ends_freshStore (fun store generator h ↦ .restarted havailable h) fun generator error ↦
    .unprepared _ error generator (.inr rfl)

theorem serves_requestSolution (s : Session) : s.Serves .requestSolution := by
  rw [Serves, serve, ends_map, requestSolution, ends_bind]
  exact ends_ensure _ (fun h ↦ .solved h _) fun error ↦ .refused _ error nofun

theorem serves_recordElapsed (s : Session) (elapsed : TimeSpan) :
    s.Serves (.recordElapsed elapsed) := by
  rw [Serves, serve, ends_map, recordElapsed, ends_bind]
  refine ends_requireInteracting _ (fun hstate ↦ ?_) fun error _ ↦ .refused _ error nofun
  rw [ends_bind, ends_get]
  exact ends_writeBuiltIn _ _ (fun store h ↦ .elapsed elapsed hstate h) fun _ _ error ↦
    .refused _ _ nofun

theorem serves (sound : s.Sound) : (request : Request) → s.Serves request
  | .start => serves_start s
  | .bind submission => serves_bind s submission
  | .validate => serves_validate s
  | .process => serves_process sound
  | .close => serves_close s
  | .reset => serves_reset s
  | .restart => serves_restart s
  | .requestSolution => serves_requestSolution s
  | .recordElapsed elapsed => serves_recordElapsed s elapsed

/-- Every call on a `Sound` session ends in one of the ways of `Step`. -/
theorem step_serve (sound : s.Sound) (request : Request) :
    s.Step request ((serve request).run s).1 ((serve request).run s).2 :=
  (ends_run (serve request) s (P := s.Step request)).1 (serves sound request)

end Serves

/-! ### What every call keeps -/

@[simp] theorem item_started (s : Session) (store : Store) : (s.started store).item = s.item := rfl

@[simp] theorem settings_started (s : Session) (store : Store) :
    (s.started store).settings = s.settings :=
  rfl

/-- After `attemptCompleted`, the session is closed or the next attempt begins. -/
theorem attemptCompleted_eq_or (s : Session) :
    (s.attemptCompleted = { s with
        completedAttempts := s.completedAttempts + 1, stage := .idle, state := .closed }) ∨
      ¬({ s with completedAttempts := s.completedAttempts + 1 } : Session).isExhausted ∧
        s.attemptCompleted = { s with
          completedAttempts := s.completedAttempts + 1, stage := .idle
          attemptCount := s.completedAttempts + 1 + 1 } := by
  rw [attemptCompleted]
  dsimp only
  split
  · exact .inl rfl
  · rename_i hexhausted
    exact .inr ⟨hexhausted, rfl⟩

@[simp] theorem item_attemptCompleted (s : Session) : s.attemptCompleted.item = s.item := by
  rcases s.attemptCompleted_eq_or with h | ⟨-, h⟩ <;> rw [h]

@[simp] theorem settings_attemptCompleted (s : Session) :
    s.attemptCompleted.settings = s.settings := by
  rcases s.attemptCompleted_eq_or with h | ⟨-, h⟩ <;> rw [h]

@[simp] theorem store_attemptCompleted (s : Session) : s.attemptCompleted.store = s.store := by
  rcases s.attemptCompleted_eq_or with h | ⟨-, h⟩ <;> rw [h]

@[simp] theorem stage_attemptCompleted (s : Session) : s.attemptCompleted.stage = .idle := by
  rcases s.attemptCompleted_eq_or with h | ⟨-, h⟩ <;> rw [h]

@[simp] theorem completedAttempts_attemptCompleted (s : Session) :
    s.attemptCompleted.completedAttempts = s.completedAttempts + 1 := by
  rcases s.attemptCompleted_eq_or with h | ⟨-, h⟩ <;> rw [h]

/-- The rules leave another status than `not_attempted`, or the session writes `unknown` over it. -/
theorem Noted.eq_or_written {report : Report} {store store' : Store}
    (h : Noted report store store') :
    store' = store ∨ store.write .value BuiltIn.completionStatus.identifier
      CompletionStatus.unknown.value = .ok store' := by
  rw [Noted] at h
  split at h
  · exact .inr h
  · exact .inl h

theorem Noted.declarations_eq {report : Report} {store store' : Store}
    (h : Noted report store store') : store'.declarations = store.declarations := by
  rcases h.eq_or_written with rfl | hwritten
  · rfl
  · exact Store.declarations_write hwritten

namespace Step

variable {s s' : Session} {request : Request} {result : Except SessionError Answer}

/-- A call leaves the `item` and the `settings`. -/
theorem item_eq (h : s.Step request result s') : s'.item = s.item := by
  cases h <;> simp

theorem settings_eq (h : s.Step request result s') : s'.settings = s.settings := by
  cases h <;> simp

/-- A call leaves the declarations of the `store`. -/
theorem declarations_eq (h : s.Step request result s') (sound : s.Sound) :
    s'.store.declarations = s.store.declarations := by
  cases h with
  | refused | unprepared | validated | closed | solved => rfl
  | started _ prepared | restarted _ prepared =>
    exact (declarations_prepare prepared).trans sound.declarations_eq.symm
  | bound submission _ written _ =>
    have h := declarations_writeAll s.store (s.item.bindResponses submission).1.entries
    rw [written] at h
    exact h
  | unreset => exact s.store.declarations_resetKind .outcome
  | misprocessed attempted restored =>
    exact (Store.declarations_write restored).trans attempted.declarations_eq
  | unrestored attempted _ _ => exact attempted.declarations_eq
  | processed attempted noted =>
    rw [store_attemptCompleted]
    exact noted.declarations_eq.trans attempted.declarations_eq
  | reset _ => exact declarations_settleDefaults s.store
  | elapsed _ _ written => exact Store.declarations_write written

/-- A call keeps a session `Sound`. -/
theorem sound (h : s.Step request result s') (sound : s.Sound) : s'.Sound where
  declared := h.item_eq ▸ sound.declared
  declarations_eq := by rw [h.declarations_eq sound, h.item_eq, sound.declarations_eq]

end Step

end Session

end AssessmentItem
