import AssessmentItem.Proofs.References.Rules
import AssessmentItem.Proofs.Response.Validation
import AssessmentItem.Proofs.Session.Traces

/-!
# Validity of the processed responses

That a session is at the stage at which its responses are validated is noted once and looked up
later.  In between, time is recorded and a processing may fail half-way; neither changes a value of
the candidate, and everything else that does takes the note back.  So the responses of a session at
that stage are valid as they are, and they are the ones that were bound and validated.

## Main definitions

* `Session.lastBinding?` : the identifiers that the last binding of the attempt found bad.
* `Session.ValidSince` : the values of the candidate are those of an earlier validation.

## Main results

* `Session.Step.sameResponses` : the calls that leave the stage leave the values of the candidate.
* `Session.validated_responses` : the responses of a session at the stage of validation.
-/

namespace AssessmentItem.Session

/-- The bad identifiers of the last `bind` that has succeeded since the attempt began: since a
successful `start`, `reset`, `restart` or `process`. -/
def lastBinding? : List Event → Option (List String)
  | [] => none
  | (.bind _, .ok (.bad identifiers)) :: _ => some identifiers
  | (.process, .ok _) :: _ | (.start, .ok _) :: _ | (.reset, .ok _) :: _
  | (.restart, .ok _) :: _ => none
  | _ :: events => lastBinding? events

@[simp] theorem lastBinding?_error (request : Request) (error : SessionError)
    (events : List Event) :
    lastBinding? ((request, .error error) :: events) = lastBinding? events := by
  cases request <;> rfl

variable {s s' : Session} {request : Request} {result : Except SessionError Answer}
  {events : List Event}

/-! ### The last binding -/

/-- At the stages after a binding without bad identifiers, `lastBinding?` had none. -/
def BoundWell (events : List Event) (s : Session) : Prop :=
  s.stage ≠ .idle → s.stage ≠ .bindFailed → lastBinding? events = some []

theorem Step.boundWell (h : s.Step request result s') (hs : BoundWell events s) :
    BoundWell ((request, result) :: events) s' := by
  intro hidle hfailed
  cases h with
  | refused | unprepared | unreset | misprocessed | unrestored =>
    rw [lastBinding?_error]
    exact hs hidle hfailed
  | started | restarted | reset | closed => exact absurd rfl hidle
  | processed => exact absurd (stage_attemptCompleted _) hidle
  | @bound _ _ _ bad =>
    cases bad with
    | nil => rfl
    | cons identifier bad => exact absurd rfl hfailed
  | validated _ hstage _ => exact hs hstage.1 hstage.2
  | solved | elapsed => exact hs hidle hfailed

/-! ### The values of the candidate -/

theorem OutcomesReset.sameResponses {store : Store} (sound : s.Sound)
    (h : s.OutcomesReset store) : s.store.SameResponses store := by
  cases h with
  | adaptive _ => exact .refl _
  | reset _ _ written =>
    refine (Store.SameResponses.of_resetKind_outcome s.store).trans (.of_write_builtIn ?_ written)
    rw [Store.declarations_resetKind, sound.declarations_eq]
    exact sound.declared

/-- Neither the reset of the outcomes nor the rules change a value of the candidate: an attempt
keeps `SameResponses`. -/
theorem Attempted.sameResponses {base : Store} {outcome : Except AuthoringError Outcome} {run : Run}
    (sound : s.Sound) (h : s.Attempted base outcome run) : s.store.SameResponses run.store := by
  have hbase := h.outcomesReset.sameResponses sound
  obtain ⟨store, hstore, hlogged⟩ := h.logged
  have declared : Declared base.declarations := by
    rw [hbase.declarations_eq, sound.declarations_eq]
    exact sound.declared
  exact (hbase.trans (.of_write_builtIn declared hstore)).trans (.of_replays hlogged.replays)

/-- A call that leaves a session at the stage `validated` has validated its responses, or the
session was at that stage before and no value of the candidate has changed. -/
theorem Step.sameResponses (h : s.Step request result s') (sound : s.Sound)
    (hstage : s'.stage = .validated) :
    (result = .ok (.invalid []) ∧ request = .validate ∧ s'.store = s.store ∧
      validateResponses s.item s.store = .ok []) ∨
    (s.stage = .validated ∧ s.store.SameResponses s'.store) := by
  have declared : Declared s.store.declarations := sound.declarations_eq ▸ sound.declared
  cases h with
  | refused | unprepared | solved => exact .inr ⟨hstage, .refl _⟩
  | started | restarted | reset | closed => cases hstage
  | processed => exact absurd ((stage_attemptCompleted _).symm.trans hstage) nofun
  | @bound _ _ _ bad =>
    cases bad <;> cases hstage
  | @validated invalid _ _ checked =>
    cases invalid with
    | nil => exact .inl ⟨rfl, rfl, rfl, checked⟩
    | cons identifier invalid => cases hstage
  | unreset => exact .inr ⟨hstage, .of_resetKind_outcome s.store⟩
  | misprocessed attempted restored =>
    have hrun := attempted.sameResponses sound
    rw [← hrun.declarations_eq] at declared
    exact .inr ⟨hstage, hrun.trans (.of_write_builtIn declared restored)⟩
  | unrestored attempted => exact .inr ⟨hstage, attempted.sameResponses sound⟩
  | elapsed _ _ written => exact .inr ⟨hstage, .of_write_builtIn declared written⟩

/-- At the stage `validated`, the values of the candidate are those of a session whose `validate`
found nothing `invalid`. -/
def ValidSince (s₀ : Session) (events : List Event) (s : Session) : Prop :=
  s.stage = .validated → validateResponses s.item s.store = .ok [] ∧
    ∃ after before s₁, events = after ++ (.validate, .ok (.invalid [])) :: before ∧
      s₀.Trace before s₁ ∧ s₁.store.SameResponses s.store

theorem Step.validSince {s₀ : Session} (h : s.Step request result s') (sound : s.Sound)
    (hitem : s.item.KeepsBuiltIns) (trace : s₀.Trace events s) (hs : ValidSince s₀ events s) :
    ValidSince s₀ ((request, result) :: events) s' := by
  intro hstage
  rcases h.sameResponses sound hstage with ⟨rfl, rfl, hstore, hchecked⟩ | ⟨hstage, hsame⟩
  · rw [h.item_eq, hstore]
    exact ⟨hchecked, [], events, s, rfl, trace, .refl s.store⟩
  · obtain ⟨hchecked, after, before, s₁, rfl, htrace, hsince⟩ := hs hstage
    rw [h.item_eq, validateResponses_congr hitem sound.declarations_eq hsame]
    exact ⟨hchecked, (request, result) :: after, before, s₁, rfl, htrace, hsince.trans hsame⟩

/-! ### Every trace -/

/-- The responses of a session at the stage `validated` are valid as they are, the last `bind` had
no bad identifiers, and no value of the candidate has changed since a `validate` that has found
nothing `invalid`.  So `process` never runs on other responses, not even after a `process` that has
failed. -/
theorem validated_responses {declarations : List VariableDeclaration} {item : Item}
    (declared : declareAll declarations = .ok item.declarations)
    (kept : ∀ d ∈ declarations, d.identifier ≠ BuiltIn.duration.identifier ∧
      d.identifier ≠ BuiltIn.numAttempts.identifier)
    {settings : DeliverySettings} {seed : UInt64} {events : List Event} {s : Session}
    (trace : (new item settings seed).Trace events s) (stage : s.stage = .validated) :
    validateResponses item s.store = .ok [] ∧ lastBinding? events = some [] ∧
      ∃ after before s₁, events = after ++ (.validate, .ok (.invalid [])) :: before ∧
        (new item settings seed).Trace before s₁ ∧
        ∀ d ∈ item.declarations, d.isCandidateResponse = true →
          s.store.value? d.identifier = s₁.store.value? d.identifier := by
  have hkeeps := keepsBuiltIns_of_declareAll declared kept
  have hsound := sound_new hkeeps.declared settings seed
  have hbound : BoundWell events s :=
    trace.induction (P := BoundWell) hsound (fun h _ ↦ absurd rfl h) fun _ _ _ _ hs hstep ↦
      hstep.boundWell hs
  have hvalid : ValidSince (new item settings seed) events s :=
    trace.induction (P := ValidSince (new item settings seed)) hsound (fun h ↦ nomatch h)
      fun before hsound hitem _ hs hstep ↦ hstep.validSince hsound (hitem ▸ hkeeps) before hs
  obtain ⟨hchecked, after, before, s₁, hevents, htrace, hsame⟩ := hvalid stage
  rw [(trace.sound hsound).2.1] at hchecked
  refine ⟨hchecked, hbound (by simp [stage]) (by simp [stage]), after, before, s₁, hevents, htrace,
    fun d hd hcandidate ↦ ?_⟩
  have hfind := findDeclaration?_of_mem hkeeps.declared.nodup hd
  obtain ⟨hsound₁, hitem₁, -⟩ := htrace.sound hsound
  have hdecl : s₁.store.declarations = item.declarations :=
    hsound₁.declarations_eq.trans (congrArg Item.declarations hitem₁)
  rw [← hdecl, ← Store.declaration?_eq] at hfind
  exact hsame.value?_eq _ d hfind hcandidate

/-- The response `LETTER` asks for exactly one letter. -/
def letterResponse : VariableDeclaration where
  identifier := "LETTER"
  cardinality := .single
  baseType := some .string
  default := .null
  details := .response ⟨.null, none, none, ⟨1, some 1, some "[a-z]"⟩⟩

/-- An item that asks for a `LETTER`, and whose response processing comes to a rule that does not
exist. -/
def unprocessableItem : Item where
  identifier := "unprocessable"
  title := ""
  adaptive := false
  declarations := builtIns ++ [letterResponse]
  layout := .empty
  templateRules := []
  responseRules := [0]

def letterSubmission : Submission where
  entries := [("LETTER", .texts ["b"])]
  sorted := by decide

/-- A session in which `letterSubmission` has been bound and validated. -/
def letterSession : Session :=
  let started := ((serve .start).run (new unprocessableItem {} 1)).2
  ((serve .validate).run ((serve (.bind letterSubmission)).run started).2).2

/-- The session `letterSession` after its `process` has failed. -/
def validatedSession : Session := ((serve .process).run letterSession).2

/-- The letter is still valid, and still the one that was bound, after a `process` that has
failed. -/
theorem validated_validatedSession :
    ((serve .process).run letterSession).1.isOk = false ∧ validatedSession.stage = .validated ∧
      validateResponses unprocessableItem validatedSession.store = .ok [] ∧
      ((validatedSession.value? "LETTER").bind Value.single?).bind Scalar.text? = some "b" := by
  have failed : ((serve .process).run letterSession).1.isOk = false := by decide +kernel
  have stage : validatedSession.stage = .validated := by decide +kernel
  have start : (new unprocessableItem {} 1).Trace [] _ := .nil
  have trace :=
    (((start.call .start).call (.bind letterSubmission)).call .validate).call .process
  have declared : declareAll [letterResponse] = .ok unprocessableItem.declarations := rfl
  exact ⟨failed, stage, (validated_responses declared (by decide) trace stage).1,
    by decide +kernel⟩

end AssessmentItem.Session
