import AssessmentItem.Proofs.References.Rules
import AssessmentItem.Proofs.Response.Binding
import AssessmentItem.Proofs.Session.Typing

/-!
# What a reset restores

A reset puts responses and outcomes to their defaults and keeps the template values and everything
that template processing has put over a declared value.  Nothing between the start of a session and
the reset changes what is kept, provided that the rules of response processing assign to values of
outcomes alone.  So all stores of a session become the same one when their defaults are settled, and
the reset leaves the session as it was when it began.

## Main definitions

* `Slot.settled` : the slot with its default as its value, unless its variable is a template
  variable.
* `Session.KeepsTemplates` : the rules of response processing leave what template processing gives.

## Main results

* `Session.settleDefaults_write`, `Session.settleDefaults_replays` : what a reset takes back.
* `Session.Step.settleDefaults_eq_or_attempted` : what the calls that prepare no store do to what a
  reset restores.
* `Session.Step.settleDefaults_eq` : the calls that prepare no store keep what a reset restores.
* `Session.reset_eq_started` : a reset restores the session that began.
-/

namespace AssessmentItem

/-! ### One slot -/

namespace Slot

/-- The slot after `reset`, unless its variable is a template variable. -/
def settled (s : Slot) : Slot := if s.declaration.kind = .template then s else s.reset

variable {s : Slot}

theorem settled_of_ne (h : s.declaration.kind ≠ .template) : s.settled = s.reset := if_neg h

theorem settled_write_value (h : s.declaration.kind ≠ .template) (v : Value) :
    (s.write .value v).settled = s.settled := by
  rw [settled_of_ne h, settled_of_ne (by rwa [declaration_write])]
  rfl

theorem settled_reset (h : s.declaration.kind ≠ .template) : s.reset.settled = s.settled := by
  rw [settled_of_ne h, settled_of_ne (by rwa [declaration_reset])]
  rfl

end Slot

namespace Session

open Processing

/-! ### Stores that become the same one -/

section Stores

variable {store store' : Store} {x : String} {v : Value}

theorem settleDefaults_eq_map (store : Store) :
    settleDefaults store = ⟨store.slots.map Slot.settled⟩ := by
  rw [settleDefaults, Store.resetKind, Store.resetKind, List.map_map]
  congr 1
  refine List.map_congr_left fun s _ ↦ ?_
  rw [Function.comp_apply, Store.declaration_reset_slot, Slot.settled]
  cases s.declaration.kind <;> rfl

/-- Slots with the same `settled` form make stores with the same settled defaults. -/
theorem settleDefaults_map {f : Slot → Slot} (h : ∀ s ∈ store.slots, (f s).settled = s.settled) :
    settleDefaults ⟨store.slots.map f⟩ = settleDefaults store := by
  rw [settleDefaults_eq_map, settleDefaults_eq_map, List.map_map]
  exact congrArg Store.mk (List.map_congr_left h)

theorem settleDefaults_resetKind (store : Store) (kind : VariableKind)
    (hkind : kind ≠ .template) :
    settleDefaults (store.resetKind kind) = settleDefaults store := by
  refine settleDefaults_map fun s _ ↦ ?_
  split
  · rename_i h
    exact Slot.settled_reset (h ▸ hkind)
  · rfl

theorem settleDefaults_settleDefaults (store : Store) :
    settleDefaults (settleDefaults store) = settleDefaults store :=
  (settleDefaults_resetKind (store.resetKind .response) .outcome nofun).trans
    (settleDefaults_resetKind store .response nofun)

/-- What is written to the value of a response or an outcome is taken back by `settleDefaults`. -/
theorem settleDefaults_write (distinct : (store.declarations.map (·.identifier)).Nodup)
    (hw : store.write .value x v = .ok store') {d : VariableDeclaration}
    (hd : store.declaration? x = some d) (hkind : d.kind ≠ .template) :
    settleDefaults store' = settleDefaults store := by
  obtain ⟨_, w, -, -, rfl⟩ := Store.write_eq_ok_iff.1 hw
  refine settleDefaults_map fun s hs ↦ ?_
  split
  · rename_i hid
    have hfind := findDeclaration?_of_mem distinct (List.mem_map_of_mem hs)
    rw [hid, ← Store.declaration?_eq, hd] at hfind
    obtain rfl := Option.some.inj hfind
    exact Slot.settled_write_value hkind w
  · rfl

/-- Assignments to values of outcomes are taken back by `settleDefaults`. -/
theorem settleDefaults_replays {as : List Assignment} (h : store.Replays as store')
    (distinct : (store.declarations.map (·.identifier)).Nodup)
    (houtcomes : ∀ a ∈ as, a.kind = .outcomeValue ∨ a.kind = .lookup) :
    settleDefaults store' = settleDefaults store := by
  induction h with
  | nil => rfl
  | @snoc _ _ as a before last ih =>
    rw [← ih fun a ha ↦ houtcomes a (List.mem_append_left _ ha)]
    obtain ⟨d, hd, htarget⟩ := last.target
    have hwritten := last.written
    rw [← before.declarations_eq] at distinct
    rcases houtcomes a (by simp) with hkind | hkind <;> rw [hkind] at htarget hwritten
    all_goals
      have hd' : d.kind ≠ .template := List.mem_singleton.1 htarget ▸ nofun
      exact settleDefaults_write distinct hwritten hd hd'

end Stores

/-! ### Calls -/

/-- No rule of response processing is of kind `templateValue`, `defaultValue` or `correctResponse`:
what template processing gives is left to it. -/
def KeepsTemplates (item : Item) : Prop :=
  ∀ tree ∈ item.ruleTrees .response, tree.Each
    (fun _ rule ↦ ∀ kind x e, rule = .assign kind x e →
      kind ≠ .templateValue ∧ kind ≠ .defaultValue ∧ kind ≠ .correctResponse)
    fun _ ↦ True

variable {s s' : Session} {base store store' : Store} {request : Request}
  {result : Except SessionError Answer}

/-- A built-in variable is a response or an outcome, so what is written to it is taken back. -/
theorem settleDefaults_write_builtIn (sound : s.Sound)
    (hdecl : store.declarations = s.store.declarations) {b : BuiltIn} {v : Value}
    (hw : store.write .value b.identifier v = .ok store') :
    settleDefaults store' = settleDefaults store := by
  obtain ⟨d, hd, hkind, -⟩ := exists_declaration?_builtIn sound.declared
    (hdecl.trans sound.declarations_eq) b
  refine settleDefaults_write (sound.nodup hdecl) hw hd ?_
  rw [hkind]
  cases b <;> decide

theorem settleDefaults_writeAll (sound : s.Sound) (submission : Submission) :
    settleDefaults (writeAll s.store (s.item.bindResponses submission).1.entries).1 =
      settleDefaults s.store := by
  refine sound.writeAll_induction
    (P := fun store ↦ settleDefaults store = settleDefaults s.store) submission rfl
    fun hdecl hd hcandidate _ hw hsettled ↦ ?_
  have hkind := (isCandidateResponse_iff.1 hcandidate).1
  exact (settleDefaults_write (sound.nodup hdecl) hw hd (hkind ▸ nofun)).trans hsettled

theorem OutcomesReset.settleDefaults_eq (sound : s.Sound) (h : s.OutcomesReset base) :
    settleDefaults base = settleDefaults s.store := by
  cases h with
  | adaptive => rfl
  | reset _ _ written =>
    exact (settleDefaults_write_builtIn sound (Store.declarations_resetKind _ _) written).trans
      (settleDefaults_resetKind s.store .outcome nofun)

/-- The rules of an item that `KeepsTemplates` assign to values of outcomes alone. -/
theorem Attempted.kind_of_keepsTemplates (hitem : KeepsTemplates s.item)
    {outcome : Except AuthoringError Outcome} {run : Run} (h : s.Attempted base outcome run) :
    ∀ a ∈ run.assignments, a.kind = .outcomeValue ∨ a.kind = .lookup := by
  obtain ⟨counted, -, hran⟩ := h.ran
  have hlogged := logged_execute s.item hitem counted s.generator
  rw [hran] at hlogged
  intro a ha
  obtain ⟨e, he⟩ := hlogged.noted a ha
  obtain ⟨htemplate, hdefault, hcorrect⟩ := he a.kind a.identifier e rfl
  generalize a.kind = kind at htemplate hdefault hcorrect
  cases kind <;> simp at htemplate hdefault hcorrect ⊢

/-- An attempt is taken back up to a store from which its rules start. -/
theorem Attempted.settleDefaults_counted (sound : s.Sound)
    {outcome : Except AuthoringError Outcome} {run : Run} (h : s.Attempted base outcome run) :
    ∃ counted, settleDefaults counted = settleDefaults s.store ∧
      counted.Replays run.assignments run.store := by
  obtain ⟨counted, hcounted, hlogged⟩ := h.logged
  have hdecl := h.outcomesReset.declarations_eq
  refine ⟨counted, ?_, hlogged.replays⟩
  calc settleDefaults counted
      = settleDefaults base := settleDefaults_write_builtIn sound hdecl hcounted
    _ = settleDefaults s.store := h.outcomesReset.settleDefaults_eq sound

/-- An attempt of an item that `KeepsTemplates` is taken back. -/
theorem Attempted.settleDefaults_eq (sound : s.Sound) (hitem : KeepsTemplates s.item)
    {outcome : Except AuthoringError Outcome} {run : Run} (h : s.Attempted base outcome run) :
    settleDefaults run.store = settleDefaults s.store := by
  obtain ⟨counted, hcounted, hreplays⟩ := h.settleDefaults_counted sound
  have hdistinct := sound.nodup (hreplays.declarations_eq.symm.trans h.declarations_eq)
  exact (settleDefaults_replays hreplays hdistinct (h.kind_of_keepsTemplates hitem)).trans hcounted

/-- Whether a call has prepared a store anew: a `start` or a `restart` that has succeeded. -/
def Prepared (request : Request) (result : Except SessionError Answer) : Prop :=
  (request = .start ∨ request = .restart) ∧ ∃ answer, result = .ok answer

/-- A call that prepares no store keeps what a `reset` restores, unless it is a `process` whose
rules change it: nothing else that an attempt does is left. -/
theorem Step.settleDefaults_eq_or_attempted (h : s.Step request result s') (sound : s.Sound)
    (unprepared : ¬Prepared request result) :
    settleDefaults s'.store = settleDefaults s.store ∨
      request = .process ∧ ∃ base outcome run, s.Attempted base outcome run ∧
        settleDefaults s'.store = settleDefaults run.store := by
  cases h with
  | refused | unprepared | validated | closed | solved => exact .inl rfl
  | started => exact absurd ⟨.inl rfl, _, rfl⟩ unprepared
  | restarted => exact absurd ⟨.inr rfl, _, rfl⟩ unprepared
  | bound submission _ written _ =>
    have hall := settleDefaults_writeAll sound submission
    rw [written] at hall
    exact .inl hall
  | unreset => exact .inl (settleDefaults_resetKind s.store .outcome nofun)
  | misprocessed attempted restored =>
    exact .inr ⟨rfl, _, _, _, attempted,
      settleDefaults_write_builtIn sound attempted.declarations_eq restored⟩
  | unrestored attempted => exact .inr ⟨rfl, _, _, _, attempted, rfl⟩
  | processed attempted noted =>
    refine .inr ⟨rfl, _, _, _, attempted, ?_⟩
    rw [store_attemptCompleted]
    rcases noted.eq_or_written with rfl | hwritten
    · rfl
    · exact settleDefaults_write_builtIn sound attempted.declarations_eq hwritten
  | reset => exact .inl (settleDefaults_settleDefaults s.store)
  | elapsed _ _ written => exact .inl (settleDefaults_write_builtIn sound rfl written)

/-- A call that prepares no store keeps what a `reset` restores, if the item `KeepsTemplates`. -/
theorem Step.settleDefaults_eq (h : s.Step request result s') (sound : s.Sound)
    (hitem : KeepsTemplates s.item) (unprepared : ¬Prepared request result) :
    settleDefaults s'.store = settleDefaults s.store := by
  rcases h.settleDefaults_eq_or_attempted sound unprepared with
    hsame | ⟨-, _, _, _, attempted, hsame⟩
  · exact hsame
  · exact hsame.trans (attempted.settleDefaults_eq sound hitem)

/-- A session that has `Prepared` its store is `started` on it, and the store is settled. -/
theorem Step.eq_started_of_prepared (h : s.Step request result s')
    (prepared : Prepared request result) :
    s' = s'.started s'.store ∧ settleDefaults s'.store = s'.store := by
  obtain ⟨hrequest, answer, rfl⟩ := prepared
  cases h with
  | started _ prepared | restarted _ prepared =>
    obtain ⟨run, rfl, -⟩ := exists_replays_of_prepare prepared
    exact ⟨rfl, settleDefaults_settleDefaults run.store⟩
  | _ => simp at hrequest

/-- Sessions of the same `item` and `settings` are `started` in the same way, but for their
draws. -/
theorem started_eq (hitem : s'.item = s.item) (hsettings : s'.settings = s.settings)
    (store : Store) : s'.started store = { s.started store with generator := s'.generator } := by
  rw [started, started, hitem, hsettings]

/-- After a `reset` that succeeds a session is, but for the draws of its `generator`, as it was
after the last `start` or `restart`: it has the same state, stage and counters, and the same values,
defaults and correct values of all variables.  In between, there may be any calls other than a
`start` or `restart` that succeeds, whether they succeed or fail. -/
theorem reset_eq_started {declarations : List VariableDeclaration} {item : Item}
    (declared : declareAll declarations = .ok item.declarations) (keeps : KeepsTemplates item)
    {settings : DeliverySettings} {seed : UInt64} {events events' : List Event}
    {s₀ s₁ s₂ s₃ : Session} {answer answer' : Answer}
    (trace : (new item settings seed).Trace events s₀)
    (prepares : request = .start ∨ request = .restart)
    (began : (serve request).run s₀ = (.ok answer, s₁)) (trace' : s₁.Trace events' s₂)
    (last : ∀ event ∈ events', ¬Prepared event.1 event.2)
    (succeeded : (serve .reset).run s₂ = (.ok answer', s₃)) :
    s₃ = { s₁ with generator := s₃.generator } := by
  obtain ⟨hsound₀, hitem₀, -⟩ :=
    trace.sound (sound_new (declared_of_declareAll declared) settings seed)
  have hbegan := step_serve hsound₀ request
  rw [began] at hbegan
  have hsound₁ := hbegan.sound hsound₀
  have hkeeps : KeepsTemplates s₁.item := by
    rw [hbegan.item_eq, hitem₀]
    exact keeps
  obtain ⟨hstarted, hsettled⟩ := hbegan.eq_started_of_prepared ⟨prepares, answer, rfl⟩
  have hsame : settleDefaults s₂.store = settleDefaults s₁.store :=
    trace'.induction (P := fun events s ↦ (∀ event ∈ events, ¬Prepared event.1 event.2) →
      settleDefaults s.store = settleDefaults s₁.store) hsound₁ (fun _ ↦ rfl)
      (fun _ hsound hitem _ hs hstep hlast ↦
        (hstep.settleDefaults_eq hsound (hitem ▸ hkeeps) (hlast _ List.mem_cons_self)).trans
          (hs fun event hevent ↦ hlast event (List.mem_cons_of_mem _ hevent))) last
  obtain ⟨hsound₂, hitem, hsettings⟩ := trace'.sound hsound₁
  have hreset := step_serve hsound₂ .reset
  rw [succeeded] at hreset
  cases hreset
  rw [hsame, hsettled]
  exact (started_eq hitem hsettings s₁.store).trans
    (congrArg (fun s ↦ { s with generator := s₂.generator }) hstarted.symm)

/-- A session of `countingItem` with two attempts that may be reset. -/
def resettableSession : Session :=
  ((serve .start).run
    (new countingItem { maxAttempts := 2, allowResetWhenInteracting := true } 1)).2

/-- The session `resettableSession` after its first attempt. -/
def attemptedSession : Session :=
  let bound := ((serve (.bind .empty)).run resettableSession).2
  ((serve .process).run ((serve .validate).run bound).2).2

theorem reset_attemptedSession :
    attemptedSession.completedAttempts = 1 ∧
      ∃ answer s', (serve .reset).run attemptedSession = (.ok answer, s') ∧
        s' = { resettableSession with generator := s'.generator } := by
  have attempted : attemptedSession.completedAttempts = 1 := by decide +kernel
  have declared : declareAll [scoreDeclaration] = .ok countingItem.declarations := rfl
  have keeps : KeepsTemplates countingItem := by
    intro tree htree
    obtain rfl := List.mem_singleton.1 htree
    refine .node (fun kind x e hrule ↦ ?_) nofun
    cases hrule
    decide
  have began : (serve .start).run
      (new countingItem { maxAttempts := 2, allowResetWhenInteracting := true } 1) =
        (.ok .done, resettableSession) := rfl
  have trace : resettableSession.Trace _ attemptedSession :=
    ((Trace.nil.call (.bind .empty)).call .validate).call .process
  obtain ⟨answer, succeeded⟩ : ∃ answer, (serve .reset).run attemptedSession =
      (.ok answer, ((serve .reset).run attemptedSession).2) :=
    exists_run_eq_ok (by decide +kernel)
  refine ⟨attempted, answer, _, succeeded,
    reset_eq_started declared keeps .nil (.inl rfl) began trace ?_ succeeded⟩
  simp [Prepared]

end Session

end AssessmentItem
