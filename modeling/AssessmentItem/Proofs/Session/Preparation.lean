import AssessmentItem.Proofs.Processing.Effects
import AssessmentItem.Proofs.Session.Reset

/-!
# What template processing has prepared

Template processing gives the template variables their values, and it puts defaults and correct
values over the declared ones.  From then on, until the session is restarted, the session itself
leaves all of this alone.  The rules of response processing do not have to: an author may put an
assignment to a template variable, to a default or to a correct value among them.  So whatever part
of this has changed between two calls was assigned by such a rule, in an attempt made in between and
to the variable that has changed, and where response processing has no such rule nothing changes.

## Main definitions

* `SlotPart.preparer` : the assignment by which template processing fills a part of a slot.
* `Store.IsPrepared` : the parts of slots that are for template processing to fill.
* `Session.Assigns` : an attempt among some events assigns to a variable.

## Main results

* `Session.Step.held?_eq` : a call keeps what is prepared, but for the assignments of an attempt.
* `Session.prepared_of_trace` : what is prepared, after every trace that prepares nothing anew.
-/

namespace AssessmentItem

/-! ### The parts that are prepared -/

/-- The kind of assignment by which template processing fills a part of a slot. -/
def SlotPart.preparer : SlotPart → AssignmentKind
  | .value => .templateValue
  | .default => .defaultValue
  | .correct => .correctResponse

/-- An assignment that fills a part which template processing may fill is of the kind
`part.preparer`: the values of template variables are assigned in one way only. -/
theorem kind_eq_preparer {kind : AssignmentKind} {part : SlotPart} {target : VariableKind}
    (hpart : Processing.part kind = part) (htarget : target ∈ kind.targets)
    (hvalue : part = .value → target = .template) : kind = part.preparer := by
  cases part with
  | value =>
    obtain rfl := hvalue rfl
    rcases kind_of_part_eq_value hpart htarget with ⟨-, hkind⟩ | ⟨houtcome, -⟩
    · exact hkind
    · cases houtcome
  | default => exact kind_of_part_eq_default hpart
  | correct => exact kind_of_part_eq_correct hpart

/-- A part of the slot of `x` is for template processing to fill: the `value` of a template
variable, and the `default` and the `correct` value of every variable. -/
def Store.IsPrepared (store : Store) (part : SlotPart) (x : String) : Prop :=
  part = .value → ∀ d, store.declaration? x = some d → d.kind = .template

/-- A slot after `settled` holds in these parts what it held before. -/
theorem Slot.held_settled {s : Slot} {part : SlotPart}
    (h : part = .value → s.declaration.kind = .template) :
    s.settled.held part = s.held part := by
  by_cases hkind : s.declaration.kind = .template
  · rw [Slot.settled, if_pos hkind]
  · rw [Slot.settled_of_ne hkind]
    cases part with
    | value => exact absurd (h rfl) hkind
    | default => rfl
    | correct => rfl

namespace Store.IsPrepared

open Session

variable {store store' : Store} {part : SlotPart} {x : String}

theorem congr (h : store.IsPrepared part x) (hdecl : store'.declarations = store.declarations) :
    store'.IsPrepared part x := by
  intro hpart d hd
  rw [declaration?_congr hdecl] at hd
  exact h hpart d hd

theorem held?_settleDefaults (h : store.IsPrepared part x) :
    (settleDefaults store).held? part x = store.held? part x := by
  have hsettled (s : Slot) : s.settled.declaration = s.declaration := by
    rw [Slot.settled]
    split <;> rfl
  rw [settleDefaults_eq_map, held?, store.slot?_map hsettled, held?]
  cases hslot : store.slot? x with
  | none => rfl
  | some slot =>
    exact Slot.held_settled fun hpart ↦ h hpart _ (declaration?_of_slot? hslot)

/-- Stores that have the same settled defaults hold the same in the parts that are prepared
(`IsPrepared`). -/
theorem held?_eq (h : store.IsPrepared part x)
    (hsame : settleDefaults store' = settleDefaults store) :
    store'.held? part x = store.held? part x := by
  have hdecl : store'.declarations = store.declarations := by
    rw [← declarations_settleDefaults, hsame, declarations_settleDefaults]
  rw [← (h.congr hdecl).held?_settleDefaults, hsame, h.held?_settleDefaults]

end Store.IsPrepared

namespace Session

variable {s s' s₀ : Session} {base : Store} {run : Run} {request : Request}
  {result : Except SessionError Answer} {events : List Event} {part : SlotPart} {x : String}

/-! ### Attempts -/

/-- An attempt keeps what is prepared, unless a rule assigns to it by `part.preparer`. -/
theorem Attempted.held?_eq {outcome : Except AuthoringError Outcome}
    (h : s.Attempted base outcome run) (sound : s.Sound) (prepared : s.store.IsPrepared part x)
    (unassigned : ∀ a ∈ run.assignments, a.kind = part.preparer → a.identifier ≠ x) :
    run.store.held? part x = s.store.held? part x := by
  obtain ⟨counted, hcounted, hreplays⟩ := h.settleDefaults_counted sound
  have hdecl : counted.declarations = s.store.declarations :=
    hreplays.declarations_eq.symm.trans h.declarations_eq
  rw [← prepared.held?_eq hcounted]
  refine hreplays.held?_eq fun a ha hid hpart ↦ ?_
  obtain ⟨d, hd, htarget⟩ := hreplays.target a ha
  rw [hid] at hd
  have hkind := kind_eq_preparer hpart htarget fun hvalue ↦ prepared.congr hdecl hvalue d hd
  exact unassigned a ha hkind hid

/-- Among the events from `s₀` on there is an attempt, and a rule of it assigns to `x` by `kind`.
The last event comes first. -/
inductive Assigns (s₀ : Session) (kind : AssignmentKind) (x : String) : List Event → Prop
  | here {events : List Event} {s : Session} {result : Except SessionError Answer} {base : Store}
      {outcome : Except AuthoringError Outcome} {run : Run} {a : Assignment}
      (before : s₀.Trace events s) (attempted : s.Attempted base outcome run)
      (noted : a ∈ run.assignments) (hkind : a.kind = kind) (hid : a.identifier = x) :
      Assigns s₀ kind x ((.process, result) :: events)
  | later {events : List Event} (event : Event) (earlier : Assigns s₀ kind x events) :
      Assigns s₀ kind x (event :: events)

/-- Where the item `KeepsTemplates`, no attempt assigns by `part.preparer`. -/
theorem not_assigns_preparer (sound : s₀.Sound) (hitem : KeepsTemplates s₀.item)
    (part : SlotPart) : ¬s₀.Assigns part.preparer x events := by
  intro h
  induction h with
  | here before attempted noted hkind _ =>
    rw [← (before.sound sound).2.1] at hitem
    rcases attempted.kind_of_keepsTemplates hitem _ noted with h | h <;>
      rw [hkind] at h <;> cases part <;> cases h
  | later _ _ ih => exact ih

/-! ### Calls -/

/-- A call that prepares no store keeps what is prepared, unless it is a `process` that assigns to
it. -/
theorem Step.held?_eq (h : s.Step request result s') (sound : s.Sound)
    (unprepared : ¬Prepared request result) (prepared : s.store.IsPrepared part x)
    (unassigned : request = .process → ∀ base outcome run, s.Attempted base outcome run →
      ∀ a ∈ run.assignments, a.kind = part.preparer → a.identifier ≠ x) :
    s'.store.held? part x = s.store.held? part x := by
  rcases h.settleDefaults_eq_or_attempted sound unprepared with
    hsame | ⟨hrequest, base, outcome, run, attempted, hsame⟩
  · exact prepared.held?_eq hsame
  · rw [(prepared.congr attempted.declarations_eq).held?_eq hsame]
    exact attempted.held?_eq sound prepared (unassigned hrequest base outcome run attempted)

/-- Calls that prepare no store keep what is prepared, unless an attempt among them `Assigns` to
it. -/
theorem Trace.held?_eq (trace : s₀.Trace events s) (sound : s₀.Sound)
    (unprepared : ∀ event ∈ events, ¬Prepared event.1 event.2)
    (prepared : s₀.store.IsPrepared part x)
    (unassigned : ¬s₀.Assigns part.preparer x events) :
    s.store.held? part x = s₀.store.held? part x := by
  refine trace.induction (P := fun events s ↦ (∀ event ∈ events, ¬Prepared event.1 event.2) →
    ¬s₀.Assigns part.preparer x events → s.store.held? part x = s₀.store.held? part x) sound
    (fun _ _ ↦ rfl) ?_ unprepared unassigned
  intro events s request result s' before hsound hitem _ ih hstep hunprepared hunassigned
  have hbefore := ih (fun event hevent ↦ hunprepared event (List.mem_cons_of_mem _ hevent))
    fun hassigns ↦ hunassigned (.later _ hassigns)
  have hdecl : s.store.declarations = s₀.store.declarations := by
    rw [hsound.declarations_eq, hitem, sound.declarations_eq]
  refine (hstep.held?_eq hsound (hunprepared _ List.mem_cons_self) (prepared.congr hdecl) ?_).trans
    hbefore
  rintro rfl base outcome run attempted a ha hkind hid
  exact hunassigned (.here before attempted ha hkind hid)

/-! ### Every session -/

/-- Between two states of a session, with any calls in between other than a `start` or `restart`
that succeeds, the value of a template variable, the override of a default and the override of a
correct value have changed only if a rule of response processing has assigned to them, in an attempt
in between.  No attempt does where the item `KeepsTemplates`. -/
theorem prepared_of_trace {declarations : List VariableDeclaration} {item : Item}
    (declared : declareAll declarations = .ok item.declarations) {settings : DeliverySettings}
    {seed : UInt64} {events events' : List Event}
    (trace : (new item settings seed).Trace events s) (trace' : s.Trace events' s')
    (unprepared : ∀ event ∈ events', ¬Prepared event.1 event.2) (x : String) :
    ((∀ d, item.declaration? x = some d → d.kind = .template → s'.value? x ≠ s.value? x →
        s.Assigns .templateValue x events') ∧
      (s'.store.held? .default x ≠ s.store.held? .default x →
        s.Assigns .defaultValue x events') ∧
      (s'.store.held? .correct x ≠ s.store.held? .correct x →
        s.Assigns .correctResponse x events')) ∧
    (KeepsTemplates item → ∀ part : SlotPart, ¬s.Assigns part.preparer x events') := by
  have hnew := sound_new (declared_of_declareAll declared) settings seed
  obtain ⟨hsound, hitem, -⟩ := trace.sound hnew
  have changed {part : SlotPart} (prepared : s.store.IsPrepared part x)
      (hne : s'.store.held? part x ≠ s.store.held? part x) :
      s.Assigns part.preparer x events' := by
    by_contra hnot
    exact hne (trace'.held?_eq hsound unprepared prepared hnot)
  refine ⟨⟨fun d hd hkind hne ↦ ?_, changed nofun, changed nofun⟩, fun keeps part ↦ ?_⟩
  · have prepared : s.store.IsPrepared .value x := by
      intro _ d' hd'
      rw [Store.declaration?_eq, hsound.declarations_eq, hitem] at hd'
      obtain rfl := Option.some.inj (hd.symm.trans hd')
      exact hkind
    refine changed prepared ?_
    rw [Store.held?_value, Store.held?_value]
    exact hne
  · rw [← show s.item = item from hitem] at keeps
    exact not_assigns_preparer hsound keeps part

/-- The declaration of the template variable `T`. -/
def templateDeclaration : VariableDeclaration :=
  ⟨"T", .single, some .integer, .null, .template ⟨false, false⟩⟩

/-- The declaration of the response `RESPONSE` with the correct value `A`. -/
def answerDeclaration : VariableDeclaration :=
  ⟨"RESPONSE", .single, some .identifier, .null,
    .response { ResponseDetails.plain with correct := .identifier "A" }⟩

/-- An item whose template processing gives `T` the value 1, and whose response processing gives it
the value 2 and changes a correct value and a default. -/
def rewritingItem : Item where
  identifier := "rewriting"
  title := ""
  adaptive := false
  declarations := builtIns ++ [templateDeclaration, answerDeclaration, scoreDeclaration]
  layout :=
    ⟨⟨#[⟨⟨.leaf (.baseValue (.integer 1)), []⟩, none⟩,
        ⟨⟨.leaf (.baseValue (.integer 2)), []⟩, none⟩,
        ⟨⟨.leaf (.baseValue (.identifier "B")), []⟩, none⟩,
        ⟨⟨.leaf (.baseValue (.integer 5)), []⟩, none⟩]⟩,
      ⟨#[⟨.assign .templateValue "T" 0, none⟩, ⟨.assign .templateValue "T" 1, none⟩,
        ⟨.assign .correctResponse "RESPONSE" 2, none⟩,
        ⟨.assign .defaultValue "SCORE" 3, none⟩]⟩⟩
  templateRules := [0]
  responseRules := [1, 2, 3]

/-- A session of `rewritingItem` after `start`. -/
def preparedSession : Session :=
  ((serve .start).run (new rewritingItem { maxAttempts := 2 } 1)).2

/-- The session `preparedSession` after its first attempt. -/
def rewrittenSession : Session :=
  let bound := ((serve (.bind .empty)).run preparedSession).2
  ((serve .process).run ((serve .validate).run bound).2).2

/-- The whole number that is `held?` in a part of the slot of `x`. -/
def heldInteger? (s : Session) (part : SlotPart) (x : String) : Option Int64 :=
  ((s.store.held? part x).bind Value.single?).bind Scalar.integer?

theorem template_ne_of_rewritten : rewrittenSession.value? "T" ≠ preparedSession.value? "T" := by
  intro h
  have hsame :
      rewrittenSession.heldInteger? .value "T" = preparedSession.heldInteger? .value "T" := by
    simp only [heldInteger?, Store.held?_value]
    exact congrArg (fun v ↦ (v.bind Value.single?).bind Scalar.integer?) h
  revert hsame
  decide +kernel

theorem assigns_rewrittenSession :
    ∃ events, preparedSession.Trace events rewrittenSession ∧
      preparedSession.Assigns .templateValue "T" events := by
  have declared : declareAll [templateDeclaration, answerDeclaration, scoreDeclaration] =
      .ok rewritingItem.declarations := rfl
  have trace : (new rewritingItem { maxAttempts := 2 } 1).Trace _ preparedSession :=
    Trace.nil.call .start
  have trace' : preparedSession.Trace _ rewrittenSession :=
    ((Trace.nil.call (.bind .empty)).call .validate).call .process
  obtain ⟨⟨htemplate, -, -⟩, -⟩ := prepared_of_trace declared trace trace' (by simp [Prepared]) "T"
  exact ⟨_, trace', htemplate templateDeclaration rfl rfl template_ne_of_rewritten⟩

/-- The references of `rewritingItem` are in order, and without a further `start` the attempt
changes the value of `T`, puts a default where there was none, and a correct value. -/
theorem preparation_lost_rewrittenSession :
    rewritingItem.checkReferences = .ok () ∧
      (serve .start).run (new rewritingItem { maxAttempts := 2 } 1) = (.ok .done, preparedSession) ∧
      (∃ events, preparedSession.Trace events rewrittenSession ∧
        ∀ event ∈ events, event.1 ≠ .start ∧ event.1 ≠ .restart) ∧
      preparedSession.heldInteger? .value "T" = some 1 ∧
      rewrittenSession.heldInteger? .value "T" = some 2 ∧
      preparedSession.store.held? .default "SCORE" = none ∧
      rewrittenSession.heldInteger? .default "SCORE" = some 5 ∧
      preparedSession.store.held? .correct "RESPONSE" = none ∧
      (rewrittenSession.store.held? .correct "RESPONSE").bind Value.text? = some "B" := by
  refine ⟨rfl, rfl, ⟨_, ((Trace.nil.call (.bind .empty)).call .validate).call .process, by simp⟩,
    ?_, ?_, rfl, ?_, rfl, ?_⟩ <;> decide +kernel

end Session

end AssessmentItem
