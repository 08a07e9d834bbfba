import AssessmentItem.Proofs.References.Rules
import AssessmentItem.Proofs.Session.Traces

/-!
# Rescoring

An item that is not adaptive scores every attempt anew: its outcomes other than `completionStatus`
are put to their defaults before the rules of response processing run.  So two sessions that differ
in their scores alone are the same once the outcomes are reset, whatever the rules then read and
draw, and `Session.process` gives the same result and leaves the same session.

## Main definitions

* `Session.AgreeButScores` : two sessions differ at most in the scores of earlier attempts.

## Main results

* `Session.AgreeButScores.resetKind_eq` : the outcomes of such sessions are reset to the same store.
* `Session.process_eq_of_agreeButScores` : such sessions are scored alike.
-/

namespace AssessmentItem

/-- Slots of a variable that agree on the overrides, and on the value unless the variable is an
outcome, have the same `reset`. -/
theorem Slot.reset_eq_of_agree {s s' : Slot} (hdecl : s'.declaration = s.declaration)
    (hdefault : s'.defaultOverride = s.defaultOverride)
    (hcorrect : s'.correctOverride = s.correctOverride)
    (hvalue : s.declaration.kind ≠ .outcome → s'.value = s.value) :
    (if s'.declaration.kind = .outcome then s'.reset else s') =
      if s.declaration.kind = .outcome then s.reset else s := by
  obtain ⟨d, v, default, correct⟩ := s
  obtain ⟨d', v', default', correct'⟩ := s'
  obtain rfl : d' = d := hdecl
  obtain rfl : default' = default := hdefault
  obtain rfl : correct' = correct := hcorrect
  by_cases hkind : d'.kind = .outcome
  · rw [if_pos hkind, if_pos hkind]
    rfl
  · rw [if_neg hkind, if_neg hkind]
    obtain rfl : v' = v := hvalue hkind
    rfl

namespace Session

/-- Two sessions agree on everything but the scores: on the item, the settings, the state, the
stage, the counters, the generator, the values of templates and responses, the overrides of declared
values and `completionStatus`.  The values of all other outcomes may differ. -/
structure AgreeButScores (s s' : Session) : Prop where
  frame : s' = { s with store := s'.store }
  value?_eq : ∀ x d, s.item.declaration? x = some d →
    d.kind ≠ .outcome ∨ x = BuiltIn.completionStatus.identifier → s'.value? x = s.value? x
  default_eq : ∀ x, s'.store.held? .default x = s.store.held? .default x
  correct_eq : ∀ x, s'.store.held? .correct x = s.store.held? .correct x

variable {s s' : Session}

/-- Another value may be put into an outcome other than `completionStatus`. -/
theorem agreeButScores_put {x : String} {d : VariableDeclaration}
    (hd : s.item.declaration? x = some d) (hkind : d.kind = .outcome)
    (hx : x ≠ BuiltIn.completionStatus.identifier) (v : Value) :
    s.AgreeButScores { s with store := s.store.put .value x v } := by
  have hheld {part : SlotPart} (hpart : .value ≠ part) (y : String) :
      (s.store.put .value x v).held? part y = s.store.held? part y := by
    refine Store.held?_congr ?_
    rw [Store.slot?_put]
    split
    · rw [Option.map_map]
      exact congrArg (Option.map · _) (funext fun slot ↦ slot.held_write_of_ne hpart v)
    · rfl
  refine ⟨rfl, fun y e he hy ↦ Store.value?_put_of_ne ?_ s.store .value v, hheld nofun,
    hheld nofun⟩
  rintro rfl
  rw [hd] at he
  obtain rfl := Option.some.inj he
  exact hy.elim (absurd hkind) hx

/-! ### The reset -/

theorem AgreeButScores.declarations_eq (h : s.AgreeButScores s') (sound : s.Sound)
    (sound' : s'.Sound) : s'.store.declarations = s.store.declarations := by
  rw [sound'.declarations_eq, h.frame, sound.declarations_eq]

/-- The outcomes of sessions that agree are reset to the same store. -/
theorem AgreeButScores.resetKind_eq (h : s.AgreeButScores s') (sound : s.Sound)
    (sound' : s'.Sound) : s'.store.resetKind .outcome = s.store.resetKind .outcome := by
  have hdecl := h.declarations_eq sound sound'
  refine Store.eq_of_slot?_eq (by simp [hdecl]) ?_ fun x ↦ ?_
  · rw [Store.declarations_resetKind, sound.declarations_eq]
    exact sound.declared.nodup
  rw [Store.slot?_resetKind, Store.slot?_resetKind]
  have hsame : s'.store.declaration? x = s.store.declaration? x := Store.declaration?_congr hdecl x
  cases hslot : s.store.slot? x with
  | none =>
    rw [Store.declaration?, Store.declaration?, hslot, Option.map_none, Option.map_eq_none_iff]
      at hsame
    rw [hsame]
  | some slot =>
    rw [Store.declaration?_of_slot? hslot] at hsame
    obtain ⟨slot', hslot', hdeclaration⟩ := Option.map_eq_some_iff.1 hsame
    rw [hslot', Option.map_some, Option.map_some]
    refine congrArg some (Slot.reset_eq_of_agree hdeclaration ?_ ?_ fun hkind ↦ ?_)
    · simpa [Store.held?, hslot, hslot', Slot.held] using h.default_eq x
    · simpa [Store.held?, hslot, hslot', Slot.held] using h.correct_eq x
    · have hd : s.item.declaration? x = some slot.declaration := by
        rw [Item.declaration?, ← sound.declarations_eq, ← Store.declaration?_eq]
        exact Store.declaration?_of_slot? hslot
      have hvalue : s'.store.value? x = s.store.value? x := h.value?_eq x _ hd (.inl hkind)
      rw [Store.value?, Store.value?, hslot, hslot'] at hvalue
      exact Option.some.inj hvalue

/-- Once the outcomes of an item that is not `adaptive` are at their defaults, `completionStatus` is
written back. -/
theorem run_resetOutcomes (notAdaptive : s.item.adaptive = false) {status : Value}
    (current : s.value? BuiltIn.completionStatus.identifier = some status) :
    resetOutcomes.run s = (writeBuiltIn .completionStatus status).run
      { s with store := s.store.resetKind .outcome } := by
  rw [resetOutcomes, run_bind_of_run_eq_ok (run_get s)]
  simp only [notAdaptive, Bool.not_false, if_true, current]
  rfl

/-- The call `resetOutcomes` takes sessions that agree to the same result and the same session. -/
theorem AgreeButScores.run_resetOutcomes_eq (h : s.AgreeButScores s') (sound : s.Sound)
    (sound' : s'.Sound) (notAdaptive : s.item.adaptive = false) :
    resetOutcomes.run s' = resetOutcomes.run s := by
  obtain ⟨d, hd, -⟩ := sound.declared.builtIn .completionStatus
  obtain ⟨status, current⟩ :=
    exists_value?_builtIn sound.declared sound.declarations_eq .completionStatus
  have current' : s'.value? BuiltIn.completionStatus.identifier = some status :=
    (h.value?_eq _ d hd (.inr rfl)).trans current
  have notAdaptive' : s'.item.adaptive = false := by
    rw [h.frame]
    exact notAdaptive
  have hreset : { s' with store := s'.store.resetKind .outcome } =
      { s with store := s.store.resetKind .outcome } := by
    rw [h.resetKind_eq sound sound', h.frame]
  rw [run_resetOutcomes notAdaptive' current', run_resetOutcomes notAdaptive current, hreset]

/-! ### Response processing -/

theorem run_requireInteracting (call : CallKind) (interacting : s.state = .interacting) :
    (requireInteracting call).run s = (.ok (), s) := by
  rw [requireInteracting, run_bind_of_run_eq_ok (run_get s), if_neg (not_not_intro interacting)]
  rfl

/-- Two validated sessions on which `resetOutcomes` ends alike are processed alike. -/
theorem run_process_congr (interacting : s.state = .interacting) (validated : s.stage = .validated)
    (interacting' : s'.state = .interacting) (validated' : s'.stage = .validated)
    (h : resetOutcomes.run s' = resetOutcomes.run s) :
    (serve .process).run s' = (serve .process).run s := by
  rw [serve, ← bind_pure_comp]
  refine run_bind_congr ?_ _
  rw [process, run_bind_of_run_eq_ok (run_requireInteracting _ interacting'),
    run_bind_of_run_eq_ok (run_requireInteracting _ interacting),
    run_bind_of_run_eq_ok (run_get s'), run_bind_of_run_eq_ok (run_get s),
    if_neg (not_not_intro validated'), if_neg (not_not_intro validated)]
  exact run_bind_congr h _

/-- Take two validated sessions of an item that is not `adaptive`, which agree but for the scores of
earlier attempts.  Then `process` gives the same report or fails with the same error, and leaves the
same session, scores and draws included. -/
theorem process_eq_of_agreeButScores (sound : s.Sound) (sound' : s'.Sound)
    (agree : s.AgreeButScores s') (notAdaptive : s.item.adaptive = false)
    (interacting : s.state = .interacting) (validated : s.stage = .validated) :
    (serve .process).run s' = (serve .process).run s := by
  have interacting' : s'.state = .interacting := by
    rw [agree.frame]
    exact interacting
  have validated' : s'.stage = .validated := by
    rw [agree.frame]
    exact validated
  exact run_process_congr interacting validated interacting' validated'
    (agree.run_resetOutcomes_eq sound sound' notAdaptive)

/-- An item whose only rule adds one to `SCORE`. -/
def addingItem : Item where
  identifier := "adding"
  title := ""
  adaptive := false
  declarations := builtIns ++ [scoreDeclaration]
  layout :=
    ⟨⟨#[⟨⟨.leaf (.valueOf "SCORE"), []⟩, some 2⟩, ⟨⟨.leaf (.baseValue (.integer 1)), []⟩, some 2⟩,
        ⟨⟨.operator .sum, [0, 1]⟩, none⟩]⟩,
      ⟨#[⟨.assign .outcomeValue "SCORE" 2, none⟩]⟩⟩
  templateRules := []
  responseRules := [0]

/-- A session of `addingItem` before its first attempt is processed. -/
def addingSession : Session :=
  let started := ((serve .start).run (new addingItem { maxAttempts := 2 } 1)).2
  ((serve .validate).run ((serve (.bind .empty)).run started).2).2

/-- The session `addingSession` with the value 9 in `SCORE`. -/
def scoredSession : Session :=
  { addingSession with store := addingSession.store.put .value "SCORE" (.integer 9) }

theorem process_scoredSession :
    ((addingSession.value? "SCORE").bind Value.single?).bind Scalar.integer? = some 0 ∧
      ((scoredSession.value? "SCORE").bind Value.single?).bind Scalar.integer? = some 9 ∧
      (serve .process).run scoredSession = (serve .process).run addingSession ∧
      ((((serve .process).run addingSession).2.value? "SCORE").bind Value.single?).bind
        Scalar.integer? = some 1 := by
  have declared : declareAll [scoreDeclaration] = .ok addingItem.declarations := rfl
  have trace : (new addingItem { maxAttempts := 2 } 1).Trace _ addingSession :=
    ((Trace.nil.call .start).call (.bind .empty)).call .validate
  obtain ⟨sound, hitem, -⟩ := trace.sound (sound_new (declared_of_declareAll declared) _ _)
  have sound' : scoredSession.Sound :=
    ⟨sound.declared, (Store.declarations_put _ _ _ _).trans sound.declarations_eq⟩
  have score : addingSession.item.declaration? "SCORE" = some scoreDeclaration := by
    rw [hitem]
    rfl
  have agree : addingSession.AgreeButScores scoredSession :=
    agreeButScores_put score rfl (by decide) (.integer 9)
  have notAdaptive : addingSession.item.adaptive = false := by
    rw [hitem]
    rfl
  refine ⟨by decide +kernel, by decide +kernel, ?_, by decide +kernel⟩
  exact process_eq_of_agreeButScores sound sound' agree notAdaptive (by decide +kernel)
    (by decide +kernel)

end Session

end AssessmentItem
