import AssessmentItem.Proofs.Session.Calls

/-!
# Traces of a session

A trace is a sequence of calls on a session, each with its result, whether it succeeds or fails.
Every state of a session is reached by a trace from a session that is new, so what holds of a new
session and is kept by every call holds of every state.

## Main definitions

* `Session.Event`, `Session.Trace` : calls with their results, and sequences of them.
* `Session.processings` : the number of calls that process responses.

## Main results

* `Session.Trace.induction` : what every call keeps holds at the end of every trace.
* `Session.Trace.sound` : the states of an item's sessions are sound.
-/

namespace AssessmentItem.Session

/-- A call with its result, as `serve` gives it. -/
abbrev Event := Request × Except SessionError Answer

/-- The session that calls lead to from `s₀`, with the events, of which the last one comes first. -/
inductive Trace (s₀ : Session) : List Event → Session → Prop
  | nil : Trace s₀ [] s₀
  | call {events : List Event} {s : Session} (before : Trace s₀ events s) (request : Request) :
      Trace s₀ ((request, ((serve request).run s).1) :: events) ((serve request).run s).2

/-- The number of calls `process` among the events. -/
def processings : List Event → Nat
  | [] => 0
  | (.process, _) :: events => processings events + 1
  | _ :: events => processings events

theorem processings_le_cons (event : Event) (events : List Event) :
    processings events ≤ processings (event :: events) := by
  obtain ⟨request, result⟩ := event
  cases request <;> simp [processings]

theorem sound_new {item : Item} (declared : Declared item.declarations)
    (settings : DeliverySettings) (seed : UInt64) : (new item settings seed).Sound :=
  ⟨declared, Store.declarations_ofItem item⟩

namespace Trace

variable {s₀ s : Session} {events : List Event}

/-- What holds of `s₀` and is kept by every `Step`, holds at the end of every trace.  On the way the
session is `Sound`, and its `item` and its `settings` stay. -/
theorem induction {P : List Event → Session → Prop} (trace : s₀.Trace events s)
    (sound : s₀.Sound) (start : P [] s₀)
    (step : ∀ {events s request result s'}, s₀.Trace events s → s.Sound → s.item = s₀.item →
      s.settings = s₀.settings → P events s → s.Step request result s' →
      P ((request, result) :: events) s') :
    P events s := by
  suffices hall : s.Sound ∧ s.item = s₀.item ∧ s.settings = s₀.settings ∧ P events s from
    hall.2.2.2
  induction trace with
  | nil => exact ⟨sound, rfl, rfl, start⟩
  | call before request ih =>
    obtain ⟨hsound, hitem, hsettings, hP⟩ := ih
    have hstep := step_serve hsound request
    exact ⟨hstep.sound hsound, hstep.item_eq.trans hitem, hstep.settings_eq.trans hsettings,
      step before hsound hitem hsettings hP hstep⟩

theorem sound (trace : s₀.Trace events s) (sound : s₀.Sound) :
    s.Sound ∧ s.item = s₀.item ∧ s.settings = s₀.settings :=
  trace.induction (P := fun _ s ↦ s.Sound ∧ s.item = s₀.item ∧ s.settings = s₀.settings) sound
    ⟨sound, rfl, rfl⟩ fun _ hsound hitem hsettings _ hstep ↦
      ⟨hstep.sound hsound, hstep.item_eq.trans hitem, hstep.settings_eq.trans hsettings⟩

end Trace

end AssessmentItem.Session
