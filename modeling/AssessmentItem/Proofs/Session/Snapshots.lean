import AssessmentItem.Proofs.References.Rules
import AssessmentItem.Proofs.Session.Traces
import AssessmentItem.Proofs.Value.Rendering
import AssessmentItem.Session.Snapshot

/-!
# What a snapshot tells

The snapshot of a session is rendered with the values of all variables, each under its identifier.
Since the rendering of a value determines the value, sessions whose snapshots are rendered alike
have the same values, up to NaN and the sign of a zero.

## Main results

* `Session.Snapshot.rel_of_same` : the values in snapshots that are rendered alike.
* `Session.find?_values_snapshot` : a snapshot has the value of every variable.
* `Session.renderingLaws` : what renderings of values and of snapshots determine.
-/

namespace AssessmentItem.Session

variable {s s' : Session}

/-- Snapshots that are rendered alike have the same variables with `Identical` values. -/
theorem Snapshot.rel_of_same {t t' : Snapshot} (h : Json.same t.toJson t'.toJson) :
    FieldMap.Rel Value.Identical t.values t'.values := by
  have distinct : ["item", "state", "attemptCount", "completedAttempts", "solutionRequested",
      "permissions", "values"].Nodup := by decide
  have hfield := Json.same_field? h "values"
  rw [toJson, toJson, Json.field?_fields distinct rfl, Json.field?_fields distinct rfl] at hfield
  cases hfield with
  | some hvalues =>
    have hrel := FieldMap.rel_map_iff.1 (Json.same_ofMap_iff.1 hvalues)
    simpa only [Value.same_toJson_iff] using hrel

/-- The snapshot of a session has the value of every variable under its identifier. -/
theorem find?_values_snapshot (sound : s.Sound) (name : String) :
    s.snapshot.values.find? name = s.value? name := by
  have distinct : ((s.store.slots.map fun slot ↦
      (slot.declaration.identifier, slot.value)).map (·.1)).Nodup := by
    have hnodup := sound.declarations_eq ▸ sound.declared.nodup
    rw [Store.declarations, List.map_map] at hnodup
    rwa [List.map_map]
  rw [snapshot, FieldMap.find?_ofList distinct, List.find?_map, Option.map_map]
  rfl

/-- What the renderings `Value.toJson` and `Snapshot.toJson` determine. -/
structure RenderingLaws : Prop where
  /-- The rendering of a value loses which NaN a number is and the sign of a zero alone. -/
  same_value_iff : ∀ v w : Value, Json.same v.toJson w.toJson ↔ v.Identical w
  same_snapshot : ∀ {t t' : Snapshot}, Json.same t.toJson t'.toJson →
    FieldMap.Rel Value.Identical t.values t'.values
  same_session : ∀ {s s' : Session}, s.Sound → s'.Sound →
    Json.same s.snapshot.toJson s'.snapshot.toJson →
    ∀ name, Option.Rel Value.Identical (s.value? name) (s'.value? name)

theorem renderingLaws : RenderingLaws where
  same_value_iff _ _ := Value.same_toJson_iff
  same_snapshot := Snapshot.rel_of_same
  same_session sound sound' h name := by
    rw [← find?_values_snapshot sound, ← find?_values_snapshot sound']
    exact (Snapshot.rel_of_same h).find? name

/-- A session in whose `duration` the given `seconds` are held. -/
def timedSession (seconds : Float) : Session :=
  { new countingItem {} 1 with
    store := (Store.ofItem countingItem).put .value "duration" (.float seconds) }

theorem sound_timedSession (seconds : Float) : (timedSession seconds).Sound := by
  have declared : declareAll [scoreDeclaration] = .ok countingItem.declarations := rfl
  refine ⟨declared_of_declareAll declared, ?_⟩
  rw [timedSession, Store.declarations_put]
  exact Store.declarations_ofItem _

/-- The two zeros are rendered alike, but a `float` and a `duration` of the same number are not. -/
theorem renderingLaws_zeros :
    (Value.float 0).Identical (.float (-0)) ∧
      ¬(Value.float 0).Identical (.single (.duration 0)) ∧
      ∀ name, Option.Rel Value.Identical ((timedSession 0).value? name)
        ((timedSession (-0)).value? name) := by
  refine ⟨(renderingLaws.same_value_iff _ _).1 (by decide +kernel),
    (renderingLaws.same_value_iff _ _).not.1 (by decide +kernel), ?_⟩
  exact renderingLaws.same_session (sound_timedSession 0) (sound_timedSession (-0))
    (by decide +kernel)

end AssessmentItem.Session
