import AssessmentItem.Session.Basic

/-!
# Snapshots of sessions

A snapshot is what is shown of a session: its state, its counters, the permissions of the
candidate and the values of all variables.

## Main definitions

* `Session.Snapshot`, `Session.snapshot` : snapshots.
-/

namespace AssessmentItem.Session

/-- What is shown of a session: its counters, its permissions and the values of all variables. -/
structure Snapshot where
  item : String
  state : SessionState
  attemptCount : Nat
  completedAttempts : Nat
  solutionRequested : Bool
  permissions : Permissions
  values : FieldMap Value

/-- The snapshot of the session `s`. -/
def snapshot (s : Session) : Snapshot where
  item := s.item.identifier
  state := s.state
  attemptCount := s.attemptCount
  completedAttempts := s.completedAttempts
  solutionRequested := s.solutionRequested
  permissions := s.permissions
  values := .ofList (s.store.slots.map fun slot ↦ (slot.declaration.identifier, slot.value))

/-- A snapshot as an object, with the values under `values`. -/
def Snapshot.toJson (s : Snapshot) : Json :=
  .fields [("item", .string s.item), ("state", .string s.state.name),
    ("attemptCount", .ofNat s.attemptCount), ("completedAttempts", .ofNat s.completedAttempts),
    ("solutionRequested", .bool s.solutionRequested), ("permissions", s.permissions.toJson),
    ("values", .ofMap (s.values.map Value.toJson))]

end AssessmentItem.Session
