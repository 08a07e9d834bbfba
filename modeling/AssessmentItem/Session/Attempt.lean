import AssessmentItem.Session.Snapshot

/-!
# Attempts

An attempt binds, validates and processes a submission.  It stops at responses that are bad or not
valid, which are the candidate's to mend.

## Main definitions

* `Attempt` : the result of an attempt.
* `Session.submit` : an attempt on a session.
* `runAttempt` : a single attempt on a new session.
-/

namespace AssessmentItem

/-- The result of an attempt: `bad` are the identifiers that could not be bound, `invalid` those
whose value is not valid. -/
structure Attempt where
  bad : List String
  invalid : List String
  /-- What was assigned; there is none where `bad` or `invalid` responses have stopped the
  attempt. -/
  report : Option Report
  snapshot : Session.Snapshot

/-- The result of an attempt as an object, with the snapshot after it. -/
def Attempt.toJson (a : Attempt) : Json :=
  .fields [("badResponseIdentifiers", .ofStrings a.bad),
    ("invalidResponseIdentifiers", .ofStrings a.invalid),
    ("processing", (a.report.map Report.toJson).getD .null),
    ("session", a.snapshot.toJson)]

/-- Binds, validates and processes a submission, up to the first step that finds a response `bad` or
`invalid`. -/
def Session.submit (submission : Submission) : Session.Call Attempt := do
  let bad ← Session.bind submission
  if !bad.isEmpty then return ⟨bad, [], none, (← get).snapshot⟩
  let invalid ← Session.validate
  if !invalid.isEmpty then return ⟨[], invalid, none, (← get).snapshot⟩
  let report ← Session.process
  return ⟨[], [], some report, (← get).snapshot⟩

/-- A single attempt on a new session of `item`, by `openSession` and `Session.submit`. -/
def runAttempt (item : Item) (submission : Submission) (settings : DeliverySettings)
    (seed : UInt64) : Except SessionError Attempt := do
  let session ← openSession item settings seed
  ((Session.submit submission).run session).1

end AssessmentItem
