import AssessmentItem.Item.References
import AssessmentItem.Processing.Basic
import AssessmentItem.Response.Binding
import AssessmentItem.Response.Validation
import AssessmentItem.Session.Permissions
import AssessmentItem.Session.TimeSpan

/-!
# Sessions

A session is one candidate's work on one item.  Template processing prepares it; then every
attempt binds responses, validates them and processes them, until the attempts are used up or the
candidate closes the session.  A call that fails leaves the session as it was, but for the draws
from its generator; only response processing keeps what its rules have assigned.

## Main definitions

* `Session` : sessions.
* `SessionError` : why a call fails.
* `Session.Call` : the calls, such as `Session.start`, `Session.bind`, `Session.validate`
  and `Session.process`.
-/

namespace AssessmentItem

/-- How far the current attempt has come: from `idle` over `bound` to `validated`, or to a
failure. -/
inductive AttemptStage
  | idle
  | bound
  | bindFailed
  | validated
  | validationFailed
  deriving DecidableEq

/-- One candidate's work on one item.  The calls below change it by state. -/
structure Session where
  item : Item
  settings : DeliverySettings
  generator : Generator
  state : SessionState
  stage : AttemptStage
  /-- The number of the current attempt; `completedAttempts` are those that have been processed. -/
  attemptCount : Nat
  completedAttempts : Nat
  solutionRequested : Bool
  store : Store

/-! ### Errors -/

/-- What a call does; `act` are the actions that `DeliverySettings` may forbid. -/
inductive CallKind
  | start
  | bind
  | validate
  | process
  | recordElapsed
  | act (action : CandidateAction)
  deriving DecidableEq

/-- The name of a call in messages, such as `bind responses`. -/
def CallKind.name : CallKind → String
  | start => "initialize"
  | bind => "bind responses"
  | validate => "validate responses"
  | process => "process responses"
  | recordElapsed => "record elapsed time"
  | act action => action.name

/-- Why a call is refused in a state of the session. -/
inductive Refusal
  | alreadyInitialized
  | notInteracting
  | nothingBound
  | badResponses
  | notValidated
  | notAvailable
  deriving DecidableEq

/-- The wording of a `Refusal`. -/
def Refusal.message : Refusal → String
  | alreadyInitialized => "the session is already initialized"
  | notInteracting => "the session is not interacting"
  | nothingBound => "no responses have been bound"
  | badResponses => "the last bind reported bad responses"
  | notValidated => "responses have not been bound and validated"
  | notAvailable => "the action is not available in this state"

/-- Why a call fails: it is refused, not permitted, or the author of the item has made an error. -/
inductive SessionError
  | refused (call : CallKind) (state : SessionState) (refusal : Refusal)
  | notPermitted (action : CandidateAction)
  | authoring (error : AuthoringError)
  | definition (error : DefinitionError)

/-- The wording of an error, with the call and the `SessionState` where it is refused. -/
def SessionError.message : SessionError → String
  | refused call state refusal =>
    "cannot " ++ call.name ++ " while the session is " ++ state.name ++ ": " ++ refusal.message
  | notPermitted action => action.name ++ " is not permitted by the delivery settings"
  | authoring error => error.message
  | definition error => "invalid item definition: " ++ error.message

namespace Session

/-- A call on a session.  The session that it leaves is there also where it fails. -/
abbrev Call (α : Type) := ExceptT SessionError (StateM Session) α

/-! ### What a session holds -/

/-- A session of `item` before it is initialized, with the generator of `seed`. -/
def new (item : Item) (settings : DeliverySettings) (seed : UInt64) : Session where
  item := item
  settings := settings
  generator := .ofSeed seed
  state := .notInitialized
  stage := .idle
  attemptCount := 0
  completedAttempts := 0
  solutionRequested := false
  store := .ofItem item

/-- The current value of the variable `identifier`. -/
def value? (s : Session) (identifier : String) : Option Value := s.store.value? identifier

/-- The `Permissions` of the candidate in the current state. -/
def permissions (s : Session) : Permissions := .ofSettings s.settings s.state

/-- The identifier that `completionStatus` holds. -/
def completionStatus? (s : Session) : Option String :=
  (s.value? BuiltIn.completionStatus.identifier).bind Value.text?

/-- Whether there is no attempt left: an `adaptive` item ends when its `completionStatus` is
`completed`, any other after `maxAttempts`. -/
def isExhausted (s : Session) : Bool :=
  if s.item.adaptive then
    s.completionStatus? == some CompletionStatus.completed.identifier
  else 0 < s.settings.maxAttempts && s.settings.maxAttempts.toNat ≤ s.completedAttempts

/-! ### Parts of calls -/

/-- Refuses `call` for the given reason. -/
def refuse {α : Type} (call : CallKind) (refusal : Refusal) : Call α := do
  throw (.refused call (← get).state refusal)

/-- Refuses `call` unless the session is `interacting`. -/
def requireInteracting (call : CallKind) : Call Unit := do
  if (← get).state ≠ .interacting then refuse call .notInteracting

/-- Refuses `action` if `blockedReason?` has a reason: the call is refused or not permitted. -/
def ensure (action : CandidateAction) : Call Unit := do
  let s ← get
  match blockedReason? s.settings s.state action with
  | none => pure ()
  | some .disabledByDelivery => throw (.notPermitted action)
  | some (.wrongState _) => refuse (.act action) .notAvailable

/-- Writes the value of a built-in variable; that it is not of its type is an error of the
author. -/
def writeBuiltIn (builtIn : BuiltIn) (v : Value) : Call Unit := do
  let s ← get
  match s.store.write .value builtIn.identifier v with
  | .ok store => set { s with store }
  | .error fault => throw (.authoring (.rule "session" builtIn.identifier (.assignment fault)))

/-! ### Initialization -/

/-- The greatest number of times that template processing runs for one `freshStore`. -/
def maxTemplateTries : Nat := 100

/-- The store with its responses and outcomes at their defaults, by `resetKind`. -/
def settleDefaults (store : Store) : Store := (store.resetKind .response).resetKind .outcome

/-- The store after template processing, which is run again on a fresh store while a constraint
fails, at most `tries` more times; then the store of the last try is kept.  The draws go on from
try to try. -/
def prepare (item : Item) : Nat → Generator → Except AuthoringError Store × Generator
  | 0, generator =>
    let (result, run) := execute item (item.ruleTrees .template) (.ofItem item) generator
    (result.map fun _ ↦ settleDefaults run.store, run.generator)
  | tries + 1, generator =>
    match execute item (item.ruleTrees .template) (.ofItem item) generator with
    | (.ok .constraintFailed, run) => prepare item tries run.generator
    | (result, run) => (result.map fun _ ↦ settleDefaults run.store, run.generator)

/-- A store prepared by template processing, with the draws taken from the session. -/
def freshStore : Call Store := do
  let s ← get
  let (result, generator) := prepare s.item (maxTemplateTries - 1) s.generator
  set { s with generator }
  match result with
  | .ok store => return store
  | .error error => throw (.authoring error)

/-- The session at the start of its first attempt, on `store`, with all counters put back. -/
def started (s : Session) (store : Store) : Session :=
  { s with
    store
    state := .interacting
    stage := .idle
    attemptCount := 1
    completedAttempts := 0
    solutionRequested := false }

/-- Initializes the session: runs template processing and starts the first attempt. -/
def start : Call Unit := do
  if (← get).state ≠ .notInitialized then refuse .start .alreadyInitialized
  let store ← freshStore
  modify fun s ↦ s.started store

/-! ### Attempts -/

/-- Writes values to a store in their order, and gives the identifiers that could not be written. -/
def writeAll (store : Store) : List (String × Value) → Store × List String
  | [] => (store, [])
  | (identifier, v) :: rest =>
    match store.write .value identifier v with
    | .ok store => writeAll store rest
    | .error _ =>
      let (store, failed) := writeAll store rest
      (store, identifier :: failed)

/-- Binds the responses of `submission`, and gives the bad identifiers in increasing order. -/
def bind (submission : Submission) : Call (List String) := do
  requireInteracting .bind
  let s ← get
  let (values, bad) := s.item.bindResponses submission
  let (store, failed) := writeAll s.store values.entries
  let bad := (bad ++ failed).mergeSort fun a b ↦ a ≤ b
  set { s with store, stage := if bad.isEmpty then .bound else .bindFailed }
  return bad

/-- Validates the bound responses by `validateResponses`, and gives the identifiers of those that
are not valid. -/
def validate : Call (List String) := do
  requireInteracting .validate
  let s ← get
  match s.stage with
  | .idle => refuse .validate .nothingBound
  | .bindFailed => refuse .validate .badResponses
  | .bound | .validated | .validationFailed =>
    match validateResponses s.item s.store with
    | .error error => throw (.authoring (.evaluation error))
    | .ok invalid =>
      set { s with stage := if invalid.isEmpty then .validated else .validationFailed }
      return invalid

/-- Puts the outcomes back to their defaults, unless the item is `adaptive`; the value of
`completionStatus` stays. -/
def resetOutcomes : Call Unit := do
  let s ← get
  if !s.item.adaptive then
    set { s with store := s.store.resetKind .outcome }
    match s.value? BuiltIn.completionStatus.identifier with
    | some status => writeBuiltIn .completionStatus status
    | none => pure ()

/-- Runs the rules of response processing; their effects on the store stay where one of them
fails. -/
def runResponseRules : Call (Except AuthoringError Report) := do
  let s ← get
  let (result, run) := execute s.item (s.item.ruleTrees .response) s.store s.generator
  set { s with store := run.store, generator := run.generator }
  return result.map fun outcome ↦ ⟨outcome, run.assignments⟩

/-- Writes `unknown` over `not_attempted`, unless the report notes something for
`completionStatus`. -/
def noteAttempted (report : Report) : Call Unit := do
  let status := (← get).completionStatus?
  if (report.lastValue? BuiltIn.completionStatus.identifier).isNone ∧
      status = some CompletionStatus.notAttempted.identifier then
    writeBuiltIn .completionStatus CompletionStatus.unknown.value

/-- The session after an attempt is completed: the next attempt begins, or the session is
`closed`. -/
def attemptCompleted (s : Session) : Session :=
  let s := { s with completedAttempts := s.completedAttempts + 1, stage := .idle }
  if s.isExhausted then { s with state := .closed }
  else { s with attemptCount := s.completedAttempts + 1 }

/-- Processes the responses and completes the attempt.  Where a rule fails the attempt does not
count and `numAttempts` is put back. -/
def process : Call Report := do
  requireInteracting .process
  if (← get).stage ≠ .validated then refuse .process .notValidated
  resetOutcomes
  let s ← get
  let previous := (s.value? BuiltIn.numAttempts.identifier).getD .null
  writeBuiltIn .numAttempts (.integer (Int64.ofNat (s.completedAttempts + 1)))
  match ← runResponseRules with
  | .error error =>
    writeBuiltIn .numAttempts previous
    throw (.authoring error)
  | .ok report =>
    noteAttempted report
    modify attemptCompleted
    return report

/-! ### Actions -/

/-- Closes the session, if `close` is not blocked. -/
def close : Call Unit := do
  ensure .close
  modify fun s ↦ { s with state := .closed, stage := .idle }

/-- Puts responses and outcomes back to their defaults and starts the first attempt; the template
values stay, and template processing does not run. -/
def reset : Call Unit := do
  ensure .reset
  modify fun s ↦ s.started (settleDefaults s.store)

/-- Runs template processing again and starts the first attempt, as `start` does. -/
def restart : Call Unit := do
  ensure .restart
  let store ← freshStore
  modify fun s ↦ s.started store

/-- The correct values in force of the responses; `solutionRequested` notes that they were asked
for. -/
def requestSolution : Call (FieldMap Value) := do
  ensure .solution
  modify fun s ↦ { s with solutionRequested := true }
  let s ← get
  return .ofList ((s.item.declarationsOf .response).filterMap fun d ↦
    (s.store.correct? d.identifier).map fun v ↦ (d.identifier, v))

/-- Adds `elapsed` to the seconds that `duration` holds. -/
def recordElapsed (elapsed : TimeSpan) : Call Unit := do
  requireInteracting .recordElapsed
  let spent := (((← get).value? BuiltIn.duration.identifier).bind Value.single?).bind
    Scalar.number?
  writeBuiltIn .duration (.float (spent.getD 0 + elapsed.seconds))

end Session

/-- A session of an item that `checkReferences` accepts, initialized by `start`; or why there is
none. -/
def openSession (item : Item) (settings : DeliverySettings) (seed : UInt64) :
    Except SessionError Session := do
  item.checkReferences.mapError .definition
  let (result, session) := (Session.start.run).run (Session.new item settings seed)
  result
  return session

end AssessmentItem
