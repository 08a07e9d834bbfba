import AssessmentItem.Json.Decode

/-!
# Delivery settings and permissions

The delivery settings say what a candidate may do while a session is interacting and after it is
closed.  Some actions have no meaning in some states, whatever the settings say.

## Main definitions

* `DeliverySettings` : the settings.
* `blockedReason?` : why an action is not available, if it is not.
* `Permissions` : the available actions and the reasons for the others.
-/

namespace AssessmentItem

/-- The states of a session.  A session begins as `notInitialized`, and `start` makes it
`interacting`. -/
inductive SessionState
  | notInitialized
  | interacting
  | closed
  deriving DecidableEq

namespace SessionState

/-- All states, in the order of the constructors of `SessionState`. -/
def all : List SessionState := [notInitialized, interacting, closed]

/-- The name of a state in messages and snapshots. -/
def name : SessionState → String
  | notInitialized => "notInitialized"
  | interacting => "interacting"
  | closed => "closed"

end SessionState

/-- What a candidate may ask for; the last three have no call of their own. -/
inductive CandidateAction
  | close
  | reset
  | restart
  | solution
  | playback
  | source
  | result
  deriving DecidableEq

namespace CandidateAction

/-- All actions, in the order of the constructors of `CandidateAction`. -/
def all : List CandidateAction :=
  [close, reset, restart, solution, playback, source, result]

/-- The name of an action, such as `reinit` for `restart`. -/
def name : CandidateAction → String
  | close => "close"
  | reset => "reset"
  | restart => "reinit"
  | solution => "solution"
  | playback => "playback"
  | source => "source"
  | result => "result"

/-- The action whose `name` is `s`. -/
def ofName? (s : String) : Option CandidateAction := all.find? fun a ↦ a.name == s

end CandidateAction

/-! ### Settings -/

/-- The settings of a delivery, with the values that hold where one is not given. -/
structure DeliverySettings where
  /-- The number of attempts, zero for any number.  Adaptive items have no limit. -/
  maxAttempts : UInt32 := 1
  allowClose : Bool := true
  allowResetWhenInteracting : Bool := false
  allowResetWhenClosed : Bool := false
  allowRestartWhenInteracting : Bool := false
  allowRestartWhenClosed : Bool := false
  allowSolutionWhenInteracting : Bool := false
  allowSolutionWhenClosed : Bool := false
  allowPlayback : Bool := false
  allowSource : Bool := false
  allowResult : Bool := false
  deriving DecidableEq

namespace DeliverySettings

/-- The names of the settings in files, such as `max_attempts`. -/
def fieldNames : List String :=
  ["max_attempts", "allow_close", "allow_reset_when_interacting", "allow_reset_when_closed",
    "allow_reinit_when_interacting", "allow_reinit_when_closed",
    "allow_solution_when_interacting", "allow_solution_when_closed", "allow_playback",
    "allow_source", "allow_result"]

/-- A natural number below `2 ^ 32`. -/
def asCount? (v : Json) : Option UInt32 := do
  let n ← v.asNatural?
  if n.toNat < 4294967296 then some n.toUInt32 else none

/-- The settings that `fields` give, none of which may be unknown. -/
def ofFields? (fields : List (String × Json)) : Option DeliverySettings := do
  let flag (name : String) (default : Bool) : Option Bool :=
    Json.defaulted? fields name default Json.asBool?
  if !fields.all fun e ↦ fieldNames.contains e.1 then none
  some {
    maxAttempts := ← Json.defaulted? fields "max_attempts" 1 asCount?
    allowClose := ← flag "allow_close" true
    allowResetWhenInteracting := ← flag "allow_reset_when_interacting" false
    allowResetWhenClosed := ← flag "allow_reset_when_closed" false
    allowRestartWhenInteracting := ← flag "allow_reinit_when_interacting" false
    allowRestartWhenClosed := ← flag "allow_reinit_when_closed" false
    allowSolutionWhenInteracting := ← flag "allow_solution_when_interacting" false
    allowSolutionWhenClosed := ← flag "allow_solution_when_closed" false
    allowPlayback := ← flag "allow_playback" false
    allowSource := ← flag "allow_source" false
    allowResult := ← flag "allow_result" false }

/-- The settings of a JSON value, as `ofFields?` reads its fields. -/
def ofJson? (v : Json) : Option DeliverySettings := do
  ofFields? (← v.asFields? fieldNames)

/-- The settings as an object with all `fieldNames`. -/
def toJson (s : DeliverySettings) : Json :=
  .fields [("max_attempts", .natural s.maxAttempts.toUInt64),
    ("allow_close", .bool s.allowClose),
    ("allow_reset_when_interacting", .bool s.allowResetWhenInteracting),
    ("allow_reset_when_closed", .bool s.allowResetWhenClosed),
    ("allow_reinit_when_interacting", .bool s.allowRestartWhenInteracting),
    ("allow_reinit_when_closed", .bool s.allowRestartWhenClosed),
    ("allow_solution_when_interacting", .bool s.allowSolutionWhenInteracting),
    ("allow_solution_when_closed", .bool s.allowSolutionWhenClosed),
    ("allow_playback", .bool s.allowPlayback),
    ("allow_source", .bool s.allowSource),
    ("allow_result", .bool s.allowResult)]

end DeliverySettings

/-! ### Permissions -/

/-- Why an action is not available: by the settings, or by the state. -/
inductive BlockedReason
  /-- The settings do not allow it in this state (`allows?` is `false`). -/
  | disabledByDelivery
  /-- It has no meaning in this state (`allows?` has no answer). -/
  | wrongState (state : SessionState)
  deriving DecidableEq

/-- A reason as an object with its name under `type`. -/
def BlockedReason.toJson : BlockedReason → Json
  | disabledByDelivery => .fields [("type", .string "DisabledByDelivery")]
  | wrongState state => .fields [("type", .string "WrongState"), ("state", .string state.name)]

/-- Whether the settings allow an action in `state`; there is no answer where the action has no
meaning. -/
def DeliverySettings.allows? (s : DeliverySettings) (state : SessionState) :
    CandidateAction → Option Bool
  | .close => if state = .interacting then some s.allowClose else none
  | .reset => byState s.allowResetWhenInteracting s.allowResetWhenClosed
  | .restart => byState s.allowRestartWhenInteracting s.allowRestartWhenClosed
  | .solution => byState s.allowSolutionWhenInteracting s.allowSolutionWhenClosed
  | .playback => byState s.allowPlayback s.allowPlayback
  | .source => some s.allowSource
  | .result => byState s.allowResult s.allowResult
where
  /-- A setting for either state after initialization, `interacting` and `closed`. -/
  byState (whenInteracting whenClosed : Bool) : Option Bool :=
    match state with
    | .notInitialized => none
    | .interacting => some whenInteracting
    | .closed => some whenClosed

/-- Why `action` is not available in `state`, if it is not. -/
def blockedReason? (s : DeliverySettings) (state : SessionState) (action : CandidateAction) :
    Option BlockedReason :=
  match s.allows? state action with
  | some true => none
  | some false => some .disabledByDelivery
  | none => some (.wrongState state)

/-- The actions that are `allowed`, and the others with the reasons. -/
structure Permissions where
  allowed : List CandidateAction
  blocked : List (CandidateAction × BlockedReason)
  deriving DecidableEq

namespace Permissions

/-- The permissions that the settings `s` give in `state`, by `blockedReason?`. -/
def ofSettings (s : DeliverySettings) (state : SessionState) : Permissions where
  allowed := CandidateAction.all.filter fun a ↦ (blockedReason? s state a).isNone
  blocked := CandidateAction.all.filterMap fun a ↦
    (blockedReason? s state a).map fun reason ↦ (a, reason)

/-- Whether `action` is one of those `allowed`. -/
def allows (p : Permissions) (action : CandidateAction) : Bool := p.allowed.contains action

/-- Permissions as an object, with `allowed` and `blocked`. -/
def toJson (p : Permissions) : Json :=
  .fields [("allowed", .ofStrings (p.allowed.map CandidateAction.name)),
    ("blocked", .fields (p.blocked.map fun e ↦ (e.1.name, e.2.toJson)))]

end Permissions

end AssessmentItem
