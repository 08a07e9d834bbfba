import AssessmentItem.Document.Item
import AssessmentItem.Json.Writer
import AssessmentItem.Response.Submission
import AssessmentItem.Session.Attempt
import AssessmentItem.Session.SettingsFile

/-!
# Commands

Two commands work on files: `check` reads an item and checks its references, `run` drives a
session over a list of submissions.  A command is a function of the texts of its files; what it
gives is written by the program.

## Main definitions

* `Command.check`, `Command.run` : the commands.
-/

namespace AssessmentItem.Command

/-- How a command reports: lines of text, or one JSON object. -/
inductive Format
  | text
  | json
  deriving DecidableEq

/-- How a command reports, and whether it keeps quiet. -/
structure Reporting where
  format : Format
  quiet : Bool

/-- A file that a command is to read; `text` is missing if it cannot be read. -/
structure File where
  path : String
  text : Option String

/-- What a command gives: its exit `code` and what it writes. -/
structure Output where
  code : UInt8
  stdout : String
  stderr : String
  deriving DecidableEq

/-- The `lines`, each with its end. -/
def unlines (lines : List String) : String := String.join (lines.map fun line ↦ line ++ "\n")

/-- The output of a command that succeeds: `lines` or `json`, as the `format` says, and nothing if
it keeps quiet. -/
def Reporting.succeed (reporting : Reporting) (lines : List String) (json : Json) : Output :=
  let report :=
    match reporting.format with
    | .text => unlines lines
    | .json => unlines [json.writeIndented]
  ⟨0, if reporting.quiet then "" else report, ""⟩

/-- The output of a command that fails, with exit code `1`; the `message` goes to `stderr`. -/
def Reporting.fail (reporting : Reporting) (message : String) : Output :=
  let message := "error: " ++ message
  let report :=
    match reporting.format with
    | .text => message
    | .json => (Json.fields [("error", .string message)]).write
  ⟨1, "", if reporting.quiet then "" else unlines [report]⟩

/-! ### Items -/

/-- The item of a file, or a message that names the file and says what is wrong with it. -/
def loadItem (file : File) : Except String Item :=
  match file.text with
  | none => .error ("item file not found: " ++ file.path)
  | some text => (Item.ofText text).mapError fun e ↦ file.path ++ ": " ++ e.message

/-- The command `check`: reads an item and checks its references by `Item.checkReferences`. -/
def check (reporting : Reporting) (file : File) : Output :=
  match loadItem file with
  | .error message => reporting.fail message
  | .ok item =>
    match item.checkReferences with
    | .error e => reporting.fail (file.path ++ ": " ++ e.message)
    | .ok () =>
      let declarations := item.declarations.length
      let expressions := item.layout.expressions.size
      let rules := item.layout.rules.size
      reporting.succeed
        ["ok: item '" ++ item.identifier ++ "' (" ++ toString declarations ++ " declarations, " ++
          toString expressions ++ " expressions, " ++ toString rules ++ " rules)"]
        (.fields [("item", .string item.identifier), ("valid", .bool true),
          ("declarations", .ofNat declarations), ("expressions", .ofNat expressions),
          ("rules", .ofNat rules), ("adaptive", .bool item.adaptive)])

/-! ### Submissions -/

/-- A submission with the seconds that the candidate has taken for it, `0` if it does not say. -/
structure TimedSubmission where
  submission : Submission
  elapsed : Float

/-- What is submitted for a variable: a text, a list of texts or a file, by the form of `v`. -/
def readData? (v : Json) : Option ResponseData :=
  (v.asText?.map fun text ↦ .texts [text]).or (ResponseData.ofJson? v)

/-- A submission with its time under `responses` and `elapsedSeconds`. -/
def readTimed? (v : Json) : Option TimedSubmission := do
  let names := ["responses", "elapsedSeconds"]
  let fields ← v.asFields? names
  if !fields.all fun e ↦ names.contains e.1 then none
  some ⟨← Json.required? fields "responses" (Json.asMap? readData?),
    ← Json.defaulted? fields "elapsedSeconds" 0 Json.asNumber?⟩

/-- A submission with its time (`readTimed?`), or a plain one, which is the map of responses
itself. -/
def readSubmission? (v : Json) : Option TimedSubmission :=
  (readTimed? v).or ((Json.asMap? readData? v).map fun submission ↦ ⟨submission, 0⟩)

/-- The submissions of a file, an array of what `readSubmission?` reads. -/
def loadSubmissions (file : File) : Except String (List TimedSubmission) :=
  match file.text with
  | none => .error ("responses file not found: " ++ file.path)
  | some text =>
    match (Json.readRaw? text).bind (Json.asList? readSubmission?) with
    | some submissions => .ok submissions
    | none => .error "invalid submissions:"

/-- The settings of a file, the default ones if no `file` is given. -/
def loadSettings (file : Option File) : Except String DeliverySettings :=
  match file with
  | none => .ok {}
  | some file =>
    match file.text with
    | none => .error ("delivery settings not found: " ++ file.path)
    | some text =>
      match DeliverySettings.ofFile? text with
      | some settings => .ok settings
      | none => .error ("invalid delivery settings " ++ file.path ++ ":")

/-! ### Runs -/

/-- What the command `run` is to do. -/
structure RunOptions where
  item : File
  responses : File
  delivery : Option File
  seed : UInt64
  /-- Takes the place of `DeliverySettings.maxAttempts`. -/
  maxAttempts : Option UInt32

/-- Notes the time of a submission, unless it is none or negative; `label` names the submission. -/
def noteElapsed (label : String) (session : Session) (elapsed : Float) : Except String Session :=
  if elapsed > 0 then
    match TimeSpan.ofSeconds? elapsed with
    | none =>
      .error (label ++ "invalid elapsedSeconds: cannot convert float seconds to Duration: " ++
        "value is either too big or NaN")
    | some span =>
      match (Session.recordElapsed span).run session with
      | (.ok (), session) => .ok session
      | (.error e, _) => .error e.message
  else .ok session

/-- The attempts of submissions, the first of which has the number `n`, up to the end of the
session. -/
def submitAll (n : Nat) (session : Session) :
    List TimedSubmission → Except String (List Attempt × Session)
  | [] => .ok ([], session)
  | s :: rest =>
    if session.state = .closed then .ok ([], session)
    else do
      let label := "submission " ++ toString n ++ ": "
      let session ← noteElapsed label session s.elapsed
      match (Session.submit s.submission).run session with
      | (.error e, _) => throw (label ++ e.message)
      | (.ok attempt, session) => do
        let (attempts, session) ← submitAll (n + 1) session rest
        return (attempt :: attempts, session)

/-- The line of the attempt with the number `n`. -/
def attemptLine (n : Nat) (a : Attempt) : String :=
  let label := "submission " ++ toString n ++ ": "
  if !a.bad.isEmpty then label ++ "bad responses: " ++ String.intercalate ", " a.bad
  else if !a.invalid.isEmpty then
    label ++ "invalid responses: " ++ String.intercalate ", " a.invalid
  else label ++ ((a.report.map fun r ↦ r.outcome.name).getD "")

/-- The lines of a run: an `attemptLine` for each attempt, the values of the outcomes, and the state
of the session. -/
def runLines (attempts : List Attempt) (session : Session) : List String :=
  (attempts.zipIdx 1).map (fun e ↦ attemptLine e.2 e.1) ++
    (session.item.declarationsOf .outcome).filterMap (fun d ↦
      (session.value? d.identifier).map fun v ↦ "  " ++ d.identifier ++ " = " ++ v.text) ++
    ["session " ++ session.state.name ++ " after " ++ toString session.completedAttempts ++
      " completed attempt(s)"]

/-- The session and the attempts of a run, or the message of what is wrong. -/
def attempts (options : RunOptions) : Except String (List Attempt × Session) := do
  let item ← loadItem options.item
  let submissions ← loadSubmissions options.responses
  let settings ← loadSettings options.delivery
  let settings := { settings with maxAttempts := options.maxAttempts.getD settings.maxAttempts }
  let session ← (openSession item settings options.seed).mapError SessionError.message
  submitAll 1 session submissions

/-- The command `run`: drives a session over the submissions of a file and reports its
`attempts`. -/
def run (reporting : Reporting) (options : RunOptions) : Output :=
  match attempts options with
  | .error message => reporting.fail message
  | .ok (attempts, session) =>
    reporting.succeed (runLines attempts session)
      (.fields [("item", .string session.item.identifier), ("seed", .natural options.seed),
        ("attempts", .array (attempts.map Attempt.toJson)),
        ("session", session.snapshot.toJson)])

end AssessmentItem.Command
