import AssessmentItem.Area
import AssessmentItem.Unicode.LowerCase
import AssessmentItem.Value.Basic

/-!
# Variable declarations

The variables of an item are declared with their type, their default and what their kind brings
with it: a response has its correct value, the tables that score it and constraints; an outcome
has its normal range and a table that turns a number into its value.

## Main definitions

* `ScoreTable` : a table of scores with its bounds; `Mapping` and `AreaMapping` are the two kinds.
* `LookupTable` : a table from numbers to values.
* `VariableDeclaration` : the declaration of a variable.
* `VariableDeclaration.initialValue` : the value of a variable before anything is assigned.
-/

namespace AssessmentItem

/-- What a variable is for.  Templates are set before the candidate answers, responses by the
candidate, outcomes by the rules. -/
inductive VariableKind
  | template
  | response
  | outcome
  deriving DecidableEq

namespace VariableKind

/-- All kinds, in the order of the constructors of `VariableKind`. -/
def all : List VariableKind := [template, response, outcome]

/-- The spelling of a kind in documents and messages, such as `outcome`. -/
def name : VariableKind → String
  | template => "template"
  | response => "response"
  | outcome => "outcome"

/-- The kind whose `name` is `s`. -/
def ofName? (s : String) : Option VariableKind := all.find? fun k ↦ k.name == s

end VariableKind

/-! ### Scores of responses -/

/-- A table of scores: its `entries`, the `defaultScore` where no entry fits, and the bounds of the
total. -/
structure ScoreTable (α : Type) where
  entries : List α
  defaultScore : Float
  lowerBound : Option Float
  upperBound : Option Float

namespace ScoreTable

/-- The greater of `x` and `y`, of equal ones the second; NaN gives way to a number. -/
def greater (x y : Float) : Float := if x.isNaN || x ≤ y then y else x

/-- The smaller of `x` and `y`, of equal ones the second; NaN gives way to a number. -/
def smaller (x y : Float) : Float := if x.isNaN || y ≤ x then y else x

/-- The `total` within `lowerBound` and `upperBound`; the upper one decides last. -/
def clamp {α : Type} (table : ScoreTable α) (total : Float) : Float :=
  let raised := (table.lowerBound.map (greater total)).getD total
  (table.upperBound.map (smaller raised)).getD raised

end ScoreTable

/-- The score of a response value, whose `key` is a scalar or the text of one. -/
structure MapEntry (κ : Type) where
  key : κ
  score : Float
  /-- Whether strings have to agree in case. -/
  caseSensitive : Bool

/-- The score of the points in an `area`. -/
structure AreaEntry where
  area : Area
  score : Float

/-- A table from response values to scores. -/
abbrev Mapping := ScoreTable (MapEntry Scalar)

/-- A table from areas to scores. -/
abbrev AreaMapping := ScoreTable AreaEntry

/-- Whether an entry is for `s`: strings are compared by `caseSensitive`, all other scalars by
`==`. -/
def MapEntry.fits (entry : MapEntry Scalar) (s : Scalar) : Bool :=
  match entry.key, s with
  | .string key, .string text =>
    if entry.caseSensitive then key == text
    else Unicode.lowerCase key == Unicode.lowerCase text
  | key, s => key == s

/-- The score of the first entry that `fits` the value. -/
def ScoreTable.score? (mapping : Mapping) (s : Scalar) : Option Float :=
  (mapping.entries.find? fun e ↦ e.fits s).map (·.score)

/-- The score of a value, the `defaultScore` if no entry fits. -/
def ScoreTable.score (mapping : Mapping) (s : Scalar) : Float :=
  (mapping.score? s).getD mapping.defaultScore

/-- What a response has to satisfy to be valid: bounds on the number of its members and a
pattern. -/
structure ResponseConstraints where
  minValues : UInt64
  maxValues : Option UInt64
  /-- A pattern that has to match every text of the response as a whole (`maskAccepts`). -/
  patternMask : Option String
  deriving DecidableEq

/-- The constraints that every response satisfies: no `minValues`, no `maxValues`, no
`patternMask`. -/
def ResponseConstraints.unlimited : ResponseConstraints := ⟨0, none, none⟩

/-! ### Tables of outcomes -/

/-- An entry for the number `source`, whose `target` is a scalar or the text of one. -/
structure MatchEntry (τ : Type) where
  source : Int64
  target : τ

/-- An entry for all numbers from a `boundary` on. -/
structure InterpolationEntry (τ : Type) where
  boundary : Float
  /-- Whether the `boundary` itself belongs to the entry. -/
  includesBoundary : Bool
  target : τ

/-- A table from numbers to scalars, with `default?` where no entry fits. -/
inductive LookupTable
  | exact (entries : List (MatchEntry Scalar)) (default? : Option Scalar)
  | interpolation (entries : List (InterpolationEntry Scalar)) (default? : Option Scalar)

/-- Whether an entry is for `x`.  The `source` is compared as a float, in which integers from `2 ^
53` on may meet. -/
def MatchEntry.fits {τ : Type} (entry : MatchEntry τ) (x : Float) : Bool :=
  Binary64.ofInteger entry.source == x

/-- Whether an entry is for `x`, which lies above its `boundary` or at one that is included. -/
def InterpolationEntry.fits {τ : Type} (entry : InterpolationEntry τ) (x : Float) : Bool :=
  if entry.includesBoundary then entry.boundary ≤ x else entry.boundary < x

/-- The target of the first entry that `fits` the number, else `default?`. -/
def LookupTable.find? (x : Float) : LookupTable → Option Scalar
  | exact entries default? => ((entries.find? fun e ↦ e.fits x).map (·.target)).or default?
  | interpolation entries default? =>
    ((entries.find? fun e ↦ e.fits x).map (·.target)).or default?

/-! ### Declarations -/

/-- What is declared of a `template` variable. -/
structure TemplateDetails where
  isParameter : Bool
  isMath : Bool
  deriving DecidableEq

/-- What is declared of a `response` variable. -/
structure ResponseDetails where
  correct : Value
  mapping : Option Mapping
  areaMapping : Option AreaMapping
  constraints : ResponseConstraints

/-- What is declared of an `outcome` variable. -/
structure OutcomeDetails where
  normalMinimum : Option Float
  normalMaximum : Option Float
  mastery : Option Float
  table : Option LookupTable

/-- What a declaration says for the kind of its variable. -/
inductive VariableDetails
  | template (details : TemplateDetails)
  | response (details : ResponseDetails)
  | outcome (details : OutcomeDetails)

/-- The kind that the details are for, one for each constructor of `VariableDetails`. -/
def VariableDetails.kind : VariableDetails → VariableKind
  | template _ => .template
  | response _ => .response
  | outcome _ => .outcome

/-- The declaration of a variable.  Its `details` depend on the kind, and `default` is `null` if
none is declared. -/
structure VariableDeclaration where
  identifier : String
  cardinality : Cardinality
  /-- Records have no base type. -/
  baseType : Option BaseType
  default : Value
  details : VariableDetails

namespace VariableDeclaration

/-- The kind of a variable, which is that of its `details`. -/
def kind (d : VariableDeclaration) : VariableKind := d.details.kind

/-- The `ResponseDetails` of a response variable. -/
def response? (d : VariableDeclaration) : Option ResponseDetails :=
  match d.details with
  | .response details => some details
  | _ => none

/-- The `OutcomeDetails` of an outcome variable. -/
def outcome? (d : VariableDeclaration) : Option OutcomeDetails :=
  match d.details with
  | .outcome details => some details
  | _ => none

/-- The declared correct value of a response variable; `null` if none is declared. -/
def correct? (d : VariableDeclaration) : Option Value := d.response?.map (·.correct)

/-- The declared `mapping` of a response variable. -/
def mapping? (d : VariableDeclaration) : Option Mapping := d.response?.bind (·.mapping)

/-- The declared `areaMapping` of a response variable. -/
def areaMapping? (d : VariableDeclaration) : Option AreaMapping := d.response?.bind (·.areaMapping)

/-- The declared `table` of an outcome variable. -/
def table? (d : VariableDeclaration) : Option LookupTable := d.outcome?.bind (·.table)

/-- The value before anything is assigned: the `default`, and for a single numeric outcome without
one zero. -/
def initialValue (d : VariableDeclaration) : Value :=
  if d.default.isNull ∧ d.kind = .outcome then
    match d.cardinality, d.baseType with
    | .single, some .integer => .integer 0
    | .single, some .float => .float 0
    | _, _ => .null
  else d.default

end VariableDeclaration

end AssessmentItem
