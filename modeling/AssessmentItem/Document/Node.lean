import AssessmentItem.Document.Decode
import AssessmentItem.Document.Error

/-!
# Reading expressions and rules

Expressions are objects with the name of their operator under `op` and their operands under
`children`; rules are objects with their name under `rule`.  They are read from the top to the
bottom and from left to right, and the first fault is reported with the path of its place.

## Main definitions

* `readExpression` : the expression of a JSON value.
* `readRule`, `readRules` : the rules of JSON values.
-/

namespace AssessmentItem

open Json

/-- The outcome of reading a part of a document; a failure is a `DocumentError`. -/
abbrev Reading (α : Type) := Except DocumentError α

/-! ### Fields -/

/-- The `field` of `node` that has to be a string. -/
def readString (node : Json) (field context : String) : Reading String :=
  match node.field? field with
  | some (.string s) => .ok s
  | some _ => .error (.invalidField context field .notString)
  | none => .error (.missingField context field)

/-- The `field` of `node`, seen through `view`, if it is there. -/
def readOptional {α : Type} (node : Json) (field context : String) (view : Json → Option α) :
    Reading (Option α) :=
  match node.field? field with
  | none => .ok none
  | some v =>
    match view v with
    | some a => .ok (some a)
    | none => .error (.invalidField context field .malformed)

/-- The `field` of `node`, seen through `view`, which has to be there. -/
def readField {α : Type} (node : Json) (field context : String) (view : Json → Option α) :
    Reading α := do
  match ← readOptional node field context view with
  | some a => return a
  | none => throw (.missingField context field)

/-- The `field` of `node`, seen through `view`, or the `default`. -/
def readDefaulted {α : Type} (node : Json) (field context : String) (default : α)
    (view : Json → Option α) : Reading α :=
  return (← readOptional node field context view).getD default

/-! ### Operators -/

/-- A literal integer (`given`) or the name of a variable (`named`). -/
def integerLiteral? (v : Json) : Option (Literal Int64) :=
  (v.asInteger?.map .given).or (v.asText?.map .named)

/-- A literal number (`given`) or the name of a variable (`named`). -/
def numberLiteral? (v : Json) : Option (Literal Float) :=
  (v.asNumber?.map .given).or (v.asText?.map .named)

namespace ToleranceMode

/-- The tolerance mode of a name, such as `absolute`. -/
def ofName? : String → Option ToleranceMode
  | "exact" => some exact
  | "absolute" => some absolute
  | "relative" => some relative
  | _ => none

end ToleranceMode

namespace RoundingMode

/-- The rounding mode of a name, such as `decimalPlaces`. -/
def ofName? : String → Option RoundingMode
  | "significantFigures" => some significantFigures
  | "decimalPlaces" => some decimalPlaces
  | _ => none

end RoundingMode

namespace Statistic

/-- The statistic of a name, such as `sampleSD`. -/
def ofName? : String → Option Statistic
  | "mean" => some mean
  | "sampleVariance" => some sampleVariance
  | "sampleSD" => some sampleDeviation
  | "popVariance" => some populationVariance
  | "popSD" => some populationDeviation
  | _ => none

end Statistic

namespace MathConstant

/-- The constant of a name, `pi` or `e`. -/
def ofName? : String → Option MathConstant
  | "pi" => some pi
  | "e" => some e
  | _ => none

end MathConstant

namespace MathFunction

/-- The function of a name, such as `atan2`. -/
def ofName? : String → Option MathFunction
  | "sin" => some sin
  | "cos" => some cos
  | "tan" => some tan
  | "sec" => some sec
  | "csc" => some csc
  | "cot" => some cot
  | "asin" => some asin
  | "acos" => some acos
  | "atan" => some atan
  | "atan2" => some atan2
  | "asec" => some asec
  | "acsc" => some acsc
  | "acot" => some acot
  | "sinh" => some sinh
  | "cosh" => some cosh
  | "tanh" => some tanh
  | "sech" => some sech
  | "csch" => some csch
  | "coth" => some coth
  | "log" => some log
  | "ln" => some ln
  | "exp" => some exp
  | "abs" => some abs
  | "signum" => some signum
  | "floor" => some floor
  | "ceil" => some ceil
  | "toDegrees" => some toDegrees
  | "toRadians" => some toRadians
  | _ => none

end MathFunction

/-- The leaf called `name` with the fields of `node`, if the name is one of a leaf. -/
def readLeaf? (name : String) (node : Json) (path : String) : Option (Reading Leaf) :=
  let identifier : Reading String := readString node "identifier" path
  match name with
  | "baseValue" => some do
    let baseType ← readField node "baseType" path (asNamed? BaseType.ofName?)
    let text ← readString node "value" path
    match Scalar.read text baseType with
    | .ok s => return .baseValue s
    | .error e => throw (.invalidValue path "value" e)
  | "variable" => some (.valueOf <$> identifier)
  | "correct" => some (.correctOf <$> identifier)
  | "default" => some (.defaultOf <$> identifier)
  | "mapResponse" => some (.mapResponse <$> identifier)
  | "mapResponsePoint" => some (.mapResponsePoint <$> identifier)
  | "null" => some (.ok .null)
  | "randomInteger" => some do
    let min ← readDefaulted node "min" path (.given 0) integerLiteral?
    let max ← readField node "max" path integerLiteral?
    let step ← readDefaulted node "step" path (.given 1) integerLiteral?
    return .randomInteger min max step
  | "randomFloat" => some do
    let min ← readDefaulted node "min" path (.given 0) numberLiteral?
    let max ← readField node "max" path numberLiteral?
    return .randomFloat min max
  | "mathConstant" => some do
    return .mathConstant (← readField node "name" path (asNamed? MathConstant.ofName?))
  | _ => none

/-- The operator called `name` with the fields of `node`. -/
def readOperator (name : String) (node : Json) (path : String) : Reading Operator :=
  match name with
  | "multiple" => .ok .multiple
  | "ordered" => .ok .ordered
  | "containerSize" => .ok .containerSize
  | "isNull" => .ok .isNull
  | "index" => .index <$> readField node "n" path integerLiteral?
  | "fieldValue" => .fieldValue <$> readString node "fieldIdentifier" path
  | "random" => .ok .random
  | "member" => .ok .member
  | "delete" => .ok .delete
  | "contains" => .ok .contains
  | "repeat" => .repeated <$> readField node "numberRepeats" path integerLiteral?
  | "recordEx" => .record <$> readField node "fields" path (asList? asText?)
  | "not" => .ok .not
  | "and" => .ok .and
  | "or" => .ok .or
  | "anyN" => do
    let least ← readField node "min" path integerLiteral?
    let most ← readField node "max" path integerLiteral?
    return .anyN least most
  | "match" => .ok .same
  | "substring" => .substring <$> readDefaulted node "caseSensitive" path true asBool?
  | "stringMatch" => do
    let caseSensitive ← readField node "caseSensitive" path asBool?
    let substring ← readDefaulted node "substring" path false asBool?
    return .stringMatch caseSensitive substring
  | "patternMatch" => .patternMatch <$> readString node "pattern" path
  | "equal" => do
    let mode ← readDefaulted node "toleranceMode" path .exact (asNamed? ToleranceMode.ofName?)
    let tolerances ← readDefaulted node "tolerance" path [] (asList? numberLiteral?)
    let includesLower ← readDefaulted node "includeLowerBound" path true asBool?
    let includesUpper ← readDefaulted node "includeUpperBound" path true asBool?
    return .equal mode tolerances includesLower includesUpper
  | "equalRounded" => do
    let mode ← readRoundingMode
    return .equalRounded mode (← readField node "figures" path integerLiteral?)
  | "inside" => .inside <$> readField node "shape" path Area.ofJson?
  | "lt" => .ok .lt
  | "gt" => .ok .gt
  | "lte" => .ok .lte
  | "gte" => .ok .gte
  | "durationLT" => .ok .durationLT
  | "durationGTE" => .ok .durationGTE
  | "sum" => .ok .sum
  | "product" => .ok .product
  | "subtract" => .ok .subtract
  | "divide" => .ok .divide
  | "power" => .ok .power
  | "integerDivide" => .ok .integerDivide
  | "integerModulus" => .ok .integerModulus
  | "truncate" => .ok .truncate
  | "round" => .ok .round
  | "integerToFloat" => .ok .integerToFloat
  | "roundTo" => do
    let mode ← readRoundingMode
    return .roundTo mode (← readField node "figures" path integerLiteral?)
  | "max" => .ok .max
  | "min" => .ok .min
  | "gcd" => .ok .gcd
  | "lcm" => .ok .lcm
  | "statsOperator" => .statistic <$> readField node "name" path (asNamed? Statistic.ofName?)
  | "mathOperator" => .math <$> readField node "name" path (asNamed? MathFunction.ofName?)
  | _ => .error (.unknownOperator path name)
where
  /-- The field `roundingMode` of the node, by default `significantFigures`. -/
  readRoundingMode : Reading RoundingMode :=
    readDefaulted node "roundingMode" path .significantFigures (asNamed? RoundingMode.ofName?)

/-- What a node is, by its name and its fields: a leaf if `readLeaf?` knows the name, else an
operator. -/
def readKind (name : String) (node : Json) (path : String) : Reading ExpressionKind :=
  match readLeaf? name node path with
  | some leaf => .leaf <$> leaf
  | none => .operator <$> readOperator name node path

/-! ### Expressions -/

theorem sizeOf_lookup_lt {fields : List (String × Json)} {name : String} {v : Json}
    (h : (fields.find? fun e ↦ e.1 == name).map (·.2) = some v) : sizeOf v < sizeOf fields := by
  obtain ⟨e, he, rfl⟩ := Option.map_eq_some_iff.1 h
  have hmem := List.sizeOf_lt_of_mem (List.mem_of_find?_eq_some he)
  have hsnd : sizeOf e = 1 + sizeOf e.1 + sizeOf e.2 := by
    cases e
    rfl
  omega

/-- The value of a field is smaller than the node, which is why reading a document ends. -/
theorem sizeOf_field?_lt {node v : Json} {name : String} (h : node.field? name = some v) :
    sizeOf v < sizeOf node := by
  unfold Json.field? at h
  split at h
  · have := sizeOf_lookup_lt h
    simp only [Json.object.sizeOf_spec]
    omega
  · simp at h

theorem one_le_sizeOf (node : Json) : 1 ≤ sizeOf node := by
  cases node <;> simp only [Json.null.sizeOf_spec, Json.bool.sizeOf_spec, Json.natural.sizeOf_spec,
    Json.negative.sizeOf_spec, Json.float.sizeOf_spec, Json.string.sizeOf_spec,
    Json.array.sizeOf_spec, Json.object.sizeOf_spec] <;> omega

theorem measure_below_lt {node : Json} {items : List Json} (h : sizeOf items ≤ sizeOf node) :
    2 * sizeOf items < 2 * sizeOf node + 1 := by
  omega

theorem measure_below_head_lt {item : Json} {below items : List Json}
    (h : sizeOf below ≤ sizeOf item) : 2 * sizeOf below < 2 * sizeOf (item :: items) := by
  simp only [List.cons.sizeOf_spec]
  omega

theorem measure_head_lt (item : Json) (items : List Json) :
    2 * sizeOf item + 1 < 2 * sizeOf (item :: items) := by
  simp only [List.cons.sizeOf_spec]
  omega

theorem measure_tail_lt (item : Json) (items : List Json) :
    2 * sizeOf items < 2 * sizeOf (item :: items) := by
  simp only [List.cons.sizeOf_spec]
  omega

/-- Values below `node`, which take no more room than it. -/
abbrev Below (node : Json) := { items : List Json // sizeOf items ≤ sizeOf node }

/-- The `field` of `node` that has to be an array. -/
def readArray (node : Json) (field context : String) : Reading (Below node) :=
  match h : node.field? field with
  | some (.array items) => .ok ⟨items, by
      have := sizeOf_field?_lt h
      simp only [Json.array.sizeOf_spec] at this
      omega⟩
  | some _ => .error (.invalidField context field .notArray)
  | none => .error (.missingField context field)

/-- The `field` of `node` that has to be an array if it is there. -/
def readOptionalArray (node : Json) (field context : String) : Reading (Below node) :=
  if (node.field? field).isNone then .ok ⟨[], by simpa using one_le_sizeOf node⟩
  else readArray node field context

/-- The path of the item `i` of the list at `path`. -/
def indexed (path : String) (i : Nat) : String := path ++ "[" ++ toString i ++ "]"

mutual

/-- The expression of a JSON value: its `op`, its own fields, and its `children`. -/
def readExpression (node : Json) (path : String) : Reading Expression := do
  let name ← readString node "op" path
  let path := path ++ "/" ++ name
  let kind ← readKind name node path
  let ⟨items, _⟩ ← readOptionalArray node "children" path
  return .node kind (← readExpressions items path 0)
termination_by 2 * sizeOf node + 1
decreasing_by exact measure_below_lt ‹_›

/-- The expressions of JSON values, the first of which has the number `i`. -/
def readExpressions : List Json → String → Nat → Reading (List Expression)
  | [], _, _ => return []
  | item :: items, path, i => do
    let e ← readExpression item (indexed path i)
    let es ← readExpressions items path (i + 1)
    return e :: es
termination_by items => 2 * sizeOf items
decreasing_by
  · exact measure_head_lt ..
  · exact measure_tail_lt ..

end

/-! ### Rules -/

/-- The `field` of `node` that has to be an expression, which is read at `path`. -/
def readExpressionField (node : Json) (field context path : String) : Reading Expression :=
  match node.field? field with
  | some v => readExpression v path
  | none => .error (.missingField context field)

/-- The assignments by their names, such as `setOutcomeValue`. -/
def AssignmentKind.ofName? : String → Option AssignmentKind
  | "setOutcomeValue" => some outcomeValue
  | "setTemplateValue" => some templateValue
  | "setCorrectResponse" => some correctResponse
  | "setDefaultValue" => some defaultValue
  | "lookupOutcomeValue" => some lookup
  | _ => none

/-- The rules that have no rules below them, by their names, such as `exitResponse`. -/
def readSimpleRule? (name : String) (node : Json) (path : String) : Option (Reading RuleSyntax) :=
  match AssignmentKind.ofName? name with
  | some kind => some do
    let identifier ← readString node "identifier" path
    let value ← readExpressionField node "expression" path path
    return .node (.assign kind identifier value)
  | none =>
    match name with
    | "exitResponse" => some (.ok (.node (.exit .response)))
    | "exitTemplate" => some (.ok (.node (.exit .template)))
    | "templateConstraint" => some do
      return .node (.constraint (← readExpressionField node "expression" path path))
    | _ => none

/-- The phase of a condition by its name: `responseCondition` or `templateCondition`. -/
def conditionPhase? : String → Option Phase
  | "responseCondition" => some .response
  | "templateCondition" => some .template
  | _ => none

mutual

/-- The rule of a JSON value, by the name in its field `rule`. -/
def readRule (node : Json) (path : String) : Reading RuleSyntax := do
  let name ← readString node "rule" path
  let here := path ++ "/" ++ name
  match readSimpleRule? name node here with
  | some rule => rule
  | none =>
    if name = "responseProcessingFragment" then
      let ⟨items, _⟩ ← readArray node "rules" here
      return .node (.fragment (← readRules items (here ++ "/rules") 0))
    else
      match conditionPhase? name with
      | none => throw (.unknownRule path name)
      | some phase =>
        let ⟨items, _⟩ ← readArray node "branches" here
        let branches ← readBranches items (here ++ "/branches") 0
        let ⟨items, _⟩ ← readOptionalArray node "otherwise" here
        let otherwise ← readRules items (here ++ "/otherwise") 0
        return .node (.condition phase branches otherwise)
termination_by 2 * sizeOf node + 1
decreasing_by
  · exact measure_below_lt ‹_›
  · exact measure_below_lt ‹_›
  · exact measure_below_lt ‹_›

/-- The rules of JSON values, the first of which has the number `i`. -/
def readRules : List Json → String → Nat → Reading (List RuleSyntax)
  | [], _, _ => return []
  | item :: items, path, i => do
    let rule ← readRule item (indexed path i)
    let rules ← readRules items path (i + 1)
    return rule :: rules
termination_by items => 2 * sizeOf items
decreasing_by
  · exact measure_head_lt ..
  · exact measure_tail_lt ..

/-- The branches of JSON values, the first of which has the number `i`. -/
def readBranches : List Json → String → Nat → Reading (List (Branch Expression RuleSyntax))
  | [], _, _ => return []
  | item :: items, path, i => do
    let here := indexed path i
    let guard ← readExpressionField item "guard" here (here ++ "/guard")
    let ⟨below, _⟩ ← readOptionalArray item "rules" here
    let rules ← readRules below (here ++ "/rules") 0
    let branches ← readBranches items path (i + 1)
    return ⟨guard, rules⟩ :: branches
termination_by items => 2 * sizeOf items
decreasing_by
  · exact measure_below_head_lt ‹_›
  · exact measure_tail_lt ..

end

end AssessmentItem
