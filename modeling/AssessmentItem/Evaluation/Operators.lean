import AssessmentItem.Evaluation.Arithmetic
import AssessmentItem.Evaluation.Comparison
import AssessmentItem.Evaluation.Containers
import AssessmentItem.Evaluation.Scoring
import AssessmentItem.Random.Generator

/-!
# Values of leaves and operators

A leaf has a value of its own; an operator has one for the values of its operands, which are what
its signature demands.  Three nodes draw from the generator; all others leave it as it is.

## Main definitions

* `Drawing` : computations that may draw and may fail.
* `leafValue` : the value of a leaf.
* `checkOperands` : the demands of a signature.
* `operatorValue` : the value of an operator.
-/

namespace AssessmentItem.Evaluation

/-- A computation that may draw from the `Generator` and may fail.  The draws stay made where it
fails. -/
abbrev Drawing (ε α : Type) := ExceptT ε (StateM Generator) α

/-- The result `r`, which takes no draws. -/
def settled {ε α : Type} (r : Except ε α) : Drawing ε α := ExceptT.mk (pure r)

/-- A natural number below `n`. -/
def drawBelow (n : Nat) : Drawing Fault Nat := modifyGet fun g ↦ g.below n

/-- A floating-point number between `min` and `max`, by `Generator.between`; the width has to be
finite. -/
def drawBetween (min max : Float) : Drawing Fault Float := do
  match (← get).between min max with
  | some (x, g) =>
    set g
    return x
  | none => throw .rangeOverflow

/-! ### Leaves -/

/-- What a store holds of a variable, or the fault that it holds nothing. -/
def known {α : Type} (identifier : String) : Option α → Except Fault α
  | some a => .ok a
  | none => .error (.unknownVariable identifier)

/-- The correct value in force of the response `identifier`; NULL if none is declared or set. -/
def correctValue (store : Store) (identifier : String) : Except Fault Value := do
  let d ← known identifier (store.declaration? identifier)
  if d.kind ≠ .response then throw (.noCorrectResponse identifier d.kind)
  return (store.correct? identifier).getD .null

/-- The score of the response `identifier` by its declared `mapping?`. -/
def mappedResponse (store : Store) (identifier : String) : Except Fault Value := do
  let slot ← known identifier (store.slot? identifier)
  match slot.declaration.mapping? with
  | some mapping => scoreResponse mapping slot.value
  | none => throw (.noMapping identifier)

/-- The score of the response `identifier` by its declared `areaMapping?`. -/
def mappedPoints (store : Store) (identifier : String) : Except Fault Value := do
  let slot ← known identifier (store.slot? identifier)
  match slot.declaration.areaMapping? with
  | some mapping => scorePoints mapping identifier slot.value
  | none => throw (.noAreaMapping identifier)

/-- The number of steps of width `step` that fit between `min` and `max`. -/
def rangeSteps (min max step : Int64) : Except Fault Nat := do
  if step < 1 then throw (.step step)
  if max < min then throw (.maxBelowMin max min)
  match Integer.sub? max min with
  | none => throw .wideRange
  | some span => return (span / step).toInt.toNat

/-- The number that stands `k` steps above the least one of a range. -/
def rangeNumber (min step : Int64) (k : Nat) : Int64 := min + Int64.ofNat k * step

/-- A random integer: `min` and a number of steps, each as likely as the others. -/
def randomInteger (store : Store) (min max step : Literal Int64) : Drawing Fault Value := do
  let min ← settled (literalInteger store min)
  let max ← settled (literalInteger store max)
  let step ← settled (literalInteger store step)
  let steps ← settled (rangeSteps min max step)
  let k ← drawBelow (steps + 1)
  return .integer (rangeNumber min step k)

/-- A random floating-point number between `min` and `max`; nothing is drawn where both are the
same. -/
def randomFloat (store : Store) (min max : Literal Float) : Drawing Fault Value := do
  let min ← settled (literalNumber store min)
  let max ← settled (literalNumber store max)
  if !(min.isFinite && max.isFinite) || max < min then throw (.floatRange min max)
  if max == min then return .float min
  return .float (← drawBetween min max)

/-- The value of a leaf.  Only `randomInteger` and `randomFloat` draw. -/
def leafValue (store : Store) : Leaf → Drawing Fault Value
  | .baseValue s => return .single s
  | .null => return .null
  | .valueOf identifier => settled (known identifier (store.value? identifier))
  | .defaultOf identifier => settled (known identifier (store.default? identifier))
  | .correctOf identifier => settled (correctValue store identifier)
  | .mapResponse identifier => settled (mappedResponse store identifier)
  | .mapResponsePoint identifier => settled (mappedPoints store identifier)
  | .mathConstant constant => return .float (constantValue constant)
  | .randomInteger min max step => randomInteger store min max step
  | .randomFloat min max => randomFloat store min max

/-! ### Operators -/

/-- The check of the operand with the number `i`; NULL is of every type. -/
def checkOperand (signature : Signature) (i : Nat) (v : Value) : Except Fault Unit :=
  match v.cardinality? with
  | none => .ok ()
  | some cardinality =>
    if cardinality ∉ signature.cardinalities then
      .error (.cardinality i signature.cardinalities cardinality)
    else
      match v.baseType? with
      | none => .ok ()
      | some t =>
        if signature.baseTypes.accepts t then .ok ()
        else .error (.baseType i signature.baseTypes t)

/-- The check of operands from left to right, the first of which has the number `i`. -/
def checkOperands (signature : Signature) (i : Nat) : List Value → Except Fault Unit
  | [] => .ok ()
  | v :: vs => do
    checkOperand signature i v
    checkOperands signature (i + 1) vs

/-- A container with its members `n` times over; NULL for `n` below one. -/
def repeatMembers (n : Int64) (vs : List Value) : Except Fault Value :=
  if n < 1 then .ok .null else buildContainer .ordered n.toInt.toNat vs

/-- The value of an operator other than `random`.  Where `vs` has another length than the
`signature` demands, it is unreadable. -/
def combine [PatternLibrary] (store : Store) : Operator → List Value → Except Fault Value
  | .multiple, vs => buildContainer .multiple 1 vs
  | .ordered, vs => buildContainer .ordered 1 vs
  | .repeated n, vs => do repeatMembers (← literalInteger store n) vs
  | .record fields, vs => .ok (buildRecord fields vs)
  | .containerSize, [v] => containerSize v
  | .isNull, [v] => .ok (.boolean v.isNull)
  | .index n, [v] => do memberAt (← literalInteger store n) v
  | .fieldValue field, [v] => fieldOf field v
  | .member, [a, b] => memberOf a b
  | .delete, [a, b] => deleteFrom a b
  | .contains, [a, b] => containsPart a b
  | .not, [v] => negate v
  | .and, vs => threeValued false vs
  | .or, vs => threeValued true vs
  | .anyN least most, vs => do
    countTrue (← literalInteger store least) (← literalInteger store most) vs
  | .same, [a, b] => sameValue a b
  | .substring caseSensitive, [a, b] => substringOf caseSensitive a b
  | .stringMatch caseSensitive substring, [a, b] => matchStrings caseSensitive substring a b
  | .patternMatch pattern, [v] => matchPattern pattern v
  | .equal mode tolerances includesLower includesUpper, [a, b] =>
    equalNumbers store mode tolerances includesLower includesUpper a b
  | .equalRounded mode figures, [a, b] => do
    equalRoundedNumbers mode (← literalInteger store figures) a b
  | .inside area, [v] => anyInside area v
  | .lt, [a, b] => compareNumbers Ordering.isLT a b
  | .gt, [a, b] => compareNumbers Ordering.isGT a b
  | .lte, [a, b] => compareNumbers Ordering.isLE a b
  | .gte, [a, b] => compareNumbers Ordering.isGE a b
  | .durationLT, [a, b] => compareDurations Ordering.isLT a b
  | .durationGTE, [a, b] => compareDurations Ordering.isGE a b
  | .sum, vs => foldNumbers Integer.add? (· + ·) 0 vs
  | .product, vs => foldNumbers Integer.mul? (· * ·) 1 vs
  | .subtract, [a, b] => subtract a b
  | .divide, [a, b] => divide a b
  | .power, [a, b] => power a b
  | .integerDivide, [a, b] => onIntegers Integer.floorDiv? a b
  | .integerModulus, [a, b] => onIntegers Integer.floorMod? a b
  | .truncate, [v] => toWhole Binary64.truncate v
  | .round, [v] => toWhole Binary64.roundHalfUp v
  | .integerToFloat, [v] => toFloatValue v
  | .roundTo mode figures, [v] => do roundNumber mode (← literalInteger store figures) v
  | .max, vs => extremum true vs
  | .min, vs => extremum false vs
  | .gcd, vs => foldIntegers Integer.gcd? vs
  | .lcm, vs => foldIntegers Integer.lcm? vs
  | .statistic statistic, [v] => statisticOf statistic v
  | .math function, vs => applyFunction function vs
  | _, _ => .error .unreadable

/-- A random member of a container, each as likely as the others. -/
def randomMember (v : Value) : Drawing Fault Value := do
  let members ← settled (readMembers v)
  let k ← drawBelow members.length
  match members[k]? with
  | some s => return .single s
  | none => throw .unreadable

/-- The value of an operator: `random` draws, all others `combine`. -/
def operatorValue [PatternLibrary] (store : Store) (op : Operator) (vs : List Value) :
    Drawing Fault Value :=
  match op, vs with
  | .random, [v] => randomMember v
  | op, vs => settled (combine store op vs)

end AssessmentItem.Evaluation
