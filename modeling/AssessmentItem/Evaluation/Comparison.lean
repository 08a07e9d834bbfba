import AssessmentItem.Evaluation.Operand
import AssessmentItem.Pattern.Limits

/-!
# Logic and comparison

Truth values are combined with NULL as the unknown one; numbers, durations, texts and points are
compared.

## Main definitions

* `threeValued`, `countTrue` : conjunction, disjunction, and a number of true operands.
* `equalNumbers` : equality of numbers within a tolerance.
* `compareNumbers`, `compareDurations` : the order of numbers and of durations.
-/

namespace AssessmentItem.Evaluation

/-! ### Truth values -/

/-- The dominant truth value if it occurs, else NULL if that occurs, else the other truth value:
conjunction with `false` as the dominant one, disjunction with `true`. -/
def threeValued (dominant : Bool) (vs : List Value) : Except Fault Value := do
  let truths ← vs.mapM readTruth
  if truths.contains (some dominant) then return .boolean dominant
  else if truths.contains none then return .null
  else return .boolean (!dominant)

/-- Whether the number of true operands lies between `least` and `most`, NULL if the unknown ones
decide. -/
def countTrue (least most : Int64) (vs : List Value) : Except Fault Value := do
  let truths ← vs.mapM readTruth
  let trues : Int := truths.count (some true)
  let unknown : Int := truths.count none
  if most.toInt < trues ∨ trues + unknown < least.toInt then return .boolean false
  else if least.toInt ≤ trues ∧ trues + unknown ≤ most.toInt then return .boolean true
  else return .null

/-- The other truth value of a single `boolean`. -/
def negate (v : Value) : Except Fault Value := return .boolean (!(← readBoolean v))

/-! ### Texts -/

/-- Whether the text `inner` occurs in another one. -/
def occursIn (inner : List Char) : List Char → Bool
  | [] => inner.isEmpty
  | c :: outer => inner.isPrefixOf (c :: outer) || occursIn inner outer

/-- The characters of a text as they are compared: in lower case unless `caseSensitive` holds. -/
def comparedText (caseSensitive : Bool) (v : Value) : Except Fault (List Char) := do
  let cs ← readText v
  return if caseSensitive then cs else (Unicode.lowerCase (String.ofList cs)).toList

/-- Whether the text `a` occurs in `b`. -/
def substringOf (caseSensitive : Bool) (a b : Value) : Except Fault Value := do
  let inner ← comparedText caseSensitive a
  let outer ← comparedText caseSensitive b
  return .boolean (occursIn inner outer)

/-- Whether the texts `a` and `b` are equal, or, if `substring` holds, whether `b` occurs in `a`. -/
def matchStrings (caseSensitive substring : Bool) (a b : Value) : Except Fault Value := do
  let x ← comparedText caseSensitive a
  let y ← comparedText caseSensitive b
  return .boolean (if substring then occursIn y x else x == y)

/-- Whether `pattern` matches the whole text of `v`; a text that is no pattern is a fault. -/
def matchPattern [PatternLibrary] (pattern : String) (v : Value) : Except Fault Value := do
  let text ← readText v
  match PatternLibrary.matchesWhole? pattern (String.ofList text) with
  | some b => return .boolean b
  | none => throw .pattern

/-! ### Numbers -/

/-- The order of two numbers, integers exactly and otherwise as floating-point numbers; NaN has no
place in it. -/
def Number.compare? : Number → Number → Option Ordering
  | .integer m, .integer n => some (compare m.toInt n.toInt)
  | a, b => floatOrder? a.toFloat b.toFloat
where
  /-- The order of `x` and `y`, neither of which may be NaN. -/
  floatOrder? (x y : Float) : Option Ordering :=
    if x < y then some .lt else if x > y then some .gt else if x == y then some .eq else none

/-- Whether `accepts` accepts the order of two numbers; it is false where NaN is compared. -/
def compareNumbers (accepts : Ordering → Bool) (a b : Value) : Except Fault Value := do
  let x ← readNumber a
  let y ← readNumber b
  return .boolean ((x.compare? y).any accepts)

/-- Whether `accepts` accepts the order of two durations; it is false where NaN is compared. -/
def compareDurations (accepts : Ordering → Bool) (a b : Value) : Except Fault Value := do
  let x ← readSeconds a
  let y ← readSeconds b
  return .boolean ((Number.compare?.floatOrder? x y).any accepts)

/-- The bounds that a tolerance sets around `y`.  A `relative` one is given in percent, and below
zero the bounds change places. -/
def toleranceBounds (mode : ToleranceMode) (y lower upper : Float) : Float × Float :=
  match mode with
  | .exact => (y, y)
  | .absolute => (y - lower, y + upper)
  | .relative => (y * (1 - lower / 100), y * (1 + upper / 100))

/-- Whether two numbers are equal, or `a` lies within the tolerance around `b`.  The numbers are
compared as floats. -/
def equalNumbers (store : Store) (mode : ToleranceMode) (tolerances : List (Literal Float))
    (includesLower includesUpper : Bool) (a b : Value) : Except Fault Value := do
  let x ← readFloat a
  let y ← readFloat b
  if mode = .exact then return .boolean (x == y)
  match tolerances with
  | [] => throw .noTolerance
  | first :: rest =>
    let t ← literalNumber store first
    let u ← match rest with
      | second :: _ => literalNumber store second
      | [] => pure t
    let (lower, upper) := toleranceBounds mode y t u
    let above := if includesLower then x ≥ lower else x > lower
    let below := if includesUpper then x ≤ upper else x < upper
    return .boolean (above && below)

/-- Whether two numbers are equal once `equalRounded` has rounded both. -/
def equalRoundedNumbers (mode : RoundingMode) (figures : Int64) (a b : Value) :
    Except Fault Value := do
  let x ← readFloat a
  let y ← readFloat b
  let equal ← (equalRounded x y mode figures).mapError .rounding
  return .boolean equal

/-! ### Points -/

/-- Whether `area` contains one of the points of `v`. -/
def anyInside (area : Area) (v : Value) : Except Fault Value := do
  let members ← readMembers v
  return .boolean (members.any fun
    | .point x y => area.contains x y
    | _ => false)

end AssessmentItem.Evaluation
