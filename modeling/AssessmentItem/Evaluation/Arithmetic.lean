import AssessmentItem.Evaluation.Operand

/-!
# Arithmetic

Sums and products of integers are exact and NULL if they do not fit; as soon as one operand is a
floating-point number all are.  Statistics, functions and powers that are not finite are NULL.

## Main definitions

* `foldNumbers`, `foldIntegers` : an operation over all operands.
* `extremum` : the greatest or the least member.
* `statisticValue`, `functionValue` : statistics and functions.
-/

namespace AssessmentItem.Evaluation

/-! ### Results -/

/-- The integer `n`, NULL if there is none. -/
def integerOrNull (n : Option Int64) : Value := (n.map Value.integer).getD .null

/-- The number `x`, NULL if it is not finite. -/
def finiteOrNull (x : Float) : Value := if x.isFinite then .float x else .null

/-! ### Operations on numbers -/

/-- An operation over all operands from left to right: `exact` if all are integers, NULL from the
first result that does not fit, and `rounded` otherwise. -/
def foldNumbers (exact : Int64 → Int64 → Option Int64) (rounded : Float → Float → Float)
    (start : Int64) (vs : List Value) : Except Fault Value := do
  let numbers ← vs.mapM readNumber
  match numbers.mapM Number.integer? with
  | some integers => return integerOrNull (integers.foldlM exact start)
  | none =>
    return .float ((numbers.map Number.toFloat).foldl rounded (Binary64.ofInteger start))

/-- The difference of two numbers, exact on integers; NULL if it does not fit. -/
def subtract (a b : Value) : Except Fault Value := do
  match ← readNumber a, ← readNumber b with
  | .integer m, .integer n => return integerOrNull (Integer.sub? m n)
  | x, y => return .float (x.toFloat - y.toFloat)

/-- The quotient of two numbers as floats; NULL if the divisor is zero. -/
def divide (a b : Value) : Except Fault Value := do
  let x ← readFloat a
  let y ← readFloat b
  return if y == 0 then .null else .float (x / y)

/-- The power `a ^ b` of two numbers as floats; NULL if it is not finite. -/
def power (a b : Value) : Except Fault Value := do
  let x ← readFloat a
  let y ← readFloat b
  return finiteOrNull (Float.pow x y)

/-- The operation `f` on two integers; NULL where it has no result. -/
def onIntegers (f : Int64 → Int64 → Option Int64) (a b : Value) : Except Fault Value := do
  let m ← readInteger a
  let n ← readInteger b
  return integerOrNull (f m n)

/-- A number as an integer, the fraction removed by `rounding`; NULL if it does not fit. -/
def toWhole (rounding : Float → Float) (v : Value) : Except Fault Value := do
  match ← readNumber v with
  | .integer n => return .integer n
  | .float x => return integerOrNull (Binary64.toInteger? (rounding x))

/-- An integer as a floating-point number, by `Value.widen?`. -/
def toFloatValue (v : Value) : Except Fault Value := orUnreadable v.widen?

/-- A number rounded by `roundTo`. -/
def roundNumber (mode : RoundingMode) (figures : Int64) (v : Value) : Except Fault Value := do
  let x ← readFloat v
  let rounded ← (roundTo x mode figures).mapError .rounding
  return .float rounded

/-! ### Operations on members -/

/-- The operation `f` over all integers among the members, started with the magnitude of the first;
NULL from the first step without a result. -/
def foldIntegers (f : Int64 → Int64 → Option Int64) (vs : List Value) : Except Fault Value := do
  let members ← readAllMembers vs
  match ← members.mapM fun s ↦ orUnreadable s.integer? with
  | [] => throw .unreadable
  | first :: rest => return integerOrNull ((Integer.abs? first).bind fun a ↦ rest.foldlM f a)

/-- The member that `better` prefers to all before it and keeps against all after it. -/
def preferred {α : Type} (better : α → α → Bool) : List α → Option α
  | [] => none
  | a :: rest => some (rest.foldl (fun best b ↦ if better b best then b else best) a)

/-- The greatest or the least of all members, as `greatest` says; a `float` if one of them is. -/
def extremum (greatest : Bool) (vs : List Value) : Except Fault Value := do
  let members ← readAllMembers vs
  let numbers ← members.mapM fun s ↦ orUnreadable (numberOf? s)
  let best : Option Value :=
    match numbers.mapM Number.integer? with
    | some integers =>
      (preferred (fun (m n : Int64) ↦ if greatest then n < m else m < n) integers).map .integer
    | none =>
      (preferred (fun (x y : Float) ↦ if greatest then y < x else x < y)
        (numbers.map Number.toFloat)).map .float
  orUnreadable best

/-! ### Statistics -/

/-- The sum of `xs` from left to right.  It starts at negative zero, which is the sum of none. -/
def sumOf (xs : List Float) : Float := xs.foldl (· + ·) (-0.0)

/-- The value of a statistic of `xs`; NULL of no numbers, and of one number for those of samples. -/
def statisticValue (statistic : Statistic) (xs : List Float) : Value :=
  if xs.isEmpty then .null
  else
    let n := Float.ofNat xs.length
    let mean := sumOf xs / n
    let squares := sumOf (xs.map fun x ↦ (x - mean) * (x - mean))
    match statistic with
    | .mean => finiteOrNull mean
    | .populationVariance => finiteOrNull (squares / n)
    | .populationDeviation => finiteOrNull (squares / n).sqrt
    | .sampleVariance => if xs.length < 2 then .null else finiteOrNull (squares / (n - 1))
    | .sampleDeviation =>
      if xs.length < 2 then .null else finiteOrNull (squares / (n - 1)).sqrt

/-- The value of a statistic of the members of `v`. -/
def statisticOf (statistic : Statistic) (v : Value) : Except Fault Value := do
  let members ← readMembers v
  let xs ← members.mapM fun s ↦ orUnreadable s.number?
  return statisticValue statistic xs

/-! ### Functions -/

/-- The number π as a `Float`. -/
def pi : Float := 3.141592653589793

/-- The base of the natural logarithm as a `Float`. -/
def euler : Float := 2.718281828459045

/-- The value of a `mathConstant`. -/
def constantValue : MathConstant → Float
  | .pi => pi
  | .e => euler

/-- The sign of `x`: `-1`, `0` or `1`, and NULL for NaN. -/
def signum (x : Float) : Value :=
  if x.isNaN then .null
  else .integer (if x > 0 then 1 else if x < 0 then -1 else 0)

/-- The magnitude of a number; NULL if it does not fit or is not finite. -/
def magnitude : Number → Value
  | .integer n => integerOrNull (Integer.abs? n)
  | .float x => finiteOrNull x.abs

/-- The value of a function at a number; `y` is the second operand of the functions that have
one. -/
def functionValue (f : MathFunction) (a : Number) (y : Float) : Value :=
  let x := a.toFloat
  match f with
  | .floor => integerOrNull (Binary64.toInteger? (Binary64.floor x))
  | .ceil => integerOrNull (Binary64.toInteger? (Binary64.ceil x))
  | .signum => signum x
  | .abs => magnitude a
  | .sin => finiteOrNull x.sin
  | .cos => finiteOrNull x.cos
  | .tan => finiteOrNull x.tan
  | .sec => finiteOrNull (1 / x.cos)
  | .csc => finiteOrNull (1 / x.sin)
  | .cot => finiteOrNull (1 / x.tan)
  | .asin => finiteOrNull x.asin
  | .acos => finiteOrNull x.acos
  | .atan => finiteOrNull x.atan
  | .atan2 => finiteOrNull (Float.atan2 x y)
  | .asec => finiteOrNull (1 / x).acos
  | .acsc => finiteOrNull (1 / x).asin
  | .acot => finiteOrNull (1 / x).atan
  | .sinh => finiteOrNull x.sinh
  | .cosh => finiteOrNull x.cosh
  | .tanh => finiteOrNull x.tanh
  | .sech => finiteOrNull (1 / x.cosh)
  | .csch => finiteOrNull (1 / x.sinh)
  | .coth => finiteOrNull (1 / x.tanh)
  | .log => finiteOrNull x.log10
  | .ln => finiteOrNull x.log
  | .exp => finiteOrNull x.exp
  | .toDegrees => finiteOrNull (x * 57.29577951308232)
  | .toRadians => finiteOrNull (x * (pi / 180))

/-- The value of `f` at one operand or two, by `functionValue`. -/
def applyFunction (f : MathFunction) (vs : List Value) : Except Fault Value := do
  match ← vs.mapM readNumber with
  | [a] => return functionValue f a 0
  | [a, b] => return functionValue f a b.toFloat
  | _ => throw .unreadable

end AssessmentItem.Evaluation
