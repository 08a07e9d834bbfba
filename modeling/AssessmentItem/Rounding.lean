import AssessmentItem.Decimal

/-!
# Rounding of scores

A number is rounded through its shortest decimal digits, so that 2.675 to two places is 2.68.
Infinities, NaN and numbers too large for the decimal numbers stay as they are.

## Main definitions

* `RoundingMode` : decimal places or significant figures.
* `RoundingFault` : a number of figures that is too small.
* `roundTo`, `equalRounded` : rounding, and comparison of rounded numbers.
-/

namespace AssessmentItem

/-- What the number of figures of a rounding counts: figures from the first on, or places after the
point. -/
inductive RoundingMode
  | significantFigures
  | decimalPlaces
  deriving DecidableEq

/-- The least number of figures of a mode: one of `significantFigures`, none of `decimalPlaces`. -/
def RoundingMode.least : RoundingMode → Int
  | .significantFigures => 1
  | .decimalPlaces => 0

/-- A number of `figures` below the least one of its `mode`. -/
structure RoundingFault where
  mode : RoundingMode
  figures : Int64
  deriving DecidableEq

/-- The wording of a `RoundingFault`. -/
def RoundingFault.message (fault : RoundingFault) : String :=
  let name :=
    match fault.mode with
    | .significantFigures => "significant figures"
    | .decimalPlaces => "decimal places"
  name ++ " must be at least " ++ toString fault.mode.least ++ ", got " ++
    toString fault.figures.toInt

/-- Rounds `x` to the given number of figures, on its shortest decimal digits.  A number that has no
`Decimal` stays as it is. -/
def roundTo (x : Float) (mode : RoundingMode) (figures : Int64) : Except RoundingFault Float :=
  if figures.toInt < mode.least then .error ⟨mode, figures⟩
  else
    match Decimal.ofFloat? x with
    | none => .ok x
    | some d =>
      let rounded :=
        match mode with
        | .decimalPlaces => d.roundPlaces? figures
        | .significantFigures => d.roundFigures? figures
      .ok ((rounded.map Decimal.toFloat).getD x)

/-- Whether `x` and `y` are equal once `roundTo` has rounded both. -/
def equalRounded (x y : Float) (mode : RoundingMode) (figures : Int64) :
    Except RoundingFault Bool := do
  let x' ← roundTo x mode figures
  let y' ← roundTo y mode figures
  return x' == y'

end AssessmentItem
