import AssessmentItem.Binary64.Parts

/-!
# Shortest decimal digits

Every positive finite number is the only one in an interval of real numbers that round to it.
The shortest digits of the number are those of the coarsest decimal grid that has a point in
this interval; of two such points the nearer one is taken, and the upper one of two equally
near.

## Main definitions

* `Binary64.Digits` : a decimal number `digits * 10 ^ exponent`.
* `Binary64.shortest` : the shortest digits of a significand and an exponent.
-/

namespace AssessmentItem.Binary64

/-- The decimal number `digits * 10 ^ exponent`. -/
structure Digits where
  digits : Nat
  exponent : Int
  deriving DecidableEq

/-- The number of decimal digits of `n`; zero has one. -/
def decimalLength (n : Nat) : Nat := (Nat.toDigits 10 n).length

/-- The real numbers that round to a given one, in units of which the number itself has
`4 * significand`, and the decimal exponent of its first digit. -/
structure Neighbourhood where
  lower : Nat
  value : Nat
  upper : Nat
  /-- Whether `lower` and `upper` themselves round to the number. -/
  closed : Bool
  /-- The unit is `2 ^ unitExponent`. -/
  unitExponent : Int
  deriving DecidableEq

/-- The neighbourhood of `significand * 2 ^ exponent`.  Below a power of two the gap to the next
number is half as wide. -/
def neighbourhood (significand : Nat) (exponent : Int) : Neighbourhood where
  lower :=
    if significand = 4503599627370496 ∧ -1074 < exponent then 4 * significand - 1
    else 4 * significand - 2
  value := 4 * significand
  upper := 4 * significand + 2
  closed := significand % 2 == 0
  unitExponent := exponent - 2

/-- A grid of step `10 ^ step`, as numerator and denominator by which a count of units has to be
multiplied to become a count of steps. -/
def gridRatio (unitExponent step : Int) : Nat × Nat :=
  (Nat.pow 2 unitExponent.toNat * Nat.pow 10 (-step).toNat,
    Nat.pow 2 (-unitExponent).toNat * Nat.pow 10 step.toNat)

/-- The decimal exponent of the first digit of `n.value`. -/
def leadingExponent (n : Neighbourhood) : Int :=
  let (num, den) := gridRatio n.unitExponent (-400)
  (decimalLength (n.value * num / den) : Int) - 1 - 400

/-- Whether the point `count * 10 ^ step` rounds to the number. -/
def Neighbourhood.holds (n : Neighbourhood) (step : Int) (count : Nat) : Bool :=
  let (num, den) := gridRatio n.unitExponent step
  if n.closed then n.lower * num ≤ count * den && count * den ≤ n.upper * num
  else n.lower * num < count * den && count * den < n.upper * num

/-- The point of the grid of step `10 ^ step` that stands for the number, if there is one. -/
def Neighbourhood.point? (n : Neighbourhood) (step : Int) : Option Nat :=
  let (num, den) := gridRatio n.unitExponent step
  let below := n.value * num / den
  match n.holds step below, n.holds step (below + 1) with
  | true, true =>
    if 2 * (n.value * num) < (2 * below + 1) * den then some below else some (below + 1)
  | true, false => some below
  | false, true => some (below + 1)
  | false, false => none

/-- The first grid with a point, starting with the step `10 ^ step` and going to ever finer ones;
seventeen digits are always enough. -/
def Neighbourhood.search (n : Neighbourhood) (step : Int) : Nat → Digits
  | 0 =>
    let (num, den) := gridRatio n.unitExponent step
    ⟨n.value * num / den, step⟩
  | fuel + 1 =>
    match n.point? step with
    | some count => ⟨count, step⟩
    | none => n.search (step - 1) fuel

/-- Drops the zeros at the end of the digits, at most as many as the fuel allows. -/
def Digits.strip (d : Digits) : Nat → Digits
  | 0 => d
  | fuel + 1 =>
    if d.digits % 10 = 0 ∧ d.digits ≠ 0 then
      Digits.strip ⟨d.digits / 10, d.exponent + 1⟩ fuel
    else d

/-- The shortest digits of `significand * 2 ^ exponent`; zero has the digit 0. -/
def shortest (significand : Nat) (exponent : Int) : Digits :=
  if significand = 0 then ⟨0, 0⟩
  else
    let n := neighbourhood significand exponent
    (n.search (leadingExponent n) 17).strip 17

end AssessmentItem.Binary64
