import AssessmentItem.Binary64.Shortest

/-!
# Decimal numbers of 96 bits

A decimal number is `± mantissa / 10 ^ scale` with a mantissa of at most 96 bits and at most 28
digits after the point.  Zero has no sign.  A floating-point number becomes a decimal through its
shortest digits, and a half is rounded away from zero.

## Main definitions

* `Decimal.ofFloat?` : the decimal number of the shortest digits of a floating-point number.
* `Decimal.roundPlaces`, `Decimal.roundFigures?` : rounding to places after the point and to
  significant figures.
* `Decimal.toFloat` : back to a floating-point number.

## Main results

* `Decimal.scale_lt_of_timesTen?` : multiplication by ten comes to an end.
* `Decimal.roundPlaces_of_scale_le` : a number with few enough places is not changed.
-/

namespace AssessmentItem

/-- The decimal number `± mantissa / 10 ^ scale`; the mantissa is below `2 ^ 96`. -/
structure Decimal where
  negative : Bool
  mantissa : Nat
  scale : Nat
  mantissa_lt : mantissa < 79228162514264337593543950336
  scale_le : scale ≤ 28
  deriving DecidableEq

namespace Decimal

/-- A decimal number with the given parts, if `mantissa` and `scale` are in range; zero loses its
sign. -/
def make? (negative : Bool) (mantissa scale : Nat) : Option Decimal :=
  if h : mantissa < 79228162514264337593543950336 ∧ scale ≤ 28 then
    some ⟨negative && mantissa != 0, mantissa, scale, h.1, h.2⟩
  else none

/-- The number zero. -/
def zero : Decimal := ⟨false, 0, 0, by decide, by decide⟩

/-! ### Digits -/

/-- The lowest `places` digits of a natural number, the highest of them first. -/
def lowDigits (n : Nat) : Nat → List Nat
  | 0 => []
  | places + 1 => n / Nat.pow 10 places % 10 :: lowDigits n places

/-- Takes digits after the point for as long as they fit.  The first that does not fit rounds
`mantissa`, a five upwards, and the others are dropped. -/
def takeFraction? (negative : Bool) (mantissa scale : Nat) : List Nat → Option Decimal
  | [] => make? negative mantissa scale
  | d :: ds =>
    if 10 * mantissa + d < 79228162514264337593543950336 ∧ scale + 1 ≤ 28 then
      takeFraction? negative (10 * mantissa + d) (scale + 1) ds
    else if d < 5 then make? negative mantissa scale
    else if mantissa + 1 < 79228162514264337593543950336 then make? negative (mantissa + 1) scale
    else if scale = 0 then none
    else make? negative ((mantissa + 1 + 4) / 10) (scale - 1)

/-- The decimal number of the digits `d`.  There is none if the whole part does not fit. -/
def ofDigits? (negative : Bool) (d : Binary64.Digits) : Option Decimal :=
  match d.exponent with
  | .ofNat k => make? negative (d.digits * Nat.pow 10 k) 0
  | .negSucc k =>
    let whole := d.digits / Nat.pow 10 (k + 1)
    if whole < 79228162514264337593543950336 then
      takeFraction? negative whole 0 (lowDigits d.digits (k + 1))
    else none

/-- The decimal number of the `Binary64.shortest` digits of a finite floating-point number. -/
def ofFloat? (x : Float) : Option Decimal := do
  let p ← Binary64.parts? x
  ofDigits? p.negative (Binary64.shortest p.significand p.exponent)

/-! ### Rounding -/

/-- The number `n / 10 ^ places`, a half rounded up. -/
def divideHalfUp (n places : Nat) : Nat := (2 * n + Nat.pow 10 places) / (2 * Nat.pow 10 places)

theorem divideHalfUp_le (n places : Nat) : divideHalfUp n places ≤ n := by
  unfold divideHalfUp
  have hpos : 0 < Nat.pow 10 places := Nat.pow_pos (by decide)
  apply Nat.lt_succ_iff.1
  apply (Nat.div_lt_iff_lt_mul (by omega)).2
  generalize Nat.pow 10 places = t at hpos
  have hle : n * 1 ≤ n * t := Nat.mul_le_mul_left n hpos
  have heq : n.succ * (2 * t) = 2 * (n * t) + 2 * t := by
    rw [Nat.succ_mul, Nat.mul_left_comm]
  omega

/-- Rounds to `places` digits after the point, a half away from zero. -/
def roundPlaces (d : Decimal) (places : Nat) : Decimal :=
  if h : places < 28 ∧ places < d.scale then
    let mantissa := divideHalfUp d.mantissa (d.scale - places)
    ⟨d.negative && mantissa != 0, mantissa, places,
      Nat.lt_of_le_of_lt (divideHalfUp_le _ _) d.mantissa_lt, by omega⟩
  else d

/-- Ten times `d`, if that fits. -/
def timesTen? (d : Decimal) : Option Decimal :=
  if d.scale = 0 then make? d.negative (10 * d.mantissa) 0
  else make? d.negative d.mantissa (d.scale - 1)

/-- A number below one has places after the point unless it is zero, and `timesTen?` leaves one
place less. -/
theorem scale_lt_of_timesTen? {d next : Decimal} (h : d.mantissa ≠ 0)
    (hlt : ¬Nat.pow 10 d.scale ≤ d.mantissa) (hnext : d.timesTen? = some next) :
    next.mantissa ≠ 0 ∧ next.scale < d.scale := by
  have hscale : d.scale ≠ 0 := by
    intro hzero
    rw [hzero] at hlt
    exact hlt (Nat.pos_of_ne_zero h)
  rw [timesTen?, if_neg hscale, make?] at hnext
  split at hnext
  · cases hnext
    exact ⟨h, Nat.sub_one_lt hscale⟩
  · nomatch hnext

/-- The exponent of the highest decimal digit of a number that is not zero and below one: the number
goes through `timesTen?` until it reaches one or does not fit any more, and the steps count
downwards. -/
def smallExponent (d : Decimal) (h : d.mantissa ≠ 0) : Int :=
  if hlt : Nat.pow 10 d.scale ≤ d.mantissa then 0
  else
    match hnext : d.timesTen? with
    | some next => smallExponent next (scale_lt_of_timesTen? h hlt hnext).1 - 1
    | none => 0
termination_by d.scale
decreasing_by exact (scale_lt_of_timesTen? h hlt hnext).2

/-- The exponent of the highest decimal digit of `d`.  Zero has no such digit, and its exponent is
taken to be 0. -/
def leadingExponent (d : Decimal) : Int :=
  if Nat.pow 10 d.scale ≤ d.mantissa then
    (Binary64.decimalLength (d.mantissa / Nat.pow 10 d.scale) : Int) - 1
  else if h : d.mantissa = 0 then 0
  else d.smallExponent h

/-- Rounds to `places` digits after the point, if that is a number of 32 bits. -/
def roundPlaces? (d : Decimal) (places : Int64) : Option Decimal :=
  if 0 ≤ places.toInt ∧ places.toInt < 4294967296 then some (d.roundPlaces places.toInt.toNat)
  else none

/-- The power `10 ^ exponent`, if it is an integer of 128 bits. -/
def powerOfTen? (exponent : Int64) : Option Nat :=
  if 0 ≤ exponent.toInt ∧ exponent.toInt ≤ 38 then some (Nat.pow 10 exponent.toInt.toNat) else none

/-- The number of places after the point at which `figures` significant figures end, less than zero
if they end before it.  It wraps around where it is not an `Int64`. -/
def placesOf (d : Decimal) (figures : Int64) : Int64 :=
  figures - 1 - Int64.ofInt d.leadingExponent

/-- Rounds to `figures` significant figures, a half away from zero.  There is no result if the
rounded number does not fit. -/
def roundFigures? (d : Decimal) (figures : Int64) : Option Decimal :=
  if d.mantissa = 0 then some d
  else
    let places := d.placesOf figures
    if 0 ≤ places.toInt then d.roundPlaces? places
    else do
      let factor ← powerOfTen? (-places)
      let quotient := divideHalfUp d.mantissa (d.scale + (-places).toInt.toNat)
      make? d.negative (quotient * factor) 0

/-! ### Floating-point numbers -/

/-- The product of `result` and `base ^ n`, by squaring; the fuel bounds the halvings of `n`. -/
def powerBySquaring (base result : Float) (n : Nat) : Nat → Float
  | 0 => result
  | fuel + 1 =>
    let result := if n % 2 = 1 then result * base else result
    if n / 2 = 0 then result else powerBySquaring (base * base) result (n / 2) fuel

/-- The floating-point number of a decimal.  The whole part and the rest are converted apart, and
what their sum adds after the last place is rounded away. -/
def toFloat (d : Decimal) : Float :=
  let magnitude :=
    if d.scale = 0 then Float.ofNat d.mantissa
    else
      let unit := Nat.pow 10 d.scale
      let whole := Float.ofNat (d.mantissa / unit)
      let rest := Float.ofNat (d.mantissa % unit) / Float.ofNat unit
      if rest == 0 then whole
      else
        let power := powerBySquaring 10 1 d.scale d.scale
        Binary64.roundHalfAway ((whole + rest) * power) / power
  if d.negative then -magnitude else magnitude

/-! ### Small laws -/

/-- A number whose `scale` is at most `places` is not changed. -/
theorem roundPlaces_of_scale_le {d : Decimal} {places : Nat} (h : d.scale ≤ places) :
    d.roundPlaces places = d := by
  unfold roundPlaces
  rw [dif_neg (by omega)]

end Decimal

end AssessmentItem
