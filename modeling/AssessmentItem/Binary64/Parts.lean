import AssessmentItem.Integer

/-!
# Binary floating-point numbers as exact numbers

A finite floating-point number of 64 bits is `± significand * 2 ^ exponent` with a significand
below `2 ^ 53`.  Operations that have to be exact are done on these parts.

## Main definitions

* `Binary64.Parts` : sign, significand and exponent of a finite number.
* `Binary64.parts?` : the parts of a number, if it is finite.
* `Binary64.floor`, `Binary64.ceil`, `Binary64.truncate` : the neighbouring whole numbers.
* `Binary64.roundHalfUp`, `Binary64.roundHalfAway` : the nearest whole number, with the two ways
  to break a tie.
* `Binary64.toInteger?` : a whole number as an integer of 64 bits.
-/


namespace AssessmentItem.Binary64

/-- Sign, significand and exponent of a finite number `± significand * 2 ^ exponent`. -/
structure Parts where
  negative : Bool
  significand : Nat
  exponent : Int
  deriving DecidableEq

/-- The parts of `x`, read off its bits; infinities and NaN have none. -/
def parts? (x : Float) : Option Parts :=
  let bits := x.toBits.toNat
  let negative := decide (9223372036854775808 ≤ bits)
  let field : Nat := bits / 4503599627370496 % 2048
  let fraction := bits % 4503599627370496
  if field = 2047 then none
  else if field = 0 then some ⟨negative, fraction, -1074⟩
  else some ⟨negative, 4503599627370496 + fraction, Int.ofNat field - 1075⟩

/-- The whole number `± n` with the given sign, so that zero keeps its sign. -/
def signed (negative : Bool) (n : Nat) : Float :=
  if negative then -Float.ofNat n else Float.ofNat n

/-- The quotient and the remainder of the `significand` by the power of two that makes a number
whole, if the number has digits after the binary point. -/
def Parts.split? (p : Parts) : Option (Nat × Nat) :=
  match p.exponent with
  | .ofNat _ => none
  | .negSucc k => some (p.significand / Nat.pow 2 (k + 1), p.significand % Nat.pow 2 (k + 1))

/-- Rounds a number to a whole one; `grows` says, from the sign and what stands after the point,
whether the magnitude grows.  Infinities and NaN stay. -/
def wholeBy (grows : Bool → Nat → Bool) (x : Float) : Float :=
  match parts? x with
  | none => x
  | some p =>
    match p.split? with
    | none => x
    | some (whole, rest) => signed p.negative (if grows p.negative rest then whole + 1 else whole)

/-- The number `x` without what stands after its point. -/
def truncate (x : Float) : Float := wholeBy (fun _ _ ↦ false) x

/-- The greatest whole number that is not above `x`. -/
def floor (x : Float) : Float := wholeBy (fun negative rest ↦ negative && rest != 0) x

/-- The least whole number that is not below `x`. -/
def ceil (x : Float) : Float := wholeBy (fun negative rest ↦ !negative && rest != 0) x

/-- The nearest whole number, of two the greater one.  The distance to `floor x` is compared with
one half, since the sum of the number and one half may round up. -/
def roundHalfUp (x : Float) : Float :=
  let below := floor x
  if x - below ≥ 0.5 then below + 1 else below

/-- The whole number nearest to `x`, of two the one farther from zero. -/
def roundHalfAway (x : Float) : Float :=
  match parts? x with
  | none => x
  | some p =>
    match p.exponent with
    | .ofNat _ => x
    | .negSucc k =>
      signed p.negative ((p.significand + Nat.pow 2 k) / Nat.pow 2 (k + 1))

/-- A whole number as an `Int64`; what stands after the point is dropped.  Numbers outside the
range, infinities and NaN have none. -/
def toInteger? (x : Float) : Option Int64 := do
  let p ← parts? x
  let magnitude :=
    match p.exponent with
    | .ofNat k => p.significand * Nat.pow 2 k
    | .negSucc k => p.significand / Nat.pow 2 (k + 1)
  Integer.fit? (if p.negative then -(magnitude : Int) else magnitude)

/-- The floating-point number nearest to `n`, ties to the even significand. -/
def ofInt (n : Int) : Float := Float.ofInt n

/-- The floating-point number nearest to an `Int64`. -/
def ofInteger (n : Int64) : Float := ofInt n.toInt

end AssessmentItem.Binary64
