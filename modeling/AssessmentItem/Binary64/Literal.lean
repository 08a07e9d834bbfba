import AssessmentItem.Binary64.Parts

/-!
# Decimal literals of floating-point numbers

A decimal literal is an optional sign, digits with at most one point and at least one digit, and
an optional exponent.  It denotes the nearest floating-point number, ties to the even
significand; a magnitude beyond the largest number denotes infinity.

## Main definitions

* `Binary64.nearest` : the number nearest to `± digits * 10 ^ exponent`.
* `Binary64.read?` : the number of a decimal literal.
-/

namespace AssessmentItem.Binary64

/-- The number nearest to `± digits * 10 ^ exponent`.  Magnitudes far outside the range are
settled by the number of digits alone. -/
def nearest (negative : Bool) (digits : Nat) (exponent : Int) : Float :=
  let length : Int := (Nat.toDigits 10 digits).length
  let magnitude : Float :=
    if digits = 0 then 0
    else if 400 < length + exponent then 1 / 0
    else if length + exponent < -400 then 0
    else Float.ofScientific digits (exponent < 0) exponent.natAbs
  if negative then -magnitude else magnitude

/-- The value of the decimal digits `cs`. -/
def digitsValue (cs : List Char) : Nat :=
  cs.foldl (fun n c ↦ 10 * n + (c.toNat - '0'.toNat)) 0

/-- Splits off the sign of a literal; `true` stands for a minus sign. -/
def readSign : List Char → Bool × List Char
  | '+' :: cs => (false, cs)
  | '-' :: cs => (true, cs)
  | cs => (false, cs)

/-- The exponent that a literal ends in, after `e` or `E`; no text is the exponent zero. -/
def readExponent? : List Char → Option Int
  | [] => some 0
  | c :: cs =>
    if c = 'e' ∨ c = 'E' then
      let (negative, digits) := readSign cs
      if digits.isEmpty || !digits.all Char.isDigit then none
      else some (if negative then -(digitsValue digits : Int) else digitsValue digits)
    else none

/-- The number nearest to what a decimal literal writes. -/
def read? (cs : List Char) : Option Float :=
  let (negative, cs) := readSign cs
  let whole := cs.takeWhile Char.isDigit
  let (fraction, rest) :=
    match cs.dropWhile Char.isDigit with
    | '.' :: rest => (rest.takeWhile Char.isDigit, rest.dropWhile Char.isDigit)
    | rest => ([], rest)
  if whole.isEmpty && fraction.isEmpty then none
  else do
    let exponent ← readExponent? rest
    some (nearest negative (digitsValue (whole ++ fraction)) (exponent - fraction.length))

end AssessmentItem.Binary64
