import AssessmentItem.Binary64.Parts

/-!
# Spans of time

A span of time is a number of nanoseconds that has fewer than `2 ^ 64` whole seconds.

## Main definitions

* `TimeSpan` : spans of time.
* `TimeSpan.ofSeconds?` : the span of a floating-point number of seconds.
* `TimeSpan.seconds` : the span as a floating-point number of seconds.
-/

namespace AssessmentItem

/-- A span of time, a whole number of `nanoseconds`. -/
structure TimeSpan where
  nanoseconds : Nat
  deriving DecidableEq

namespace TimeSpan

/-- The number of nanoseconds of a second, `10 ^ 9`. -/
def perSecond : Nat := 1000000000

/-- The span of `n` milliseconds. -/
def ofMilliseconds (n : Nat) : TimeSpan := ⟨n * 1000000⟩

/-- The quotient `n / d` rounded to the nearest natural number, of two to the even one. -/
def divideToEven (n d : Nat) : Nat :=
  let quotient := n / d
  let rest := 2 * (n % d)
  if d < rest ∨ (rest = d ∧ quotient % 2 = 1) then quotient + 1 else quotient

/-- The span of a number of seconds that is not negative, rounded to nanoseconds.  There is none
for NaN and for `2 ^ 64` seconds or more. -/
def ofSeconds? (x : Float) : Option TimeSpan := do
  let p ← Binary64.parts? x
  match p.exponent with
  | .ofNat k =>
    let whole := p.significand * Nat.pow 2 k
    if whole < 18446744073709551616 then some ⟨whole * perSecond⟩ else none
  | .negSucc k => some ⟨divideToEven (p.significand * perSecond) (Nat.pow 2 (k + 1))⟩

/-- The span as a number of seconds: the whole seconds and what is left of them are turned into
numbers and added. -/
def seconds (t : TimeSpan) : Float :=
  Float.ofNat (t.nanoseconds / perSecond) +
    Float.ofNat (t.nanoseconds % perSecond) / Float.ofNat perSecond

end TimeSpan

end AssessmentItem
