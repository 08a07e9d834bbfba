/-!
# Spans of characters

A set of characters is listed by spans: every `step`-th code point from a first to a last one.
The letters of an alphabet whose capital and small letters alternate form a span of step two.

## Main definitions

* `Span` : a first and a last code point, and a step.
* `Span.has`, `Span.anyHas` : whether a span, or one of several, has a code point.
-/

namespace AssessmentItem.Unicode

/-- Every `step`-th code point from `first` to `last`. -/
structure Span where
  first : Nat
  last : Nat
  step : Nat
  deriving DecidableEq

/-- Whether the span `s` has the code point `n`. -/
def Span.has (s : Span) (n : Nat) : Bool :=
  s.first ≤ n && n ≤ s.last && (n - s.first) % s.step == 0

/-- Whether one of the `spans` has the code point `n`. -/
def Span.anyHas (spans : List Span) (n : Nat) : Bool := spans.any (·.has n)

/-- A `span` whose code points are all moved by the same `offset`. -/
structure Shift where
  span : Span
  offset : Int
  deriving DecidableEq

/-- Where the first of the `shifts` whose span has `n` moves it to. -/
def Shift.image? (shifts : List Shift) (n : Nat) : Option Nat :=
  (shifts.find? (·.span.has n)).map fun s ↦ (Int.ofNat n + s.offset).toNat

/-- The code points that a list of shifts moves to `n`. -/
def Shift.sources (shifts : List Shift) (n : Nat) : List Nat :=
  shifts.filterMap fun s ↦
    let source := (Int.ofNat n - s.offset).toNat
    if s.span.has source && Int.ofNat source + s.offset == n then some source else none

end AssessmentItem.Unicode
