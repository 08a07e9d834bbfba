import AssessmentItem.Json.Basic
import AssessmentItem.Integer.Literal

/-!
# JSON numbers

The digits of a number are gathered into a significand of 64 bits and an exponent; digits that no
longer fit count for their place only.  A number without point and exponent that fits into 64
bits is an integer, any other the significand scaled by a power of ten.  A number beyond the
largest floating-point number is refused.

## Main definitions

* `Json.scaled?` : a significand scaled by a power of ten.
* `Json.number?` : the number at the front of a text.
-/

namespace AssessmentItem.Json

/-- A power of ten up to `10 ^ 308`. -/
def powerOfTen (n : Nat) : Float := Float.ofScientific 1 false n

/-- Divides by powers of ten, of which the exponent counts how many; `fuel` bounds the divisions
by `10 ^ 308`, after two of which only zero is left. -/
def divideByPower (x : Float) (exponent : Nat) : Nat → Float
  | 0 => 0
  | fuel + 1 =>
    if exponent ≤ 308 then x / powerOfTen exponent
    else if x == 0 then x
    else divideByPower (x / powerOfTen 308) (exponent - 308) fuel

/-- The number `significand * 10 ^ exponent` with its sign, if it does not pass the largest
number. -/
def scaled? (minus : Bool) (significand : Nat) (exponent : Int) : Option Float :=
  let x := Float.ofNat significand
  let magnitude? : Option Float :=
    match exponent with
    | .ofNat n =>
      if n ≤ 308 then
        let y := x * powerOfTen n
        if y.isInf then none else some y
      else if x == 0 then some x
      else none
    | .negSucc n => some (divideByPower x (n + 1) 4)
  magnitude?.map fun y ↦ if minus then -y else y

/-- A significand with the digits that fit into 64 bits, and the places that were `dropped`. -/
structure Significand where
  value : Nat
  dropped : Nat
  /-- Whether a digit did not fit, from which on none is taken. -/
  full : Bool

/-- Takes digits into a significand.  Once a digit does not fit, it is `full` and no later one is
taken. -/
def Significand.takeDigits (s : Significand) : List Char → Significand
  | [] => s
  | c :: cs =>
    let d := c.toNat - '0'.toNat
    if s.full then Significand.takeDigits { s with dropped := s.dropped + 1 } cs
    else if s.value * 10 + d < 18446744073709551616 then
      Significand.takeDigits { s with value := s.value * 10 + d } cs
    else Significand.takeDigits { s with dropped := s.dropped + 1, full := true } cs

/-- The exponent that the digits `cs` give, at most `2 ^ 31`; beyond that only its size counts. -/
def exponentValue (cs : List Char) : Nat :=
  min (cs.foldl (fun n c ↦ 10 * n + (c.toNat - '0'.toNat)) 0) 2147483648

/-- What follows the digits before and after the point: an exponent after `e` or `E`, or nothing. -/
def withExponent? (minus : Bool) (significand : Nat) (exponent : Int) (cs : List Char) :
    Option (Json × List Char) :=
  match cs with
  | c :: rest =>
    if c = 'e' ∨ c = 'E' then
      let (down, rest) :=
        match rest with
        | '+' :: rest => (false, rest)
        | '-' :: rest => (true, rest)
        | rest => (false, rest)
      let digits := rest.takeWhile Char.isDigit
      if digits.isEmpty then none
      else
        let shift : Int := exponentValue digits
        let exponent := if down then exponent - shift else exponent + shift
        (scaled? minus significand exponent).map fun x ↦ (float x, rest.drop digits.length)
    else (scaled? minus significand exponent).map fun x ↦ (float x, cs)
  | [] => (scaled? minus significand exponent).map fun x ↦ (float x, [])

/-- An integer without sign, or its negation; `-0` and what does not fit into 64 bits is a
`float`. -/
def integer (minus : Bool) (n : Nat) : Json :=
  if !minus then natural (UInt64.ofNat n)
  else if 0 < n ∧ n ≤ 9223372036854775808 then negative (Int64.ofInt (-n))
  else float (-Float.ofNat n)

/-- The number at the front of a text, and the text after it. -/
def number? (cs : List Char) : Option (Json × List Char) := do
  let (minus, cs) :=
    match cs with
    | '-' :: rest => (true, rest)
    | cs => (false, cs)
  let whole := cs.takeWhile Char.isDigit
  let rest := cs.drop whole.length
  if whole.isEmpty || (whole.head? == some '0' && whole.length != 1) then none
  else
    let s := Significand.takeDigits ⟨0, 0, false⟩ whole
    match rest with
    | '.' :: rest =>
      let fraction := rest.takeWhile Char.isDigit
      if fraction.isEmpty then none
      else
        let taken := Significand.takeDigits { s with dropped := 0, full := false } fraction
        let places := fraction.length - taken.dropped
        withExponent? minus taken.value (Int.ofNat s.dropped - places) (rest.drop fraction.length)
    | c :: _ =>
      if c = 'e' ∨ c = 'E' ∨ s.full then withExponent? minus s.value s.dropped rest
      else some (integer minus s.value, rest)
    | [] =>
      if s.full then withExponent? minus s.value s.dropped rest
      else some (integer minus s.value, rest)

end AssessmentItem.Json
