import AssessmentItem.Integer

/-!
# Integer literals

An integer literal is an optional sign and at least one decimal digit.  It is read from left to
right, and the first character that is no digit, or that takes the number out of the 64-bit
range, decides what is wrong with it.

## Main definitions

* `Integer.Fault` : what can be wrong with an integer literal.
* `Integer.read` : the integer that a literal writes.
-/

namespace AssessmentItem.Integer

/-- What can be wrong with an integer literal; the first fault from the left is reported. -/
inductive Fault
  | empty
  | invalidDigit
  | tooLarge
  | tooSmall
  deriving DecidableEq

/-- The wording of a `Fault`. -/
def Fault.message : Fault → String
  | .empty => "cannot parse integer from empty string"
  | .invalidDigit => "invalid digit found in string"
  | .tooLarge => "number too large to fit in target type"
  | .tooSmall => "number too small to fit in target type"

/-- The value of a decimal digit `c`. -/
def digit? (c : Char) : Option Nat :=
  if '0' ≤ c ∧ c ≤ '9' then some (c.toNat - '0'.toNat) else none

/-- Reads digits after those that gave `n`; `sign` is 1 or -1. -/
def readDigits (sign : Int) (n : Int64) : List Char → Except Fault Int64
  | [] => .ok n
  | c :: cs =>
    match digit? c with
    | none => .error .invalidDigit
    | some d =>
      match fit? (n.toInt * 10 + sign * d) with
      | none => .error (if sign < 0 then .tooSmall else .tooLarge)
      | some next => readDigits sign next cs

/-- The integer that a literal writes, with an optional sign; `1` and `+01` are read alike. -/
def read : List Char → Except Fault Int64
  | [] => .error .empty
  | ['+'] => .error .invalidDigit
  | ['-'] => .error .invalidDigit
  | '+' :: cs => readDigits 1 0 cs
  | '-' :: cs => readDigits (-1) 0 cs
  | cs => readDigits 1 0 cs

/-- The decimal text of `n`, with a minus sign below zero. -/
def text (n : Int64) : String := toString n.toInt

end AssessmentItem.Integer
