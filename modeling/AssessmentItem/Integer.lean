/-!
# Integers of 64 bits

The integers of an item are those of 64 bits with a sign.  An operation whose exact result is
not one of them has no result.

## Main definitions

* `Integer.fit?` : an exact integer as one of 64 bits, if it is one.
* `Integer.add?`, `Integer.sub?`, `Integer.mul?`, `Integer.abs?` : exact arithmetic.
* `Integer.div?`, `Integer.rem?` : division towards zero and what is left.
* `Integer.floorDiv?`, `Integer.floorMod?` : division towards negative infinity and what is left.
* `Integer.euclid?` : the Euclidean algorithm.
* `Integer.gcd?`, `Integer.lcm?` : greatest common divisor and least common multiple.

## Main results

* `Integer.fit?_eq_some_iff` : the integers that fit are those from `-2 ^ 63` to `2 ^ 63 - 1`.
-/

namespace AssessmentItem.Integer

/-- An exact integer as an `Int64`, if it lies in their range. -/
def fit? (n : Int) : Option Int64 :=
  if -9223372036854775808 ≤ n ∧ n < 9223372036854775808 then some (Int64.ofInt n) else none

/-- The integers that fit are those from `-2 ^ 63` to `2 ^ 63 - 1`, and they keep their value. -/
theorem fit?_eq_some_iff {n : Int} {a : Int64} : fit? n = some a ↔ a.toInt = n := by
  have hlo := a.le_toInt
  have hhi := a.toInt_lt
  unfold fit?
  constructor
  · intro h
    split at h
    · rename_i hn
      obtain rfl := Option.some.inj h
      exact Int64.toInt_ofInt_of_le hn.1 hn.2
    · simp at h
  · rintro rfl
    rw [if_pos ⟨hlo, hhi⟩, Int64.ofInt_toInt]

@[simp] theorem fit?_toInt (a : Int64) : fit? a.toInt = some a := fit?_eq_some_iff.2 rfl

/-! ### Arithmetic -/

/-- The exact sum, if it fits (`fit?`). -/
def add? (a b : Int64) : Option Int64 := fit? (a.toInt + b.toInt)

/-- The exact difference, if it fits. -/
def sub? (a b : Int64) : Option Int64 := fit? (a.toInt - b.toInt)

/-- The exact product, if it fits. -/
def mul? (a b : Int64) : Option Int64 := fit? (a.toInt * b.toInt)

/-- The magnitude of `a`, which the smallest integer does not have. -/
def abs? (a : Int64) : Option Int64 := fit? a.toInt.natAbs

/-- The quotient rounded towards zero.  There is none for `b = 0` or if it does not fit. -/
def div? (a b : Int64) : Option Int64 :=
  if b = 0 then none else fit? (a.toInt.tdiv b.toInt)

/-- What division towards zero leaves over.  There is no remainder where `div?` has no quotient. -/
def rem? (a b : Int64) : Option Int64 :=
  (div? a b).bind fun _ ↦ fit? (a.toInt.tmod b.toInt)

/-- The remainder of `rem?` is smaller than the divisor. -/
theorem natAbs_lt_of_rem? {a b r : Int64} (h : rem? a b = some r) :
    r.toInt.natAbs < b.toInt.natAbs := by
  obtain ⟨q, hq, hr⟩ := Option.bind_eq_some_iff.1 h
  have hb : b ≠ 0 := by
    rintro rfl
    rw [div?, if_pos rfl] at hq
    nomatch hq
  have hzero : b.toInt ≠ 0 := fun hzero ↦ hb (Int64.toInt_inj.1 hzero)
  rw [fit?_eq_some_iff.1 hr, Int.natAbs_tmod]
  exact Nat.mod_lt _ (Int.natAbs_pos.2 hzero)

/-- The quotient rounded towards negative infinity: one less than `div?` if something is left over
and the signs differ. -/
def floorDiv? (a b : Int64) : Option Int64 := do
  let quotient ← div? a b
  if a.toInt.tmod b.toInt ≠ 0 ∧ (a < 0 ↔ ¬b < 0) then sub? quotient 1 else some quotient

/-- What is left of `a` when `b` times `floorDiv? a b` is taken away.  That multiple has to fit as
well. -/
def floorMod? (a b : Int64) : Option Int64 := do
  let quotient ← floorDiv? a b
  let multiple ← mul? b quotient
  sub? a multiple

/-! ### Common divisors and multiples -/

/-- The Euclidean algorithm: `b` and what it leaves over take the places of `a` and `b` until
nothing is left over.  It ends without a result where `rem?` has none. -/
def euclid? (a b : Int64) : Option Int64 :=
  if b = 0 then some a
  else
    match _ : rem? a b with
    | some r => euclid? b r
    | none => none
termination_by b.toInt.natAbs
decreasing_by exact natAbs_lt_of_rem? ‹_›

/-- The greatest common divisor; both magnitudes have to fit (`abs?`). -/
def gcd? (a b : Int64) : Option Int64 := do
  let a' ← abs? a
  let b' ← abs? b
  euclid? a' b'

/-- The least common multiple, zero if `a` or `b` is zero; the multiple has to fit. -/
def lcm? (a b : Int64) : Option Int64 :=
  if a = 0 ∨ b = 0 then some 0
  else do
    let divisor ← gcd? a b
    let multiple ← fit? (a.toInt / divisor.toInt * b.toInt)
    abs? multiple

end AssessmentItem.Integer
