import Mathlib.Data.Int.ModEq
import Mathlib.Data.Set.Function
import Mathlib.Order.Interval.Set.Defs
import Mathlib.Tactic.IntervalCases
import Mathlib.Tactic.Ring
import AssessmentItem.Proofs.Evaluation.Applications
import AssessmentItem.Proofs.Integer

/-!
# Random integers of a range

A random integer is drawn by its index in a range, counted in steps from the least number.  The
limits are checked in such a way that nothing after the checks can overflow: neither the length of
the range in steps nor the number at an index of it.  The numbers at the indices are the numbers of
the range that are as far from the least one as some steps, each of them at one index.

## Main definitions

* `Evaluation.IsRange` : the limits and the step of a range.
* `Evaluation.lastIndex`, `Evaluation.rangeGrid` : the indices and the numbers of a range.
* `Evaluation.RandomIntegerLaws` : what a random integer is.

## Main results

* `Evaluation.rangeSteps_eq_ok`, `Evaluation.exists_rangeSteps_eq_error` : when a range is accepted.
* `Evaluation.toInt_rangeNumber` : the number at an index is exact.
* `Evaluation.bijOn_rangeNumber` : the numbers at the indices are those of the range.
* `Evaluation.randomIntegerLaws` : random integers, from every generator.
-/

namespace AssessmentItem.Evaluation

/-- The limits `min` and `max` and the `step` of a range. Its length has to be an integer of 64
bits. -/
structure IsRange (min max step : Int64) : Prop where
  pos : 1 ≤ step.toInt
  le : min.toInt ≤ max.toInt
  fits : max.toInt - min.toInt < 2 ^ 63

/-- The index of the greatest number of a range. -/
def lastIndex (min max step : Int64) : ℕ := ((max.toInt - min.toInt) / step.toInt).toNat

/-- The numbers from `min` to `max` that are as far from `min` as some steps. -/
def rangeGrid (min max step : Int64) : Set Int64 :=
  {n | min ≤ n ∧ n ≤ max ∧ n.toInt ≡ min.toInt [ZMOD step.toInt]}

variable {min max step : Int64} {k : ℕ}

theorem not_isRange_iff : ¬IsRange min max step ↔
    step.toInt < 1 ∨ max.toInt < min.toInt ∨ 2 ^ 63 ≤ max.toInt - min.toInt := by
  constructor
  · intro h
    by_contra hnone
    exact h ⟨by omega, by omega, by omega⟩
  · rintro h ⟨hpos, hle, hfits⟩
    omega

/-! ### Arithmetic in 64 bits -/

namespace IsRange

theorem toInt_span (h : IsRange min max step) : (max - min).toInt = max.toInt - min.toInt := by
  obtain ⟨-, hle, hfits⟩ := h
  rw [Int64.toInt_sub, Int.bmod_eq_of_le (by omega) (by omega)]

/-- The quotient of a distance `max - min` that is not negative is rounded down, and no greater. -/
theorem toInt_quotient (h : IsRange min max step) :
    ((max - min) / step).toInt = (max.toInt - min.toInt) / step.toInt := by
  obtain ⟨hpos, hle, hfits⟩ := h
  have hspan : 0 ≤ max.toInt - min.toInt := by omega
  have hnonneg : 0 ≤ (max.toInt - min.toInt) / step.toInt := Int.ediv_nonneg hspan (by omega)
  have hquotient : (max.toInt - min.toInt) / step.toInt ≤ max.toInt - min.toInt :=
    Int.ediv_le_self _ hspan
  rw [Int64.toInt_div, toInt_span ⟨hpos, hle, hfits⟩, Int.tdiv_eq_ediv_of_nonneg hspan,
    Int.bmod_eq_of_le (by omega) (by omega)]

theorem cast_lastIndex (h : IsRange min max step) :
    (lastIndex min max step : ℤ) = (max.toInt - min.toInt) / step.toInt := by
  obtain ⟨hpos, hle, -⟩ := h
  exact Int.toNat_of_nonneg (Int.ediv_nonneg (by omega) (by omega))

/-- Steps up to `lastIndex` do not lead out of the range. -/
theorem mul_step_le (h : IsRange min max step) (hk : k ≤ lastIndex min max step) :
    0 ≤ k * step.toInt ∧ k * step.toInt ≤ max.toInt - min.toInt := by
  have hpos := h.pos
  have hk : (k : ℤ) ≤ (max.toInt - min.toInt) / step.toInt := h.cast_lastIndex ▸ mod_cast hk
  constructor
  · exact Int.mul_nonneg (by omega) (by omega)
  · calc k * step.toInt ≤ (max.toInt - min.toInt) / step.toInt * step.toInt :=
          Int.mul_le_mul_of_nonneg_right hk (by omega)
      _ ≤ max.toInt - min.toInt := Int.ediv_mul_le _ (by omega)

theorem toInt_index (h : IsRange min max step) (hk : k ≤ lastIndex min max step) :
    (Int64.ofNat k).toInt = k := by
  obtain ⟨hpos, hle, hfits⟩ := h
  have hquotient : (max.toInt - min.toInt) / step.toInt ≤ max.toInt - min.toInt :=
    Int.ediv_le_self _ (by omega)
  have hlast := cast_lastIndex ⟨hpos, hle, hfits⟩
  exact Int64.toInt_ofNat_of_lt (by omega)

theorem toInt_offset (h : IsRange min max step) (hk : k ≤ lastIndex min max step) :
    (Int64.ofNat k * step).toInt = k * step.toInt := by
  obtain ⟨hnonneg, hle⟩ := h.mul_step_le hk
  have hfits := h.fits
  rw [Int64.toInt_mul, h.toInt_index hk, Int.bmod_eq_of_le (by omega) (by omega)]

end IsRange

/-- The number that `rangeNumber` gives for an index is exact. -/
theorem toInt_rangeNumber (h : IsRange min max step) (hk : k ≤ lastIndex min max step) :
    (rangeNumber min step k).toInt = min.toInt + k * step.toInt := by
  obtain ⟨hnonneg, hle⟩ := h.mul_step_le hk
  have hlow := min.le_toInt
  have hhigh := max.toInt_lt
  rw [rangeNumber, Int64.toInt_add, h.toInt_offset hk, Int.bmod_eq_of_le (by omega) (by omega)]

/-! ### The numbers of a range -/

theorem rangeNumber_mem (h : IsRange min max step) (hk : k ≤ lastIndex min max step) :
    rangeNumber min step k ∈ rangeGrid min max step := by
  obtain ⟨hnonneg, hle⟩ := h.mul_step_le hk
  have hvalue := toInt_rangeNumber h hk
  refine ⟨Int64.le_iff_toInt_le.2 (by omega), Int64.le_iff_toInt_le.2 (by omega), ?_⟩
  rw [hvalue]
  exact Int.modEq_iff_dvd.2 ⟨-k, by ring⟩

theorem exists_rangeNumber_eq (h : IsRange min max step) {n : Int64}
    (hn : n ∈ rangeGrid min max step) :
    ∃ k ≤ lastIndex min max step, rangeNumber min step k = n := by
  obtain ⟨hlow, hhigh, hmod⟩ := hn
  rw [Int64.le_iff_toInt_le] at hlow hhigh
  obtain ⟨j, hj⟩ := Int.modEq_iff_dvd.1 hmod.symm
  have hpos := h.pos
  -- The distance from the least number in steps is the index.
  have hnonneg : 0 ≤ j := by
    by_contra hneg
    have := Int.mul_neg_of_pos_of_neg (show 0 < step.toInt by omega) (not_le.1 hneg)
    omega
  obtain ⟨k, rfl⟩ := Int.eq_ofNat_of_zero_le hnonneg
  have hk : (k : ℤ) ≤ (max.toInt - min.toInt) / step.toInt := by
    rw [Int.le_ediv_iff_mul_le (by omega), mul_comm]
    omega
  have hk : k ≤ lastIndex min max step := by
    rw [← h.cast_lastIndex] at hk
    exact_mod_cast hk
  refine ⟨k, hk, Int64.toInt_inj.1 ?_⟩
  rw [toInt_rangeNumber h hk, mul_comm]
  omega

/-- The numbers at the indices up to `lastIndex` are those of `rangeGrid`, each of them at one
index. -/
theorem bijOn_rangeNumber (h : IsRange min max step) :
    Set.BijOn (rangeNumber min step) (Set.Iic (lastIndex min max step))
      (rangeGrid min max step) := by
  refine ⟨fun k hk ↦ rangeNumber_mem h hk, fun k hk j hj heq ↦ ?_, fun n hn ↦ ?_⟩
  · have hvalue := congrArg Int64.toInt heq
    rw [toInt_rangeNumber h hk, toInt_rangeNumber h hj] at hvalue
    have hpos := h.pos
    exact_mod_cast mul_right_cancel₀ (show step.toInt ≠ 0 by omega) (add_left_cancel hvalue)
  · exact exists_rangeNumber_eq h hn

/-! ### The check of a range -/

theorem rangeSteps_eq_ok (h : IsRange min max step) :
    rangeSteps min max step = .ok (lastIndex min max step) := by
  have hstep : ¬step < 1 := by
    rw [Int64.lt_iff_toInt_lt, Int64.toInt_one]
    exact not_lt.2 h.pos
  have hmax : ¬max < min := by
    rw [Int64.lt_iff_toInt_lt]
    exact not_lt.2 h.le
  have hspan : Integer.sub? max min = some (max - min) :=
    Integer.fit?_eq_some_iff.2 h.toInt_span
  rw [rangeSteps, if_neg hstep, if_neg hmax, hspan, lastIndex, ← h.toInt_quotient]
  rfl

theorem exists_rangeSteps_eq_error (h : ¬IsRange min max step) :
    ∃ fault, rangeSteps min max step = .error fault := by
  by_cases hstep : step < 1
  · rw [rangeSteps, if_pos hstep]
    exact ⟨_, rfl⟩
  · by_cases hmax : max < min
    · rw [rangeSteps, if_neg hstep, if_pos hmax]
      exact ⟨_, rfl⟩
    · have hwide : Integer.sub? max min = none := by
        rw [Int64.lt_iff_toInt_lt, Int64.toInt_one, not_lt] at hstep
        rw [Int64.lt_iff_toInt_lt, not_lt] at hmax
        exact Integer.fit?_eq_none_iff.2 fun hrange ↦ h ⟨hstep, hmax, hrange.2⟩
      rw [rangeSteps, if_neg hstep, if_neg hmax, hwide]
      exact ⟨_, rfl⟩

/-! ### Random integers -/

section RandomIntegers

variable {store : Store} {lowest highest width : Literal Int64}

/-- What a `.randomInteger` of limits and a step is, wherever it stands and from every generator. -/
structure RandomIntegerLaws (store : Store) (lowest highest width : Literal Int64)
    (min max step : Int64) : Prop where
  /-- There is none if and only if the `step` is not positive, the limits stand in the wrong order
  or the range is too long. -/
  fails : ∀ (scope : Scope) (id : NodeId) (children : List ExpressionTree) (g : Generator),
    scope.store = store →
      ((∃ e g', (evaluate scope (.node id (.leaf (.randomInteger lowest highest width))
          children)).run g = (.error e, g')) ↔
        step.toInt < 1 ∨ max.toInt < min.toInt ∨ 2 ^ 63 ≤ max.toInt - min.toInt)
  /-- Else it is `rangeNumber` of the index that is drawn. -/
  gives : IsRange min max step →
    ∀ (scope : Scope) (id : NodeId) (children : List ExpressionTree) (g : Generator),
      scope.store = store →
        ∃ k g', g.below (lastIndex min max step + 1) = (k, g') ∧ k ≤ lastIndex min max step ∧
          (evaluate scope (.node id (.leaf (.randomInteger lowest highest width)) children)).run g =
            (.ok (.integer (rangeNumber min step k)), g')
  /-- The length `max - min` of the range is exact, also in steps. -/
  span : IsRange min max step → (max - min).toInt = max.toInt - min.toInt ∧
    ((max - min) / step).toInt = (max.toInt - min.toInt) / step.toInt ∧
    (lastIndex min max step : ℤ) = (max.toInt - min.toInt) / step.toInt
  /-- The number at every index up to `lastIndex` is exact, and so is everything on the way to
  it. -/
  exact : IsRange min max step → ∀ k ≤ lastIndex min max step,
    (Int64.ofNat k).toInt = k ∧ (Int64.ofNat k * step).toInt = k * step.toInt ∧
      (rangeNumber min step k).toInt = min.toInt + k * step.toInt
  /-- The numbers at the indices are those of `rangeGrid`, each of them at one index. -/
  covers : IsRange min max step → Set.BijOn (rangeNumber min step)
    (Set.Iic (lastIndex min max step)) (rangeGrid min max step)

theorem ends_evaluate_randomInteger {scope : Scope} {id : NodeId} {children : List ExpressionTree}
    {g : Generator} {Q : Value → Generator → Prop} {E : EvaluationError → Generator → Prop}
    (hmin : literalInteger scope.store lowest = .ok min)
    (hmax : literalInteger scope.store highest = .ok max)
    (hstep : literalInteger scope.store width = .ok step) :
    Ends (evaluate scope (.node id (.leaf (.randomInteger lowest highest width)) children)) g Q E ↔
      Gives (rangeSteps min max step)
        (fun n ↦ Q (.integer (rangeNumber min step (g.below (n + 1)).1)) (g.below (n + 1)).2)
        fun fault ↦ E ⟨scope.site id (.leaf (.randomInteger lowest highest width)), fault⟩ g := by
  simp only [evaluate, ends_within, leafValue, randomInteger, ends_bind, ends_settled, hmin, hmax,
    hstep, gives_ok, ends_drawBelow, ends_pure]

/-- The laws of a `.randomInteger` whose limits and step are given, or held by variables. -/
theorem randomIntegerLaws (hmin : literalInteger store lowest = .ok min)
    (hmax : literalInteger store highest = .ok max)
    (hstep : literalInteger store width = .ok step) :
    RandomIntegerLaws store lowest highest width min max step where
  fails := by
    rintro scope id children g rfl
    rw [← not_isRange_iff]
    constructor
    · rintro ⟨e, g', hrun⟩ h
      rw [← ends_error_iff, ends_evaluate_randomInteger hmin hmax hstep, rangeSteps_eq_ok h] at hrun
      exact hrun
    · intro h
      obtain ⟨fault, hfault⟩ := exists_rangeSteps_eq_error h
      refine ⟨⟨scope.site id (.leaf (.randomInteger lowest highest width)), fault⟩, g, ?_⟩
      rw [← ends_error_iff, ends_evaluate_randomInteger hmin hmax hstep, hfault]
      exact ⟨rfl, rfl⟩
  gives := by
    rintro h scope id children g rfl
    refine ⟨_, _, rfl, Nat.lt_succ_iff.1 (Generator.below_lt (Nat.succ_pos _) g), ?_⟩
    rw [← ends_eq_iff, ends_evaluate_randomInteger hmin hmax hstep, rangeSteps_eq_ok h]
    exact ⟨rfl, rfl⟩
  span h := ⟨h.toInt_span, h.toInt_quotient, h.cast_lastIndex⟩
  exact h k hk := ⟨h.toInt_index hk, h.toInt_offset hk, toInt_rangeNumber h hk⟩
  covers := bijOn_rangeNumber

/-- A store in which the template variable `LOWEST` holds the smallest integer. -/
def smallestStore : Store :=
  ⟨[.fresh ⟨"LOWEST", .single, some .integer, .integer Int64.minValue, .template ⟨false, false⟩⟩]⟩

/-- Below zero the greatest integer is a step from the smallest one to the last, and the range is as
long as it can be: with zero as well it is too long. -/
theorem randomIntegerLaws_smallest :
    literalInteger smallestStore (.named "LOWEST") = .ok Int64.minValue ∧
      literalInteger smallestStore (.given 9223372036854775807) = .ok 9223372036854775807 ∧
      (∀ (scope : Scope) (id : NodeId) (children : List ExpressionTree) (g : Generator),
        scope.store = smallestStore →
          ∃ n g', (evaluate scope (.node id (.leaf (.randomInteger (.named "LOWEST") (.given (-1))
              (.given 9223372036854775807))) children)).run g = (.ok (.integer n), g') ∧
            (n = Int64.minValue ∨ n = -1)) ∧
      ∀ (scope : Scope) (id : NodeId) (children : List ExpressionTree) (g : Generator),
        scope.store = smallestStore →
          ∃ e g', (evaluate scope (.node id (.leaf (.randomInteger (.named "LOWEST") (.given 0)
            (.given 9223372036854775807))) children)).run g = (.error e, g') := by
  have hmin : literalInteger smallestStore (.named "LOWEST") = .ok Int64.minValue := rfl
  have hstep : literalInteger smallestStore (.given 9223372036854775807) =
      .ok 9223372036854775807 := rfl
  refine ⟨hmin, hstep, fun scope id children g hstore ↦ ?_, fun scope id children g hstore ↦ ?_⟩
  · have laws := randomIntegerLaws hmin
      (rfl : literalInteger smallestStore (.given (-1)) = .ok (-1)) hstep
    obtain ⟨k, g', -, hk, hrun⟩ :=
      laws.gives ⟨by decide, by decide, by decide⟩ scope id children g hstore
    refine ⟨_, g', hrun, ?_⟩
    have hlast : lastIndex Int64.minValue (-1) 9223372036854775807 = 1 := by decide
    rw [hlast] at hk
    interval_cases k
    · exact .inl (by decide)
    · exact .inr (by decide)
  · have laws := randomIntegerLaws hmin
      (rfl : literalInteger smallestStore (.given 0) = .ok 0) hstep
    exact (laws.fails scope id children g hstore).2 (.inr (.inr (by decide)))

end RandomIntegers

end AssessmentItem.Evaluation
