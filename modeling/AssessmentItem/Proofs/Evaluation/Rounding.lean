import AssessmentItem.Proofs.Evaluation.Comparison
import AssessmentItem.Proofs.Rounding

/-!
# Rounding with any number of figures

The figures of a rounding are any integer of 64 bits that its mode accepts, written in the
expression or held by a variable, and a value is given for all of them.  The number of places that
significant figures have is exact unless the figures are close to the greatest integer and the
number that is rounded is below one.  Then it wraps around, and what comes of it is neither a number
of places nor the exponent of a power of ten, so the number is returned as it is.

## Main definitions

* `Evaluation.AnyFiguresLaws` : what a rounding does with figures that are accepted.

## Main results

* `Evaluation.anyFiguresLaws` : rounding with any number of figures.
-/

namespace AssessmentItem.Evaluation

variable {store : Store} {mode : RoundingMode} {l : Literal Int64} {figures : Int64}

/-- What `.roundTo` and `.equalRounded` do with `figures` that the `mode` accepts. -/
structure AnyFiguresLaws (store : Store) (mode : RoundingMode) (l : Literal Int64)
    (figures : Int64) : Prop where
  /-- With `.roundTo` there is a value. -/
  rounds : ∀ x : Number, ∃ y, roundTo x.toFloat mode figures = .ok y ∧
    Yields store (.roundTo mode l) [x.toValue] (.float y)
  /-- With `.equalRounded` there is a value. -/
  compares : ∀ x y : Number, ∃ b, equalRounded x.toFloat y.toFloat mode figures = .ok b ∧
    Yields store (.equalRounded mode l) [x.toValue, y.toValue] (.boolean b)
  /-- The number `figures - 1` is exact. -/
  first : mode = .significantFigures → (figures - 1).toInt = figures.toInt - 1
  /-- The number of places that `placesOf` gives is exact if and only if it fits. -/
  exact : mode = .significantFigures → ∀ d : Decimal, d.mantissa ≠ 0 →
    ((d.placesOf figures).toInt = d.exactPlaces figures ↔ d.exactPlaces figures < 2 ^ 63)
  /-- It fits unless the number is below one and the `figures` are close to the greatest integer. -/
  fits : ∀ d : Decimal, d.mantissa ≠ 0 →
    0 ≤ d.leadingExponent ∨ figures.toInt ≤ 2 ^ 63 - 28 → d.exactPlaces figures < 2 ^ 63
  /-- If it is less than zero its opposite is exact, and the power of ten is a decimal number that
  `powerOfTen?` gives. -/
  power : mode = .significantFigures → ∀ d : Decimal, d.mantissa ≠ 0 → d.exactPlaces figures < 0 →
    ∃ k : ℕ, (-d.placesOf figures).toInt = k ∧ d.exactPlaces figures = -k ∧
      Decimal.powerOfTen? (-d.placesOf figures) = some (10 ^ k) ∧ 10 ^ k < 2 ^ 96
  /-- The number `x` is returned as it is if the number of places does not fit. -/
  wrapped : mode = .significantFigures → ∀ x d, Decimal.ofFloat? x = some d → d.mantissa ≠ 0 →
    2 ^ 63 ≤ d.exactPlaces figures → roundTo x mode figures = .ok x

theorem exists_roundTo (h : mode.least ≤ figures.toInt) (x : Float) :
    ∃ y, roundTo x mode figures = .ok y := ⟨_, roundTo_eq x mode h⟩

theorem exists_equalRounded (h : mode.least ≤ figures.toInt) (x y : Float) :
    ∃ b, equalRounded x y mode figures = .ok b := by
  obtain ⟨x', hx⟩ := exists_roundTo h x
  obtain ⟨y', hy⟩ := exists_roundTo h y
  rw [equalRounded, hx, hy]
  exact ⟨_, rfl⟩

theorem yields_roundTo (hl : literalInteger store l = .ok figures) (x : Number) {y : Float}
    (h : roundTo x.toFloat mode figures = .ok y) :
    Yields store (.roundTo mode l) [x.toValue] (.float y) := by
  refine yields_of_combine nofun rfl (fun _ ↦ ?_) ?_ ?_
  · exact List.forall_mem_singleton.2 (by cases x <;> rfl)
  · refine List.forall_mem_singleton.2 ?_
    cases x <;> exact Signature.admits_single (.head _) rfl
  · change (literalInteger store l >>= fun figures ↦ roundNumber mode figures x.toValue) = _
    rw [hl]
    change roundNumber mode figures x.toValue = _
    rw [roundNumber, readFloat_toValue]
    change ((roundTo x.toFloat mode figures).mapError Fault.rounding >>= _) = _
    rw [h]
    rfl

theorem yields_equalRounded (hl : literalInteger store l = .ok figures) (x y : Number) {b : Bool}
    (h : equalRounded x.toFloat y.toFloat mode figures = .ok b) :
    Yields store (.equalRounded mode l) [x.toValue, y.toValue] (.boolean b) := by
  refine yields_of_numbers rfl x y ?_
  change (literalInteger store l >>= fun figures ↦
    equalRoundedNumbers mode figures x.toValue y.toValue) = _
  rw [hl]
  change equalRoundedNumbers mode figures x.toValue y.toValue = _
  rw [equalRoundedNumbers, readFloat_toValue, readFloat_toValue]
  change ((equalRounded x.toFloat y.toFloat mode figures).mapError Fault.rounding >>= _) = _
  rw [h]
  rfl

/-- Rounding with any number of `figures` that is accepted. -/
theorem anyFiguresLaws (hl : literalInteger store l = .ok figures)
    (h : mode.least ≤ figures.toInt) : AnyFiguresLaws store mode l figures where
  rounds x := by
    obtain ⟨y, hy⟩ := exists_roundTo h x.toFloat
    exact ⟨y, hy, yields_roundTo hl x hy⟩
  compares x y := by
    obtain ⟨b, hb⟩ := exists_equalRounded h x.toFloat y.toFloat
    exact ⟨b, hb, yields_equalRounded hl x y hb⟩
  first := by
    rintro rfl
    exact Decimal.toInt_sub_one h
  exact := by
    rintro rfl d hd
    refine ⟨fun heq ↦ ?_, Decimal.toInt_placesOf hd h⟩
    rw [← heq]
    exact (d.placesOf figures).toInt_lt
  fits d hd hsmall := by
    obtain ⟨hlow, -⟩ := Decimal.leadingExponent_bounds hd
    have hlt := figures.toInt_lt
    rw [Decimal.exactPlaces]
    omega
  power := by
    rintro rfl d hd hneg
    obtain ⟨k, hk⟩ := Int.eq_ofNat_of_zero_le (neg_nonneg.2 hneg.le)
    rw [neg_eq_iff_eq_neg] at hk
    refine ⟨k, ?_, hk, Decimal.powerOfTen?_placesOf hd h hk (by omega)⟩
    rw [Decimal.toInt_neg_placesOf hd h hneg, hk, neg_neg]
  wrapped := by
    rintro rfl x d hx hd hwraps
    refine roundTo_eq_self h fun d' hd' ↦ ?_
    obtain rfl : d = d' := Option.some_inj.1 (hx.symm.trans hd')
    exact Decimal.roundFigures?_of_wrapped hd h hwraps

/-- A store in which the template variable `FIGURES` holds `n`. -/
def storeHolding (n : Int64) : Store :=
  ⟨[.fresh ⟨"FIGURES", .single, some .integer, .integer n, .template ⟨false, false⟩⟩]⟩

/-- The greatest integer, read from `FIGURES`. -/
theorem anyFiguresLaws_greatest :
    literalInteger (storeHolding 9223372036854775807) (.named "FIGURES") =
        .ok 9223372036854775807 ∧
      RoundingMode.significantFigures.least ≤ (9223372036854775807 : Int64).toInt ∧
      roundTo 0.01 .significantFigures 9223372036854775807 = .ok 0.01 ∧
      ∃ y, Yields (storeHolding 9223372036854775807) (.roundTo .significantFigures
        (.named "FIGURES")) [.float 0.01] (.float y) := by
  have hl : literalInteger (storeHolding 9223372036854775807) (.named "FIGURES") =
      .ok 9223372036854775807 := by rfl
  have hleast : RoundingMode.significantFigures.least ≤ (9223372036854775807 : Int64).toInt := by
    decide
  have hlaws := anyFiguresLaws hl hleast
  obtain ⟨y, -, hy⟩ := hlaws.rounds (.float 0.01)
  have hdecimal : Decimal.ofFloat? 0.01 = some ⟨false, 1, 2, by decide, by decide⟩ := by
    decide +kernel
  exact ⟨hl, hleast, hlaws.wrapped rfl _ _ hdecimal (by decide) (by decide +kernel), y, hy⟩

/-- The greatest number of figures has too many places for `placesOf` in a number below a tenth. -/
theorem places_beyond_greatest : ∃ d, Decimal.ofFloat? 0.01 = some d ∧ d.mantissa ≠ 0 ∧
    d.exactPlaces 9223372036854775807 = 2 ^ 63 ∧
    (d.placesOf 9223372036854775807).toInt = -2 ^ 63 := by
  refine ⟨⟨false, 1, 2, by decide, by decide⟩, ?_, by decide, ?_, ?_⟩ <;> decide +kernel

end AssessmentItem.Evaluation
