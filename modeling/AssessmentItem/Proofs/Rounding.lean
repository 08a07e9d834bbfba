import AssessmentItem.Rounding
import AssessmentItem.Proofs.Decimal.Figures
import AssessmentItem.Proofs.Decimal.Float

/-!
# Rounding to significant figures

A number is rounded through its shortest digits, held as a decimal number with 28 places after the
point.  What is returned is the nearest floating-point number to these digits, rounded to the
figures, as long as the rounded decimal number is read back without loss: it has no digits after the
point, or fifteen digits in all of which at most 22 stand there.  The number itself is returned if
it is too great, or rounded up to one that is, and also if the figures are more than can be counted.

## Main definitions

* `Binary64.Parts.decimal` : the exact value of the shortest digits of a number.
* `Binary64.Parts.held` : the exact value of the decimal number through which it is rounded.
* `Binary64.Parts.Recoverable` : the digits that are kept are read back without loss.
* `FiguresLaws` : what a number is rounded to.

## Main results

* `Binary64.nearest_decimal` : a number is the nearest one to its shortest digits.
* `exists_ofFloat?`, `ofFloat?_eq_none` : the decimal number of a floating-point number.
* `figuresLaws` : rounding to significant figures.
-/

namespace AssessmentItem

open Binary64

namespace Binary64

/-! ### Shortest digits of numbers with a sign -/

variable {x : Float} {p : Parts}

/-- The shortest digits of a number without its sign. -/
def Parts.shortest (p : Parts) : Digits := Binary64.shortest p.significand p.exponent

/-- The exact value of the `shortest` digits of a number. -/
def Parts.decimal (p : Parts) : ℚ := signFactor p.negative * p.shortest.value

/-- The digits with 28 places after the point, through which a number is rounded. -/
def Parts.held (p : Parts) : ℚ := roundedAt (-28) p.decimal

/-- The exponent of the highest digit of what is `held`. -/
def Parts.highest (p : Parts) : ℤ := Int.log 10 |p.held|

/-- The exponent of the last digit that is kept of so many `figures`. -/
def Parts.lastKept (p : Parts) (figures : ℤ) : ℤ :=
  max (max p.shortest.exponent (-28)) (p.highest + 1 - figures)

/-- The digits that are kept have no places after the point, or they are fifteen at most and have 22
places at most, so that they are found again in the floating-point number. -/
def Parts.Recoverable (p : Parts) (figures : ℤ) : Prop :=
  0 ≤ p.lastKept figures ∨ -22 ≤ p.lastKept figures ∧ p.highest - p.lastKept figures < 15

/-- A number is the `Nearest` one to its shortest digits. -/
theorem nearest_decimal (hx : parts? x = some p) (hp : 0 < p.significand) :
    Nearest p.decimal p := by
  have hnearest := nearest_shortest (parts?_canonical hx).1 hp
  obtain ⟨negative, m, e⟩ := p
  cases negative with
  | false =>
    rw [Parts.decimal, signFactor, if_neg Bool.false_ne_true, one_mul]
    exact hnearest
  | true =>
    rw [Parts.decimal, signFactor, if_pos rfl, neg_one_mul]
    refine hnearest.neg ?_ rfl
    rw [Parts.value_flip]
    rfl

theorem abs_decimal (p : Parts) : |p.decimal| = p.shortest.value := by
  refine abs_signFactor_mul _ ?_
  rw [Digits.value]
  positivity

theorem decimal_ne_zero (hx : parts? x = some p) (hp : 0 < p.significand) : p.decimal ≠ 0 := by
  have hpos := pos_of_nearest hp (nearest_shortest (parts?_canonical hx).1 hp)
  exact abs_pos.1 (abs_decimal p ▸ hpos)

/-- All digits are `held` if no more than 28 stand after the point. -/
theorem held_eq (h : -28 ≤ p.shortest.exponent) : p.held = p.decimal :=
  roundedAt_of_abs_eq (abs_decimal p) h

/-- What is `held` has no digit beyond the last place. -/
theorem neg_le_highest (h : p.held ≠ 0) : -28 ≤ p.highest := by
  have hdecimal : p.decimal ≠ 0 := by
    intro hzero
    rw [Parts.held, hzero, roundedAt_zero] at h
    exact h rfl
  have habs := abs_roundedAt (-28) hdecimal
  refine (Int.zpow_le_iff_le_log (b := 10) (by decide) (abs_pos.2 h)).1 ?_
  rw [Parts.held] at h ⊢
  have hround : round (|p.decimal| / 10 ^ (-28 : ℤ)) ≠ 0 := by
    intro hzero
    rw [hzero, Int.cast_zero, abs_zero, zero_mul, abs_eq_zero] at habs
    exact h habs
  rw [habs, Nat.cast_ofNat]
  refine le_mul_of_one_le_left (by positivity) ?_
  exact_mod_cast Int.one_le_abs hround

end Binary64

/-! ### The decimal number of a floating-point number -/

section Held

variable {x : Float} {p : Parts}

theorem ofFloat?_eq (hx : parts? x = some p) :
    Decimal.ofFloat? x = Decimal.ofDigits? p.negative p.shortest := by
  rw [Decimal.ofFloat?, hx]
  rfl

theorem ofFloat?_eq_none (hx : parts? x = some p) (hp : 0 < p.significand)
    (hbig : 2 ^ 96 ≤ |p.decimal|) : Decimal.ofFloat? x = none := by
  have hdigits := digits_shortest_lt (parts?_canonical hx).1 hp
  rw [ofFloat?_eq hx]
  exact Decimal.ofDigits?_eq_none p.negative (hdigits.trans (by norm_num)) (abs_decimal p ▸ hbig)

theorem exists_ofFloat? (hx : parts? x = some p) (hp : 0 < p.significand)
    (hsmall : |p.decimal| < 2 ^ 96) : ∃ d, Decimal.ofFloat? x = some d ∧ d.value = p.held ∧
      d.scale = (min 28 (-p.shortest.exponent)).toNat := by
  have hdigits : p.shortest.digits < 10 ^ 17 := digits_shortest_lt (parts?_canonical hx).1 hp
  rw [ofFloat?_eq hx]
  exact Decimal.exists_ofDigits? p.negative (by omega) (abs_decimal p ▸ hsmall)

theorem ofFloat?_eq_some (hx : parts? x = some p) (hp : 0 < p.significand) {d : Decimal}
    (hd : Decimal.ofFloat? x = some d) : |p.decimal| < 2 ^ 96 ∧ d.value = p.held ∧
      d.scale = (min 28 (-p.shortest.exponent)).toNat := by
  have hsmall : |p.decimal| < 2 ^ 96 := by
    by_contra hbig
    rw [ofFloat?_eq_none hx hp (not_lt.1 hbig)] at hd
    nomatch hd
  obtain ⟨d', hd', hvalue, hscale⟩ := exists_ofFloat? hx hp hsmall
  obtain rfl : d' = d := Option.some_inj.1 (hd'.symm.trans hd)
  exact ⟨hsmall, hvalue, hscale⟩

end Held

/-! ### Rounding to figures -/

section Figures

variable {x : Float} {p : Parts} {figures : Int64}

/-- What `roundTo` gives if the figures are accepted. -/
theorem roundTo_eq (x : Float) (mode : RoundingMode) (h : mode.least ≤ figures.toInt) :
    roundTo x mode figures = .ok (((Decimal.ofFloat? x).bind fun d ↦
      ((match mode with
        | .decimalPlaces => d.roundPlaces? figures
        | .significantFigures => d.roundFigures? figures).map Decimal.toFloat)).getD x) := by
  rw [roundTo, if_neg (not_lt.2 h)]
  cases Decimal.ofFloat? x <;> rfl

/-- What `roundTo` gives for a finite number `x` that is not zero, to significant figures. -/
structure FiguresLaws (x : Float) (p : Parts) (figures : Int64) : Prop where
  /-- The digits are `held` exactly unless more than 28 of them stand after the point. -/
  held : -28 ≤ p.shortest.exponent → p.held = p.decimal
  /-- The number `x` is returned if it is too great or rounded up to one that is. -/
  unchanged : 2 ^ 96 ≤ |p.decimal| ∨ 2 ^ 96 ≤ |significant figures.toInt p.held| →
    roundTo x .significantFigures figures = .ok x
  /-- The number `x` is returned if the figures are more than can be counted, and is the `Nearest`
  one. -/
  many : p.held ≠ 0 → 2 ^ 32 ≤ figures.toInt - 1 - p.highest →
    roundTo x .significantFigures figures = .ok x ∧
      Nearest (significant figures.toInt p.decimal) p
  /-- The result `y` is the nearest number to the rounded digits. It is not zero and has no more
  digits than the figures. -/
  nearest : p.held ≠ 0 → figures.toInt - 1 - p.highest < 2 ^ 32 → |p.decimal| < 2 ^ 96 →
    |significant figures.toInt p.held| < 2 ^ 96 → p.Recoverable figures.toInt →
    ∃ y q, roundTo x .significantFigures figures = .ok y ∧ parts? y = some q ∧
      Nearest (significant figures.toInt p.held) q ∧ 0 < q.significand ∧
      q.shortest.digits < 10 ^ figures.toInt.toNat
  /-- Two numbers are compared by `equalRounded` once both are rounded. -/
  compares : ∀ y, ∃ x' y', roundTo x .significantFigures figures = .ok x' ∧
    roundTo y .significantFigures figures = .ok y' ∧
    equalRounded x y .significantFigures figures = .ok (x' == y')

theorem roundTo_eq_self (hfigures : 1 ≤ figures.toInt)
    (h : ∀ d, Decimal.ofFloat? x = some d → d.roundFigures? figures = none) :
    roundTo x .significantFigures figures = .ok x := by
  rw [roundTo_eq x .significantFigures hfigures]
  cases hd : Decimal.ofFloat? x with
  | none => rfl
  | some d =>
    rw [Option.bind_some, h d hd]
    rfl

theorem roundTo_eq_toFloat (hfigures : 1 ≤ figures.toInt) {d r : Decimal}
    (hd : Decimal.ofFloat? x = some d) (hr : d.roundFigures? figures = some r) :
    roundTo x .significantFigures figures = .ok r.toFloat := by
  rw [roundTo_eq x .significantFigures hfigures, hd, Option.bind_some, hr]
  rfl

theorem exactPlaces_of_held (figures : Int64) {d : Decimal} (hvalue : d.value = p.held)
    (hheld : p.held ≠ 0) :
    d.mantissa ≠ 0 ∧ d.exactPlaces figures = figures.toInt - 1 - p.highest := by
  have hmantissa : d.mantissa ≠ 0 := Decimal.mantissa_ne_zero (hvalue ▸ hheld)
  refine ⟨hmantissa, ?_⟩
  rw [Decimal.exactPlaces, Decimal.leadingExponent_eq_log hmantissa, hvalue, Parts.highest]

theorem roundTo_of_big (hx : parts? x = some p) (hp : 0 < p.significand)
    (hfigures : 1 ≤ figures.toInt)
    (hbig : 2 ^ 96 ≤ |p.decimal| ∨ 2 ^ 96 ≤ |significant figures.toInt p.held|) :
    roundTo x .significantFigures figures = .ok x := by
  refine roundTo_eq_self hfigures fun d hd ↦ ?_
  obtain ⟨hsmall, hvalue, -⟩ := ofFloat?_eq_some hx hp hd
  have hrounded := hbig.resolve_left hsmall.not_ge
  have hheld : p.held ≠ 0 := by
    intro hzero
    rw [hzero, significant, roundedAt_zero, abs_zero] at hrounded
    norm_num at hrounded
  exact Decimal.roundFigures?_eq_none (exactPlaces_of_held figures hvalue hheld).1
    hfigures (hvalue ▸ hrounded)

theorem roundTo_of_many (hx : parts? x = some p) (hp : 0 < p.significand)
    (hfigures : 1 ≤ figures.toInt) (hheld : p.held ≠ 0)
    (hmany : 2 ^ 32 ≤ figures.toInt - 1 - p.highest) :
    roundTo x .significantFigures figures = .ok x := by
  refine roundTo_eq_self hfigures fun d hd ↦ ?_
  obtain ⟨-, hvalue, -⟩ := ofFloat?_eq_some hx hp hd
  obtain ⟨hmantissa, hplaces⟩ := exactPlaces_of_held figures hvalue hheld
  exact Decimal.roundFigures?_of_manyPlaces hmantissa hfigures (hplaces ▸ hmany)

/-- So many figures have every digit. -/
theorem nearest_of_many (hx : parts? x = some p) (hp : 0 < p.significand) (hheld : p.held ≠ 0)
    (hmany : 2 ^ 32 ≤ figures.toInt - 1 - p.highest) :
    Nearest (significant figures.toInt p.decimal) p := by
  have hdigits : p.shortest.digits < 10 ^ 17 := digits_shortest_lt (parts?_canonical hx).1 hp
  have hhighest := neg_le_highest hheld
  rw [significant_of_abs_eq (abs_decimal p) hdigits (by omega) (decimal_ne_zero hx hp)]
  exact nearest_decimal hx hp

/-- The rounded decimal number `r` is read back without loss. -/
theorem isNearest_rounded {r : Decimal} (hfigures : 1 ≤ figures.toInt) (hheld : p.held ≠ 0)
    (hvalue : r.value = significant figures.toInt p.held)
    (hscale : (r.scale : ℤ) = max 0 (-p.lastKept figures.toInt))
    (hkept : p.Recoverable figures.toInt) : IsNearest r.value r.toFloat := by
  refine Decimal.isNearest_toFloat ?_
  rcases hkept with hwhole | ⟨hplaces, hdigits⟩
  · exact .inl (by omega)
  · refine or_iff_not_imp_left.2 fun hfraction ↦ ⟨by omega, ?_⟩
    have hbound := (significant_bounds hfigures hheld).2
    rw [← hvalue, Decimal.abs_value, Decimal.magnitude, div_le_iff₀ (by positivity), ← zpow_natCast,
      ← zpow_add₀ (by norm_num)] at hbound
    have hpower : (10 : ℚ) ^ (p.highest + 1 + r.scale) ≤ 10 ^ (15 : ℤ) :=
      zpow_le_zpow_right₀ (by norm_num) (by omega)
    exact_mod_cast hbound.trans hpower

/-- What is `Nearest` to a number that is not too small is not zero. -/
theorem significand_pos_of_nearest {z : ℚ} {q : Parts} (h : Nearest z q)
    (hz : 10 ^ (-28 : ℤ) ≤ |z|) : 0 < q.significand := by
  have hgrid : OnGrid (2 ^ (-100 : ℤ)) := ⟨1, -100, by decide, by decide, by simp⟩
  have hle : (2 : ℚ) ^ (-100 : ℤ) ≤ |z| := le_trans (by norm_num) hz
  have hvalue := (h.abs.sides hgrid).1 hle
  rw [Parts.value_positive] at hvalue
  by_contra hzero
  rw [Nat.eq_zero_of_not_pos hzero, Nat.cast_zero, zero_mul] at hvalue
  exact hvalue.not_gt (by positivity)

/-- No number has more digits than the digits to which it is nearest. -/
theorem digits_lt_of_nearest {y : Float} {z : ℚ} {q : Parts} (hy : parts? y = some q)
    (hq : 0 < q.significand) (h : Nearest z q) {r k : ℕ} {t : ℤ} (hz : |z| = r * 10 ^ t)
    (hr : r < 10 ^ k) (hk : 0 < k) : q.shortest.digits < 10 ^ k :=
  digits_shortest_lt_of_nearest (parts?_canonical hy).1 hq hr hk (hz ▸ h.abs)

/-- Rounding to significant figures. -/
theorem figuresLaws (hx : parts? x = some p) (hp : 0 < p.significand)
    (hfigures : 1 ≤ figures.toInt) : FiguresLaws x p figures where
  held := held_eq
  unchanged := roundTo_of_big hx hp hfigures
  many hheld hmany :=
    ⟨roundTo_of_many hx hp hfigures hheld hmany, nearest_of_many hx hp hheld hmany⟩
  nearest hheld hfew hsmall hfits hkept := by
    obtain ⟨d, hd, hvalue, hscale⟩ := exists_ofFloat? hx hp hsmall
    obtain ⟨hmantissa, hplaces⟩ := exactPlaces_of_held figures hvalue hheld
    obtain ⟨r, hr, hrounded, hplace⟩ := Decimal.exists_roundFigures? hmantissa hfigures
      (hplaces ▸ hfew) (hvalue ▸ hfits)
    rw [hvalue] at hrounded
    have hlast : (r.scale : ℤ) = max 0 (-p.lastKept figures.toInt) := by
      rw [hplace, hplaces, hscale, Parts.lastKept]
      omega
    obtain ⟨q, hq, hnearest⟩ := isNearest_rounded hfigures hheld hrounded hlast hkept
    rw [hrounded] at hnearest
    have hpos : 0 < q.significand := by
      refine significand_pos_of_nearest hnearest (le_trans ?_ (significant_bounds hfigures hheld).1)
      exact zpow_le_zpow_right₀ (by norm_num) (neg_le_highest hheld)
    obtain ⟨n, t, hn, hdigits⟩ := exists_significant hfigures hheld
    exact ⟨r.toFloat, q, roundTo_eq_toFloat hfigures hd hr, hq, hnearest, hpos,
      digits_lt_of_nearest hq hpos hnearest hdigits hn (by omega)⟩
  compares y := by
    have hround (z : Float) := roundTo_eq z .significantFigures hfigures
    rw [equalRounded, hround x, hround y]
    exact ⟨_, _, rfl, rfl, rfl⟩

/-- A five is rounded upwards although the floating-point number lies below it. -/
theorem figuresLaws_half : parts? 1.005 = some ⟨false, 4526117625507348, -52⟩ ∧
    FiguresLaws 1.005 ⟨false, 4526117625507348, -52⟩ 3 ∧ ∃ y q,
      roundTo 1.005 .significantFigures 3 = .ok y ∧ parts? y = some q ∧
      Nearest (101 / 100) q ∧ q.shortest.digits < 10 ^ 3 := by
  have hx : parts? 1.005 = some ⟨false, 4526117625507348, -52⟩ := by decide +kernel
  have hlaws : FiguresLaws 1.005 ⟨false, 4526117625507348, -52⟩ 3 :=
    figuresLaws hx (by decide) (by decide)
  refine ⟨hx, hlaws, ?_⟩
  have hshortest : Parts.shortest ⟨false, 4526117625507348, -52⟩ = ⟨1005, -3⟩ := by decide +kernel
  have hdecimal : Parts.decimal ⟨false, 4526117625507348, -52⟩ = 201 / 200 := by
    rw [Parts.decimal, hshortest]
    norm_num [signFactor, Digits.value]
  have hheld := (hlaws.held (hshortest ▸ by decide)).trans hdecimal
  have hlog : Int.log 10 (201 / 200 : ℚ) = 0 := log_eq (by norm_num) (by norm_num)
  have hhighest : Parts.highest ⟨false, 4526117625507348, -52⟩ = 0 := by
    rw [Parts.highest, hheld, abs_of_pos (by norm_num), hlog]
  have hfigures : (3 : Int64).toInt = 3 := by decide
  have hrounded : significant 3 (201 / 200) = 101 / 100 := by
    rw [significant, roundedAt, abs_of_pos (by norm_num), hlog, sign_pos (by norm_num)]
    norm_num
  have hlast : Parts.lastKept ⟨false, 4526117625507348, -52⟩ 3 = -2 := by
    rw [Parts.lastKept, hshortest, hhighest]
    decide
  have hkept : Parts.Recoverable ⟨false, 4526117625507348, -52⟩ 3 := by
    rw [Parts.Recoverable, hlast, hhighest]
    decide
  have hnearest := hlaws.nearest
  rw [hheld, hdecimal, hhighest, hfigures, hrounded] at hnearest
  obtain ⟨y, q, hround, hq, hrest, -, hlt⟩ := hnearest (by norm_num) (by norm_num)
    (by norm_num [abs_of_pos]) (by norm_num [abs_of_pos]) hkept
  exact ⟨y, q, hround, hq, hrest, hlt⟩

/-- The number `x` is rounded to the nearest one to its shortest digits, rounded to the figures. -/
def RoundsNearest (x : Float) (figures : Int64) : Prop :=
  ∀ p, parts? x = some p → ∃ y, roundTo x .significantFigures figures = .ok y ∧
    IsNearest (significant figures.toInt p.decimal) y

theorem not_roundsNearest {q : Parts} {d : Digits} {b r : ℚ} (hx : parts? x = some p)
    (hy : (roundTo x .significantFigures figures).toOption.bind parts? = some q)
    (hshortest : p.shortest = d) (hsign : p.negative = false)
    (hrounded : significant figures.toInt d.value = r) (hb : OnGrid b)
    (hnear : |r - b| < |r - q.value|) : ¬RoundsNearest x figures := by
  intro h
  obtain ⟨y, hround, q', hq', hnearest⟩ := h p hx
  rw [hround] at hy
  obtain rfl : q' = q := Option.some_inj.1 (hq'.symm.trans hy)
  rw [Parts.decimal, hshortest, hsign, signFactor, if_neg Bool.false_ne_true, one_mul,
    hrounded] at hnearest
  exact hnear.not_ge (hnearest.le b hb)

theorem significant_digits {d : Digits} {f : ℤ} {k : ℕ} (hpos : 0 < d.digits)
    (hlt : d.digits < 10 ^ k) (hk : k ≤ f) : significant f d.value = d.value := by
  have hvalue : 0 < d.value := by
    rw [Digits.value]
    positivity
  exact significant_of_abs_eq (abs_of_pos hvalue) hlt hk hvalue.ne'

/-- A number that is too great is not rounded, one that is too small becomes zero, and another one
is returned where the last digit stands too far behind the point or is the sixteenth one. -/
theorem nearest_lost_beyond_decimal : ¬RoundsNearest 1.5e30 1 ∧ ¬RoundsNearest 1e-30 1 ∧
    ¬RoundsNearest 2e-23 1 ∧ ¬RoundsNearest 0.9999999999999999 16 := by
  have hone : (1 : Int64).toInt = 1 := by decide
  have hsixteen : (16 : Int64).toInt = 16 := by decide
  refine ⟨?_, ?_, ?_, ?_⟩
  · have hlog : Int.log 10 (15 * 10 ^ 29 : ℚ) = 30 := log_eq (by norm_num) (by norm_num)
    have hrounded : significant 1 (Digits.value ⟨15, 29⟩) = 2 * 10 ^ 30 := by
      rw [significant, roundedAt, Digits.value]
      norm_num [hlog]
    refine not_roundsNearest (p := ⟨false, 5329070518200751, 48⟩)
      (q := ⟨false, 5329070518200751, 48⟩) (b := 3 * 2 ^ 99) (d := ⟨15, 29⟩) (by decide +kernel)
      (by decide +kernel) (by decide +kernel) rfl (hone ▸ hrounded)
      ⟨3, 99, by decide, by decide, by norm_num⟩ ?_
    rw [Parts.value_positive]
    norm_num [abs_of_pos]
  · refine not_roundsNearest (p := ⟨false, 5708990770823840, -152⟩) (q := ⟨false, 0, -1074⟩)
      (b := 5708990770823840 * 2 ^ (-152 : ℤ)) (d := ⟨1, -30⟩) (by decide +kernel)
      (by decide +kernel) (by decide +kernel) rfl
      (significant_digits (by decide) (show 1 < 10 ^ 1 by decide) hone.ge)
      ⟨5708990770823840, -152, by decide, by decide, by norm_num⟩ ?_
    rw [Parts.value_zero, Digits.value]
    norm_num [abs_lt]
  · refine not_roundsNearest (p := ⟨false, 6805647338418769, -128⟩)
      (q := ⟨false, 6805647338418770, -128⟩) (b := 6805647338418769 * 2 ^ (-128 : ℤ))
      (d := ⟨2, -23⟩) (by decide +kernel) (by decide +kernel) (by decide +kernel) rfl
      (significant_digits (by decide) (show 2 < 10 ^ 1 by decide) hone.ge)
      ⟨6805647338418769, -128, by decide, by decide, by norm_num⟩ ?_
    rw [Parts.value_positive, Digits.value]
    norm_num [abs_lt]
  · refine not_roundsNearest (p := ⟨false, 9007199254740991, -53⟩)
      (q := ⟨false, 4503599627370496, -52⟩) (b := 9007199254740991 * 2 ^ (-53 : ℤ))
      (d := ⟨9999999999999999, -16⟩) (by decide +kernel) (by decide +kernel) (by decide +kernel) rfl
      (significant_digits (by decide) (show 9999999999999999 < 10 ^ 16 by decide) hsixteen.ge)
      ⟨9007199254740991, -53, by decide, by decide, by norm_num⟩ ?_
    rw [Parts.value_positive, Digits.value]
    norm_num [abs_lt]

end Figures

end AssessmentItem
