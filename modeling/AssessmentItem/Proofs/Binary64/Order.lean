import AssessmentItem.Proofs.Binary64.Values

/-!
# The order of floating-point numbers

Every floating-point number but NaN has a place on the line of the rational numbers with an infinity
at either end.  The comparisons are those of the places, and they fail wherever there is none.  Both
zeros have the same place.

## Main definitions

* `Binary64.place?` : the place of a number on the line.

## Main results

* `Binary64.place?_eq_none_iff` : only NaN has no place.
* `Binary64.lt_iff_place`, `Binary64.le_iff_place`, `Binary64.beq_iff_place` : comparisons are those
  of places.
-/

namespace AssessmentItem.Binary64

open Float.Model Float.Model.UnpackedFloat

variable {x y : Float} {p q : WithBot (WithTop ℚ)}

/-- The end of the line on the side of a sign: `⊥` or `⊤`. -/
def infinitePlace : Sign → WithBot (WithTop ℚ)
  | .negative => ⊥
  | .positive => ⊤

/-- The place of a number on the line of the rational numbers between `⊥` and `⊤`. -/
def place? (x : Float) : Option (WithBot (WithTop ℚ)) :=
  match x.toModel.unpack with
  | .notANumber => none
  | .infinity s => some (infinitePlace s)
  | .zero _ | .finite .. => (value? x).map fun a ↦ ((a : WithTop ℚ) : WithBot (WithTop ℚ))

theorem place?_of_value? {a : ℚ} (hx : value? x = some a) :
    place? x = some ((a : WithTop ℚ) : WithBot (WithTop ℚ)) := by
  obtain ⟨s, hu, -⟩ | ⟨s, m, e, hm, hu, -⟩ := unpack_cases hx <;> simp only [place?, hu, hx] <;> rfl

theorem place?_of_infinity {s : Sign} (hx : x.toModel.unpack = .infinity s) :
    place? x = some (infinitePlace s) := by
  simp only [place?, hx]

theorem place?_of_notANumber (hx : x.toModel.unpack = .notANumber) : place? x = none := by
  simp only [place?, hx]

/-- What has a `place?` is finite or an infinity. -/
theorem place?_cases (hx : place? x = some p) :
    (∃ a, value? x = some a ∧ p = ((a : WithTop ℚ) : WithBot (WithTop ℚ))) ∨
      ∃ s, x.toModel.unpack = .infinity s ∧ p = infinitePlace s := by
  cases hvalue : value? x with
  | some a => exact .inl ⟨a, rfl, Option.some.inj (hx.symm.trans (place?_of_value? hvalue))⟩
  | none =>
    obtain hu | ⟨s, hu⟩ := unpack_of_value?_eq_none hvalue
    · rw [place?_of_notANumber hu] at hx
      nomatch hx
    · exact .inr ⟨s, hu, Option.some.inj (hx.symm.trans (place?_of_infinity hu))⟩

/-- Only NaN has no `place?`. -/
theorem place?_eq_none_iff : place? x = none ↔ x.isNaN := by
  change _ ↔ x.toModel.unpack.isNaN = true
  cases hx : place? x with
  | some p =>
    refine iff_of_false nofun fun hnan ↦ ?_
    rw [place?_of_notANumber (isNaN_iff.1 hnan)] at hx
    nomatch hx
  | none =>
    refine iff_of_true rfl (isNaN_iff.2 ?_)
    cases hvalue : value? x with
    | some a =>
      rw [place?_of_value? hvalue] at hx
      nomatch hx
    | none =>
      obtain hu | ⟨s, hu⟩ := unpack_of_value?_eq_none hvalue
      · exact hu
      · rw [place?_of_infinity hu] at hx
        nomatch hx

theorem exists_place_iff : (∃ p, place? x = some p) ↔ x.isNaN = false := by
  rw [← Option.isSome_iff_exists, ← Option.ne_none_iff_isSome, Bool.eq_false_iff, ne_eq, ne_eq,
    place?_eq_none_iff]

theorem compare_coe (a b : ℚ) :
    compare ((a : WithTop ℚ) : WithBot (WithTop ℚ)) ((b : WithTop ℚ) : WithBot (WithTop ℚ)) =
      compare a b := by
  rcases lt_trichotomy a b with h | rfl | h
  · rw [compare_lt_iff_lt.2 h, compare_lt_iff_lt]
    exact WithBot.coe_lt_coe.2 (WithTop.coe_lt_coe.2 h)
  · rw [compare_eq_iff_eq.2 rfl, compare_eq_iff_eq.2 rfl]
  · rw [compare_gt_iff_gt.2 h, compare_gt_iff_gt]
    exact WithBot.coe_lt_coe.2 (WithTop.coe_lt_coe.2 h)

theorem compare_coe_infinitePlace (a : ℚ) (s : Sign) :
    compare ((a : WithTop ℚ) : WithBot (WithTop ℚ)) (infinitePlace s) =
        (if isNegative s then .gt else .lt) ∧
      compare (infinitePlace s) ((a : WithTop ℚ) : WithBot (WithTop ℚ)) =
        (if isNegative s then .lt else .gt) := by
  have htop : ((a : WithTop ℚ) : WithBot (WithTop ℚ)) < ⊤ :=
    WithBot.coe_lt_coe.2 (WithTop.coe_lt_top a)
  have hbot : ⊥ < ((a : WithTop ℚ) : WithBot (WithTop ℚ)) := WithBot.bot_lt_coe _
  cases s with
  | negative => exact ⟨compare_gt_iff_gt.2 hbot, compare_lt_iff_lt.2 hbot⟩
  | positive => exact ⟨compare_lt_iff_lt.2 htop, compare_gt_iff_gt.2 htop⟩

theorem compare_infinitePlace (s t : Sign) :
    UnpackedFloat.compare (.infinity s) (.infinity t) =
      some (compare (infinitePlace s) (infinitePlace t)) := by
  have hlt : (⊥ : WithBot (WithTop ℚ)) < ⊤ := bot_lt_top
  cases s <;> cases t
  · exact congrArg some (compare_eq_iff_eq.2 rfl).symm
  · exact congrArg some (compare_lt_iff_lt.2 hlt).symm
  · exact congrArg some (compare_gt_iff_gt.2 hlt).symm
  · exact congrArg some (compare_eq_iff_eq.2 rfl).symm

/-- Numbers are compared by their places `p` and `q`. -/
theorem compare_place (hx : place? x = some p) (hy : place? y = some q) :
    x.toModel.unpack.compare y.toModel.unpack = some (compare p q) := by
  obtain ⟨a, ha, rfl⟩ | ⟨s, hs, rfl⟩ := place?_cases hx
  · obtain ⟨b, hb, rfl⟩ | ⟨t, ht, rfl⟩ := place?_cases hy
    · rw [compare_unpack ha hb, compare_coe]
    · rw [ht, (compare_infinity ha t).1, (compare_coe_infinitePlace a t).1]
  · obtain ⟨b, hb, rfl⟩ | ⟨t, ht, rfl⟩ := place?_cases hy
    · rw [hs, (compare_infinity hb s).2, (compare_coe_infinitePlace b s).2]
    · rw [hs, ht, compare_infinitePlace]

/-- Numbers can be compared if they have places, and these are what is compared. -/
theorem compare_eq_some_iff {o : Ordering} : x.toModel.unpack.compare y.toModel.unpack = some o ↔
    ∃ p q, place? x = some p ∧ place? y = some q ∧ compare p q = o := by
  constructor
  · intro h
    cases hx : place? x with
    | none =>
      rw [isNaN_iff.1 (place?_eq_none_iff.1 hx)] at h
      nomatch h
    | some p =>
      cases hy : place? y with
      | none =>
        rw [isNaN_iff.1 (place?_eq_none_iff.1 hy)] at h
        cases hu : x.toModel.unpack <;> rw [hu] at h <;> nomatch h
      | some q => exact ⟨p, q, rfl, rfl, Option.some.inj ((compare_place hx hy).symm.trans h)⟩
  · rintro ⟨p, q, hp, hq, rfl⟩
    exact compare_place hp hq

theorem lt_iff_place : x < y ↔ ∃ p q, place? x = some p ∧ place? y = some q ∧ p < q := by
  simp only [lt_iff_compare, compare_eq_some_iff, compare_lt_iff_lt]

theorem le_iff_place : x ≤ y ↔ ∃ p q, place? x = some p ∧ place? y = some q ∧ p ≤ q := by
  rw [le_iff_compare, Option.any_eq_true]
  constructor
  · rintro ⟨o, ho, hle⟩
    obtain ⟨p, q, hp, hq, rfl⟩ := compare_eq_some_iff.1 ho
    exact ⟨p, q, hp, hq, not_lt.1 (compare_gt_iff_gt.not.1 (Ordering.isLE_iff_ne_gt.1 hle))⟩
  · rintro ⟨p, q, hp, hq, hle⟩
    refine ⟨_, compare_place hp hq, ?_⟩
    exact Ordering.isLE_iff_ne_gt.2 (compare_gt_iff_gt.not.2 (not_lt.2 hle))

theorem beq_iff_place : x == y ↔ ∃ p, place? x = some p ∧ place? y = some p := by
  change (x.toModel.unpack.compare y.toModel.unpack == some .eq) = true ↔ _
  simp only [beq_iff_eq, compare_eq_some_iff, compare_eq_iff_eq]
  constructor
  · rintro ⟨p, _, hp, hq, rfl⟩
    exact ⟨p, hp, hq⟩
  · rintro ⟨p, hp, hq⟩
    exact ⟨p, p, hp, hq, rfl⟩

theorem beq_of_le_of_le (hxy : x ≤ y) (hyx : y ≤ x) : x == y := by
  obtain ⟨p, q, hp, hq, hle⟩ := le_iff_place.1 hxy
  obtain ⟨q', p', hq', hp', hge⟩ := le_iff_place.1 hyx
  obtain rfl : q = q' := Option.some.inj (hq.symm.trans hq')
  obtain rfl : p = p' := Option.some.inj (hp.symm.trans hp')
  exact beq_iff_place.2 ⟨p, hp, le_antisymm hle hge ▸ hq⟩

end AssessmentItem.Binary64
