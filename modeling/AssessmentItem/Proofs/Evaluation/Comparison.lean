import AssessmentItem.Proofs.Binary64.Operations
import AssessmentItem.Proofs.Evaluation.Signatures

/-!
# Comparison of numbers

The operators that order numbers compare integers exactly, but equality compares the floating-point
numbers of its operands.  The operators therefore agree on the order of two integers unless these
are different and share a floating-point number, which happens from `2 ^ 53` on.

Within an absolute tolerance every finite number is equal to itself, and so is within a relative
tolerance every number that is not negative.  For a negative number the bounds of a relative
tolerance change places.  Such a number is equal to itself only if both bounds are rounded to it.

## Main definitions

* `Evaluation.Decides` : an operator gives the truth value of a statement.
* `Evaluation.AgreeOnOrder` : the operators that compare judge two integers alike.
* `Evaluation.ComparisonLaws` : what these operators say of two integers.
* `Evaluation.SelfEqualityLaws` : what equality says of a number and itself.

## Main results

* `Evaluation.comparisonLaws` : comparison of integers.
* `Evaluation.selfEqualityLaws` : equality of a number with itself.
-/

namespace AssessmentItem.Evaluation

open Binary64

variable {store : Store} {op : Operator}

/-- The operator `op` gives the truth value of `p`. -/
def Decides (store : Store) (op : Operator) (vs : List Value) (p : Prop) : Prop :=
  ∃ b, Yields store op vs (.boolean b) ∧ (b = true ↔ p)

theorem Decides.yields_true_iff (ss : List Scalar) {p : Prop}
    (h : Decides store op (ss.map Value.single) p) :
    Yields store op (ss.map Value.single) (.boolean true) ↔ p := by
  obtain ⟨b, hb, hp⟩ := h
  rw [← hp]
  constructor
  · intro htrue
    cases Yields.unique ss hb htrue
    rfl
  · rintro rfl
    exact hb

/-- A number as a `.single` value. -/
def Number.toValue : Number → Value
  | .integer n => .integer n
  | .float x => .float x

theorem readNumber_toValue (x : Number) : readNumber x.toValue = .ok x := by
  cases x <;> rfl

theorem readFloat_toValue (x : Number) : readFloat x.toValue = .ok x.toFloat := by
  rw [readFloat, readNumber_toValue]
  rfl

/-- The value that `op` has for two numbers `x` and `y`. -/
theorem yields_of_numbers (hop : op.signature = .strict (.exactly 2) [.single] .numeric)
    (x y : Number) {v : Value} (h : combine store op [x.toValue, y.toValue] = .ok v) :
    Yields store op [x.toValue, y.toValue] v := by
  have hnull (z : Number) : z.toValue.isNull = false := by cases z <;> rfl
  have hadmits (z : Number) : op.signature.Admits z.toValue := by
    rw [hop]
    cases z <;> exact Signature.admits_single (.head _) rfl
  refine yields_of_combine ?_ (by rw [hop]; rfl) (fun _ ↦ ?_) ?_ h
  · rintro rfl
    nomatch hop
  · exact List.forall_mem_cons.2 ⟨hnull x, List.forall_mem_singleton.2 (hnull y)⟩
  · exact List.forall_mem_cons.2 ⟨hadmits x, List.forall_mem_singleton.2 (hadmits y)⟩

/-! ### Integers -/

/-- The operator `op` accepts the integers `x` and `y`. -/
def Accepts (store : Store) (op : Operator) (x y : Int64) : Prop :=
  Yields store op [.integer x, .integer y] (.boolean true)

/-- Of `.lt`, the operator `equality` and `.gt` one accepts, and `.lte` and `.gte` accept as they
should. -/
def AgreeOnOrder (store : Store) (equality : Operator) (x y : Int64) : Prop :=
  (∃! op, op ∈ [.lt, equality, .gt] ∧ Accepts store op x y) ∧
    (Accepts store .lte x y ↔ Accepts store .lt x y ∨ Accepts store equality x y) ∧
    (Accepts store .gte x y ↔ Accepts store .gt x y ∨ Accepts store equality x y)

/-- What the operators that compare numbers say of the integers `x` and `y`. -/
structure ComparisonLaws (store : Store) (equality : Operator) (x y : Int64) : Prop where
  lt : Decides store .lt [.integer x, .integer y] (x < y)
  gt : Decides store .gt [.integer x, .integer y] (y < x)
  lte : Decides store .lte [.integer x, .integer y] (x ≤ y)
  gte : Decides store .gte [.integer x, .integer y] (y ≤ x)
  /-- The operator `equality` compares by `ofInteger`, as floating-point numbers. -/
  equal : Decides store equality [.integer x, .integer y] (ofInteger x == ofInteger y)
  agree : AgreeOnOrder store equality x y ↔ (ofInteger x == ofInteger y → x = y)
  small : x.toInt.natAbs < 2 ^ 53 ∨ y.toInt.natAbs < 2 ^ 53 → AgreeOnOrder store equality x y

section Integers

variable {x y : Int64}

theorem decides_of_compare (hop : op.signature = .strict (.exactly 2) [.single] .numeric)
    {accepts : Ordering → Bool} {p : Prop}
    (h : combine store op [.integer x, .integer y] =
      compareNumbers accepts (.integer x) (.integer y))
    (hp : accepts (compare x.toInt y.toInt) ↔ p) :
    Decides store op [.integer x, .integer y] p :=
  ⟨_, yields_of_numbers hop (.integer x) (.integer y) h, hp⟩

theorem decides_lt (store : Store) (x y : Int64) :
    Decides store .lt [.integer x, .integer y] (x < y) :=
  decides_of_compare rfl rfl
    (Ordering.isLT_iff_eq_lt.trans (compare_lt_iff_lt.trans Int64.lt_iff_toInt_lt.symm))

theorem decides_gt (store : Store) (x y : Int64) :
    Decides store .gt [.integer x, .integer y] (y < x) :=
  decides_of_compare rfl rfl
    (Ordering.isGT_iff_eq_gt.trans (compare_gt_iff_gt.trans Int64.lt_iff_toInt_lt.symm))

theorem decides_lte (store : Store) (x y : Int64) :
    Decides store .lte [.integer x, .integer y] (x ≤ y) :=
  decides_of_compare rfl rfl (Ordering.isLE_iff_ne_gt.trans
    (compare_gt_iff_gt.not.trans (not_lt.trans Int64.le_iff_toInt_le.symm)))

theorem decides_gte (store : Store) (x y : Int64) :
    Decides store .gte [.integer x, .integer y] (y ≤ x) :=
  decides_of_compare rfl rfl (Ordering.isGE_iff_ne_lt.trans
    (compare_lt_iff_lt.not.trans (not_lt.trans Int64.le_iff_toInt_le.symm)))

theorem decides_equal (store : Store) (tolerances : List (Literal Float))
    (includesLower includesUpper : Bool) (x y : Int64) :
    Decides store (.equal .exact tolerances includesLower includesUpper) [.integer x, .integer y]
      (ofInteger x == ofInteger y) :=
  ⟨_, yields_of_numbers rfl (.integer x) (.integer y) rfl, Iff.rfl⟩

theorem Decides.accepts_iff {p : Prop} (h : Decides store op [.integer x, .integer y] p) :
    Accepts store op x y ↔ p :=
  yields_true_iff [.integer x, .integer y] h

/-- Operators that compare agree if `equality` tells different integers apart. -/
theorem agreeOnOrder_iff {equality : Operator} {p : Prop}
    (hequal : Decides store equality [.integer x, .integer y] p) (hlt : equality ≠ .lt)
    (hgt : equality ≠ .gt) (hself : x = y → p) :
    AgreeOnOrder store equality x y ↔ (p → x = y) := by
  have hless := (decides_lt store x y).accepts_iff
  have hgreater := (decides_gt store x y).accepts_iff
  constructor
  · rintro ⟨⟨op, -, hunique⟩, -, -⟩ h
    by_contra hne
    have heq := hunique equality ⟨by simp, hequal.accepts_iff.2 h⟩
    rcases Int64.lt_or_lt_of_ne hne with hxy | hyx
    · exact hlt (heq.trans (hunique .lt ⟨by simp, hless.2 hxy⟩).symm)
    · exact hgt (heq.trans (hunique .gt ⟨by simp, hgreater.2 hyx⟩).symm)
  · intro h
    have hequal : Accepts store equality x y ↔ x = y := hequal.accepts_iff.trans ⟨h, hself⟩
    rw [AgreeOnOrder, (decides_lte store x y).accepts_iff, (decides_gte store x y).accepts_iff,
      hless, hgreater, hequal]
    rw [← Int64.toInt_inj] at hequal ⊢
    rw [Int64.lt_iff_toInt_lt] at hless hgreater
    simp only [Int64.le_iff_toInt_le, Int64.lt_iff_toInt_lt, List.mem_cons, List.not_mem_nil,
      or_false]
    refine ⟨?_, by omega, by omega⟩
    rcases lt_trichotomy x.toInt y.toInt with hxy | heq | hyx
    · refine ⟨.lt, ⟨.inl rfl, hless.2 hxy⟩, ?_⟩
      rintro _ ⟨rfl | rfl | rfl, hop⟩
      · rfl
      · exact absurd (hequal.1 hop) hxy.ne
      · exact absurd (hgreater.1 hop) hxy.not_gt
    · refine ⟨equality, ⟨.inr (.inl rfl), hequal.2 heq⟩, ?_⟩
      rintro _ ⟨rfl | rfl | rfl, hop⟩
      · exact absurd heq (hless.1 hop).ne
      · rfl
      · exact absurd heq (hgreater.1 hop).ne'
    · refine ⟨.gt, ⟨.inr (.inr rfl), hgreater.2 hyx⟩, ?_⟩
      rintro _ ⟨rfl | rfl | rfl, hop⟩
      · exact absurd (hless.1 hop) hyx.not_gt
      · exact absurd (hequal.1 hop) hyx.ne'
      · rfl

theorem comparisonLaws (store : Store) (tolerances : List (Literal Float))
    (includesLower includesUpper : Bool) (x y : Int64) :
    ComparisonLaws store (.equal .exact tolerances includesLower includesUpper) x y := by
  have hequal := decides_equal store tolerances includesLower includesUpper x y
  have hagree := agreeOnOrder_iff hequal nofun nofun fun h ↦ h ▸ beq_ofInteger_self x
  refine ⟨decides_lt store x y, decides_gt store x y, decides_lte store x y, decides_gte store x y,
    hequal, hagree, fun hsmall ↦ hagree.2 fun heq ↦ ?_⟩
  obtain hx | hy := hsmall
  · exact eq_of_beq_ofInteger hx heq
  · exact (eq_of_beq_ofInteger hy (BEq.symm heq)).symm

/-- `2 ^ 53` is less than the integer after it, and equal to it. -/
theorem equal_of_lt_above_precision :
    Accepts ⟨[]⟩ .lt 9007199254740992 9007199254740993 ∧
      Accepts ⟨[]⟩ (.equal .exact [] true true) 9007199254740992 9007199254740993 ∧
      ¬AgreeOnOrder ⟨[]⟩ (.equal .exact [] true true) 9007199254740992 9007199254740993 := by
  have hlt := (decides_lt ⟨[]⟩ 9007199254740992 9007199254740993).accepts_iff.2 (by decide)
  have hequal := decides_equal ⟨[]⟩ [] true true 9007199254740992 9007199254740993
  have hbeq : ofInteger 9007199254740992 == ofInteger 9007199254740993 := by decide
  refine ⟨hlt, hequal.accepts_iff.2 hbeq, fun hagree ↦ ?_⟩
  have heq := (agreeOnOrder_iff hequal nofun nofun fun _ ↦ hbeq).1 hagree hbeq
  exact absurd heq (by decide)

end Integers

/-! ### A number and itself -/

/-- The number is neither an infinity nor NaN. -/
def Number.IsFinite : Number → Prop
  | .integer _ => True
  | .float x => x.isFinite

/-- The tolerances below and above a number that the literals of `.equal` give; a single one stands
for both. -/
inductive HasTolerances (store : Store) : List (Literal Float) → Float → Float → Prop
  | one {l : Literal Float} {t : Float} (hl : literalNumber store l = .ok t) :
      HasTolerances store [l] t t
  | two {l m : Literal Float} {rest : List (Literal Float)} {t u : Float}
      (hl : literalNumber store l = .ok t) (hm : literalNumber store m = .ok u) :
      HasTolerances store (l :: m :: rest) t u

/-- What `.equal` says of the number `y` and itself, with the tolerances `t` and `u`. -/
structure SelfEqualityLaws (store : Store) (tolerances : List (Literal Float)) (t u : Float)
    (y : Number) : Prop where
  exact (unused : List (Literal Float)) (includesLower includesUpper : Bool) :
    Yields store (.equal .exact unused includesLower includesUpper) [y.toValue, y.toValue]
      (.boolean true)
  absolute : Yields store (.equal .absolute tolerances true true) [y.toValue, y.toValue]
    (.boolean true)
  /-- The bounds around a negative number change places, with `.relative` tolerances. -/
  relative : t ≤ 100 → u ≤ 100 →
    Decides store (.equal .relative tolerances true true) [y.toValue, y.toValue]
      (y.toFloat < 0 →
        y.toFloat * (1 - t / 100) == y.toFloat ∧ y.toFloat * (1 + u / 100) == y.toFloat)

section SelfEquality

variable {tolerances : List (Literal Float)} {t u : Float} {y : Number}

theorem Number.IsFinite.exists_value (h : y.IsFinite) : ∃ a, value? y.toFloat = some a := by
  cases y with
  | integer n =>
    obtain ⟨a, ha, -⟩ := exists_rounds_ofInteger n
    exact ⟨a, ha⟩
  | float x => exact exists_value_of_isFinite h

theorem equalNumbers_eq (h : HasTolerances store tolerances t u) {mode : ToleranceMode}
    (hmode : mode ≠ .exact) (x y : Number) :
    equalNumbers store mode tolerances true true x.toValue y.toValue =
      .ok (.boolean (decide (x.toFloat ≥ (toleranceBounds mode y.toFloat t u).1) &&
        decide (x.toFloat ≤ (toleranceBounds mode y.toFloat t u).2))) := by
  rw [equalNumbers, readFloat_toValue, readFloat_toValue]
  change (if mode = .exact then _ else _) = _
  rw [if_neg hmode]
  cases h with
  | one hl =>
    change (literalNumber store _ >>= _) = _
    rw [hl]
    rfl
  | two hl hm =>
    change (literalNumber store _ >>= _) = _
    rw [hl]
    change (literalNumber store _ >>= _) = _
    rw [hm]
    rfl

theorem decides_tolerance (h : HasTolerances store tolerances t u) (mode : ToleranceMode)
    (hmode : mode ≠ .exact) (x y : Number) :
    Decides store (.equal mode tolerances true true) [x.toValue, y.toValue]
      ((toleranceBounds mode y.toFloat t u).1 ≤ x.toFloat ∧
        x.toFloat ≤ (toleranceBounds mode y.toFloat t u).2) := by
  refine ⟨_, yields_of_numbers rfl x y (equalNumbers_eq h hmode x y), ?_⟩
  rw [Bool.and_eq_true, decide_eq_true_iff, decide_eq_true_iff]

/-- The bounds `y * (1 - t / 100)` and `y * (1 + u / 100)` lie on the wrong sides of a negative
number. -/
theorem between_relative_bounds_iff {y : Float} {a : ℚ} (hy : value? y = some a) (ht : 0 ≤ t)
    (hu : 0 ≤ u) (ht' : t ≤ 100) (hu' : u ≤ 100) :
    y * (1 - t / 100) ≤ y ∧ y ≤ y * (1 + u / 100) ↔
      (y < 0 → y * (1 - t / 100) == y ∧ y * (1 + u / 100) == y) := by
  obtain ⟨⟨b, hb, hle⟩, -⟩ := exists_percent_factors ht ht'
  obtain ⟨-, c, hc, hge⟩ := exists_percent_factors hu hu'
  have hsign := lt_iff hy value?_zero
  rcases le_or_gt 0 a with ha | ha
  · have hlower := (mul_sides hy hb).1 ha hle
    have hupper := (mul_sides hy hc).2.1 ha hge
    exact iff_of_true ⟨hlower, hupper⟩ fun hneg ↦ absurd (hsign.1 hneg) ha.not_gt
  · have hlower := (mul_sides hy hb).2.2.1 ha.le hle
    have hupper := (mul_sides hy hc).2.2.2 ha.le hge
    rw [beq_iff_le_and_le hy, beq_iff_le_and_le hy]
    constructor
    · exact fun h _ ↦ ⟨⟨h.1, hlower⟩, hupper, h.2⟩
    · intro h
      obtain ⟨⟨h₁, -⟩, -, h₂⟩ := h (hsign.2 ha)
      exact ⟨h₁, h₂⟩

theorem selfEqualityLaws (hy : y.IsFinite) (h : HasTolerances store tolerances t u) (ht : 0 ≤ t)
    (hu : 0 ≤ u) : SelfEqualityLaws store tolerances t u y := by
  obtain ⟨a, ha⟩ := hy.exists_value
  refine ⟨fun unused includesLower includesUpper ↦ ?_, ?_, fun ht' hu' ↦ ?_⟩
  · refine yields_of_numbers rfl y y ?_
    change equalNumbers _ _ _ _ _ _ _ = _
    rw [equalNumbers, readFloat_toValue]
    exact congrArg (fun b ↦ Except.ok (Value.boolean b)) ((beq_iff ha ha).2 rfl)
  · obtain ⟨b, hb, hbounds⟩ := decides_tolerance h .absolute nofun y y
    rwa [hbounds.2 ⟨minus_le ha ht, le_plus ha hu⟩] at hb
  · obtain ⟨b, hb, hbounds⟩ := decides_tolerance h .relative nofun y y
    exact ⟨b, hb, hbounds.trans (between_relative_bounds_iff ha ht hu ht' hu')⟩

theorem selfEqualityLaws_percentages :
    (Number.float 2.5).IsFinite ∧ HasTolerances ⟨[]⟩ [.given 1, .given 10] 1 10 ∧
      (0 : Float) ≤ 1 ∧ (0 : Float) ≤ 10 ∧
      Yields ⟨[]⟩ (.equal .absolute [.given 1, .given 10] true true) [.float 2.5, .float 2.5]
        (.boolean true) ∧
      Yields ⟨[]⟩ (.equal .relative [.given 1, .given 10] true true) [.float 2.5, .float 2.5]
        (.boolean true) := by
  have hy : (Number.float 2.5).IsFinite := by
    change Float.isFinite 2.5 = true
    decide
  have htolerances : HasTolerances ⟨[]⟩ [.given 1, .given 10] 1 10 := .two rfl rfl
  have ht : (0 : Float) ≤ 1 := by decide
  have hu : (0 : Float) ≤ 10 := by decide
  have hlaws := selfEqualityLaws hy htolerances ht hu
  obtain ⟨b, hb, hrelative⟩ := hlaws.relative (by decide) (by decide)
  rw [hrelative.2 fun hneg ↦ absurd hneg (by decide)] at hb
  exact ⟨hy, htolerances, ht, hu, hlaws.absolute, hb⟩

/-- Ten percent around minus ten is the range from minus nine up to minus eleven. -/
theorem not_equal_self_negative :
    HasTolerances ⟨[]⟩ [.given 10] 10 10 ∧ (0 : Float) ≤ 10 ∧ (10 : Float) ≤ 100 ∧
      Yields ⟨[]⟩ (.equal .relative [.given 10] true true) [.integer (-10), .integer (-10)]
        (.boolean false) ∧
      ¬Yields ⟨[]⟩ (.equal .relative [.given 10] true true) [.integer (-10), .integer (-10)]
        (.boolean true) := by
  have htolerances : HasTolerances ⟨[]⟩ [.given 10] 10 10 := .one rfl
  obtain ⟨b, hb, hbounds⟩ :=
    decides_tolerance htolerances .relative nofun (.integer (-10)) (.integer (-10))
  have hlost : ¬(ofInteger (-10) * (1 - 10 / 100) ≤ ofInteger (-10) ∧
      ofInteger (-10) ≤ ofInteger (-10) * (1 + 10 / 100)) := by decide
  obtain rfl : b = false := Bool.eq_false_iff.2 (hbounds.not.2 hlost)
  refine ⟨htolerances, by decide, by decide, hb, fun htrue ↦ ?_⟩
  nomatch Yields.unique [.integer (-10), .integer (-10)] hb htrue

end SelfEquality

end AssessmentItem.Evaluation
