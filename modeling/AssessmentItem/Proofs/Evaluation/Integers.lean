import Mathlib.Algebra.BigOperators.Ring.List
import Mathlib.Algebra.Order.BigOperators.Group.List
import Mathlib.Data.List.Infix
import AssessmentItem.Proofs.Evaluation.Signatures
import AssessmentItem.Proofs.Integer

/-!
# Arithmetic on integers

Division of integers is exact: the quotient is the greatest integer that is not above the exact
one, and the remainder is what it leaves over.  A remainder is NULL where the multiple of the
divisor that is taken away does not fit, although the remainder itself always would.  Sums and
products are exact as well, and NULL as soon as a total on the way from the first operand to the
last does not fit.  So two orders of the operands never give two different integers, but one of them
may give NULL where the other gives an integer.  No order does where the operands of a sum all have
one sign or where a product is neither zero nor the smallest integer.

## Main definitions

* `Evaluation.DivisionLaws` : what division of two integers gives.
* `Evaluation.TotalLaws` : what a total of integers gives.

## Main results

* `Evaluation.divisionLaws` : division of integers.
* `Evaluation.totalLaws` : sums and products of integers.
-/

namespace AssessmentItem.Evaluation

open Integer

variable {store : Store} {op : Operator}

/-- The value that `op` has for the integers `xs`. -/
theorem yields_of_integers (xs : List Int64) {v : Value} (hop : op ≠ .random)
    (harity : op.signature.arity.accepts xs.length) (hk : .single ∈ op.signature.cardinalities)
    (ht : op.signature.baseTypes.accepts .integer)
    (h : combine store op (xs.map Value.integer) = .ok v) :
    Yields store op (xs.map Value.integer) v := by
  refine yields_of_combine hop ?_ (fun _ ↦ ?_) ?_ h
  · rwa [List.length_map]
  · rw [List.forall_mem_map]
    exact fun _ _ ↦ rfl
  · rw [List.forall_mem_map]
    exact fun _ _ ↦ Signature.admits_single hk ht

/-! ### Division -/

/-- What `.integerDivide` and `.integerModulus` give for `x` and `y`. -/
structure DivisionLaws (store : Store) (x y : Int64) : Prop where
  zero : y = 0 → Yields store .integerDivide [.integer x, .integer y] .null ∧
    Yields store .integerModulus [.integer x, .integer y] .null
  quotient : y ≠ 0 → ¬(x = Int64.minValue ∧ y = -1) →
    ∃ q, Yields store .integerDivide [.integer x, .integer y] (.integer q) ∧
      q.toInt = ⌊(x.toInt : ℚ) / y.toInt⌋
  remainder : y ≠ 0 → ¬(x = Int64.minValue ∧ y = -1) →
    InRange (y.toInt * ⌊(x.toInt : ℚ) / y.toInt⌋) →
    ∃ r, Yields store .integerModulus [.integer x, .integer y] (.integer r) ∧
      r.toInt = x.toInt - y.toInt * ⌊(x.toInt : ℚ) / y.toInt⌋ ∧
      (r.toInt = 0 ∨ r.toInt.sign = y.toInt.sign) ∧ |r.toInt| < |y.toInt|
  /-- The remainder is lost where the multiple of `y` does not fit. -/
  lost : y ≠ 0 → ¬(x = Int64.minValue ∧ y = -1) →
    ¬InRange (y.toInt * ⌊(x.toInt : ℚ) / y.toInt⌋) →
    Yields store .integerModulus [.integer x, .integer y] .null

section Division

variable {x y : Int64}

theorem yields_integerDivide (store : Store) (x y : Int64) :
    Yields store .integerDivide [.integer x, .integer y] (integerOrNull (floorDiv? x y)) :=
  yields_of_integers [x, y] nofun rfl (by decide) rfl rfl

theorem yields_integerModulus (store : Store) (x y : Int64) :
    Yields store .integerModulus [.integer x, .integer y] (integerOrNull (floorMod? x y)) :=
  yields_of_integers [x, y] nofun rfl (by decide) rfl rfl

theorem divisionLaws (store : Store) (x y : Int64) : DivisionLaws store x y where
  zero hy := by
    have hquotient := yields_integerDivide store x y
    have hremainder := yields_integerModulus store x y
    subst hy
    exact ⟨hquotient, hremainder⟩
  quotient hy hxy := by
    obtain ⟨q, hq, hvalue⟩ := exists_fit? (inRange_floor_div hy hxy)
    have hyields := yields_integerDivide store x y
    rw [floorDiv?_eq x hy, hq] at hyields
    exact ⟨q, hyields, hvalue⟩
  remainder hy hxy hmultiple := by
    obtain ⟨r, hr, hvalue⟩ := exists_floorMod? hy rfl (inRange_floor_div hy hxy) hmultiple
    have hyields := yields_integerModulus store x y
    rw [hr] at hyields
    obtain ⟨hlt, hsign⟩ := leftover_bounds x.toInt (toInt_ne_zero hy)
    rw [← hvalue] at hlt hsign
    exact ⟨r, hyields, hvalue, hsign, hlt⟩
  lost hy hxy hmultiple := by
    have hyields := yields_integerModulus store x y
    rwa [floorMod?_eq_none hy rfl (inRange_floor_div hy hxy) hmultiple] at hyields

/-- The remainder of `Int64.minValue` by three is one, but three times the quotient does not fit. -/
theorem remainder_lost_minValue :
    Int64.minValue.toInt -
          (3 : Int64).toInt * ⌊(Int64.minValue.toInt : ℚ) / (3 : Int64).toInt⌋ = 1 ∧
      Yields ⟨[]⟩ .integerModulus [.integer Int64.minValue, .integer 3] .null ∧
      ¬∃ r, Yields ⟨[]⟩ .integerModulus [.integer Int64.minValue, .integer 3] (.integer r) := by
  have hnull := yields_integerModulus ⟨[]⟩ Int64.minValue 3
  refine ⟨?_, hnull, ?_⟩
  · rw [floor_div_eq_fdiv _ (by decide)]
    decide
  · rintro ⟨r, hr⟩
    have hunique : Value.integer r = .null :=
      Yields.unique [.integer Int64.minValue, .integer 3] hr hnull
    nomatch hunique

end Division

/-! ### Totals -/

/-- The value of a `total` of integers that is formed from the first one on. -/
inductive IsTotal (total : List ℤ → ℤ) (xs : List Int64) : Value → Prop
  | found {n : Int64} (hn : n.toInt = total (xs.map Int64.toInt))
      (h : ∀ p, p <+: xs → InRange (total (p.map Int64.toInt))) : IsTotal total xs (.integer n)
  | lost {p : List Int64} (hp : p <+: xs) (h : ¬InRange (total (p.map Int64.toInt))) :
      IsTotal total xs .null

/-- No two integers have opposite signs. -/
def OneSign (l : List ℤ) : Prop := (∀ n ∈ l, 0 ≤ n) ∨ ∀ n ∈ l, n ≤ 0

/-- A product is neither zero nor the smallest integer. -/
def Plain (l : List ℤ) : Prop := 0 ∉ l ∧ l.prod ≠ -9223372036854775808

instance (l : List ℤ) : Decidable (Plain l) := inferInstanceAs (Decidable (_ ∧ _))

/-- What the operator `op` gives for integers of which it is said to form the `total`. `Steady`
lists are those in which no total on the way is farther from the range than the whole. -/
structure TotalLaws (store : Store) (op : Operator) (total : List ℤ → ℤ) (Steady : List ℤ → Prop)
    (xs : List Int64) : Prop where
  found : (∀ p, p <+: xs → InRange (total (p.map Int64.toInt))) →
    ∃ n, Yields store op (xs.map Value.integer) (.integer n) ∧
      n.toInt = total (xs.map Int64.toInt)
  lost : (∃ p, p <+: xs ∧ ¬InRange (total (p.map Int64.toInt))) →
    Yields store op (xs.map Value.integer) .null
  /-- In another order `ys` the result is the same, if there is one in both orders. -/
  perm {ys : List Int64} : xs.Perm ys → ∃ v w, Yields store op (xs.map Value.integer) v ∧
    Yields store op (ys.map Value.integer) w ∧ (v = w ∨ v = .null ∨ w = .null)
  /-- In every order the whole alone decides, for what is `Steady`. -/
  steady {ys : List Int64} : Steady (xs.map Int64.toInt) → xs.Perm ys →
    (InRange (total (xs.map Int64.toInt)) →
      ∃ n, Yields store op (ys.map Value.integer) (.integer n) ∧
        n.toInt = total (xs.map Int64.toInt)) ∧
    (¬InRange (total (xs.map Int64.toInt)) → Yields store op (ys.map Value.integer) .null)

section Totals

variable {total : List ℤ → ℤ} {Steady : List ℤ → Prop} {xs ys : List Int64}

theorem mapM_readNumber_integers : (xs : List Int64) →
    (xs.map Value.integer).mapM readNumber = .ok (xs.map Number.integer)
  | [] => rfl
  | x :: xs => by
      rw [List.map_cons, List.mapM_cons, mapM_readNumber_integers xs]
      rfl

theorem mapM_integer?_integers : (xs : List Int64) →
    (xs.map Number.integer).mapM Number.integer? = some xs
  | [] => rfl
  | x :: xs => by
      rw [List.map_cons, List.mapM_cons, mapM_integer?_integers xs]
      rfl

theorem foldNumbers_integers (exact : Int64 → Int64 → Option Int64)
    (rounded : Float → Float → Float) (start : Int64) (xs : List Int64) :
    foldNumbers exact rounded start (xs.map Value.integer) =
      .ok (integerOrNull (xs.foldlM exact start)) := by
  rw [foldNumbers, mapM_readNumber_integers]
  simp only [bind, Except.bind, mapM_integer?_integers]
  rfl

theorem yields_sum (store : Store) (hxs : xs ≠ []) :
    Yields store .sum (xs.map Value.integer) (integerOrNull (xs.foldlM add? 0)) :=
  yields_of_integers xs nofun (decide_eq_true (List.length_pos_iff.2 hxs)) (by decide) rfl
    (foldNumbers_integers _ _ _ xs)

theorem yields_product (store : Store) (hxs : xs ≠ []) :
    Yields store .product (xs.map Value.integer) (integerOrNull (xs.foldlM mul? 1)) :=
  yields_of_integers xs nofun (decide_eq_true (List.length_pos_iff.2 hxs)) (by decide) rfl
    (foldNumbers_integers _ _ _ xs)

theorem isTotal_foldlM {f : ℤ → ℤ → ℤ} {start : Int64}
    (htotal : ∀ l, total l = l.foldl f start.toInt) (xs : List Int64) :
    IsTotal total xs (integerOrNull (xs.foldlM (fun a b ↦ fit? (f a.toInt b.toInt)) start)) := by
  by_cases h : ∀ p, p <+: xs → InRange (total (p.map Int64.toInt))
  · obtain ⟨n, hn, hvalue⟩ := exists_foldlM_fit? f fun p hp ↦ htotal _ ▸ h p hp
    rw [hn]
    exact .found (hvalue.trans (htotal _).symm) h
  · push Not at h
    obtain ⟨p, hp, hout⟩ := h
    rw [foldlM_fit?_eq_none f ⟨p, hp, htotal _ ▸ hout⟩]
    exact .lost hp hout

theorem IsTotal.eq_or_null (hperm : xs.Perm ys)
    (htotal : ∀ l l' : List ℤ, l.Perm l' → total l = total l') {v w : Value}
    (hv : IsTotal total xs v) (hw : IsTotal total ys w) : v = w ∨ v = .null ∨ w = .null := by
  cases hv with
  | lost => exact .inr (.inl rfl)
  | found hn =>
    cases hw with
    | lost => exact .inr (.inr rfl)
    | found hm =>
      rw [htotal _ _ (hperm.map _), ← hm] at hn
      exact .inl (congrArg Value.integer (Int64.toInt_inj.1 hn))

/-- An operator follows `TotalLaws` if what it gives for integers `IsTotal`. -/
theorem totalLaws_of_isTotal
    (h : ∀ xs : List Int64, xs ≠ [] →
      ∃ v, Yields store op (xs.map Value.integer) v ∧ IsTotal total xs v)
    (htotal : ∀ l l' : List ℤ, l.Perm l' → total l = total l')
    (hperm : ∀ l l' : List ℤ, l.Perm l' → Steady l → Steady l')
    (hsteady : ∀ l p : List ℤ, Steady l → p <+: l → InRange (total l) → InRange (total p))
    (hxs : xs ≠ []) : TotalLaws store op total Steady xs where
  found hrange := by
    obtain ⟨v, hv, hvalue⟩ := h xs hxs
    cases hvalue with
    | found hn => exact ⟨_, hv, hn⟩
    | lost hp hout => exact absurd (hrange _ hp) hout
  lost hout := by
    obtain ⟨v, hv, hvalue⟩ := h xs hxs
    cases hvalue with
    | found _ hrange =>
      obtain ⟨p, hp, hout⟩ := hout
      exact absurd (hrange p hp) hout
    | lost => exact hv
  perm {ys} hys := by
    obtain ⟨v, hv, hvtotal⟩ := h xs hxs
    obtain ⟨w, hw, hwtotal⟩ := h ys fun hnil ↦ hxs (hys.trans (.of_eq hnil)).eq_nil
    exact ⟨v, w, hv, hw, hvtotal.eq_or_null hys htotal hwtotal⟩
  steady {ys} hs hys := by
    obtain ⟨w, hw, hwtotal⟩ := h ys fun hnil ↦ hxs (hys.trans (.of_eq hnil)).eq_nil
    have heq := htotal _ _ (hys.map Int64.toInt)
    constructor
    · intro hrange
      rw [heq] at hrange ⊢
      cases hwtotal with
      | found hn => exact ⟨_, hw, hn⟩
      | lost hp hout =>
        exact absurd (hsteady _ _ (hperm _ _ (hys.map _) hs) (hp.map _) hrange) hout
    · intro hout
      cases hwtotal with
      | found _ hrange => exact absurd (heq ▸ hrange ys (List.prefix_refl ys)) hout
      | lost => exact hw

theorem OneSign.perm {l l' : List ℤ} (hperm : l.Perm l') (h : OneSign l) : OneSign l' :=
  h.imp (fun h n hn ↦ h n (hperm.mem_iff.2 hn)) fun h n hn ↦ h n (hperm.mem_iff.2 hn)

theorem Plain.perm {l l' : List ℤ} (hperm : l.Perm l') (h : Plain l) : Plain l' :=
  ⟨fun hzero ↦ h.1 (hperm.mem_iff.2 hzero), hperm.prod_eq ▸ h.2⟩

/-- Sums of integers with `OneSign` grow in one direction. -/
theorem OneSign.inRange_sum {l p : List ℤ} (h : OneSign l) (hp : p <+: l) (hl : InRange l.sum) :
    InRange p.sum := by
  obtain ⟨q, rfl⟩ := hp
  rw [List.sum_append] at hl
  simp only [OneSign, List.forall_mem_append] at h
  unfold InRange at *
  obtain ⟨hp, hq⟩ | ⟨hp, hq⟩ := h
  · have hp := List.sum_nonneg hp
    have hq := List.sum_nonneg hq
    omega
  · have hp := List.sum_le_card_nsmul p 0 hp
    have hq := List.sum_le_card_nsmul q 0 hq
    rw [nsmul_zero] at hp hq
    omega

/-- Magnitudes of `Plain` products grow as long as no operand is zero. -/
theorem Plain.inRange_prod {l p : List ℤ} (h : Plain l) (hp : p <+: l) (hl : InRange l.prod) :
    InRange p.prod := by
  obtain ⟨q, rfl⟩ := hp
  obtain ⟨hzero, hmin⟩ := h
  have hq : 1 ≤ q.prod.natAbs :=
    Int.natAbs_pos.2 (List.prod_ne_zero fun hq ↦ hzero (List.mem_append_right p hq))
  have hle : p.prod.natAbs ≤ (p ++ q).prod.natAbs := by
    rw [List.prod_append, Int.natAbs_mul]
    exact Nat.le_mul_of_pos_right _ hq
  unfold InRange at *
  omega

end Totals

/-- What `.sum` and `.product` give is exact, and `.null` where a total on the way does not fit.
Sums of integers with `OneSign` and `Plain` products are `.null` only where the whole does not fit,
in every order. -/
theorem totalLaws (store : Store) {xs : List Int64} (hxs : xs ≠ []) :
    TotalLaws store .sum List.sum OneSign xs ∧ TotalLaws store .product List.prod Plain xs := by
  constructor
  · refine totalLaws_of_isTotal (fun xs hxs ↦ ⟨_, yields_sum store hxs, ?_⟩)
      (fun _ _ ↦ List.Perm.sum_eq) (fun _ _ ↦ OneSign.perm) (fun _ _ ↦ OneSign.inRange_sum) hxs
    exact isTotal_foldlM (fun _ ↦ List.sum_eq_foldl) xs
  · refine totalLaws_of_isTotal (fun xs hxs ↦ ⟨_, yields_product store hxs, ?_⟩)
      (fun _ _ ↦ List.Perm.prod_eq) (fun _ _ ↦ Plain.perm) (fun _ _ ↦ Plain.inRange_prod) hxs
    exact isTotal_foldlM (fun _ ↦ List.prod_eq_foldl) xs

theorem totalLaws_extremes :
    [Int64.maxValue, Int64.minValue, 7] ≠ [] ∧
      (∃ n, Yields ⟨[]⟩ .sum ([Int64.maxValue, Int64.minValue, 7].map Value.integer) (.integer n) ∧
        n.toInt = 6) ∧
      [3037000500, -3037000500] ≠ ([] : List Int64) ∧
      Yields ⟨[]⟩ .product ([-3037000500, 3037000500].map Value.integer) .null := by
  have hsum : [Int64.maxValue, Int64.minValue, 7] ≠ [] := nofun
  have hproduct : [3037000500, -3037000500] ≠ ([] : List Int64) := nofun
  have hprefixes : ∀ p ∈ [Int64.maxValue, Int64.minValue, 7].inits,
      InRange (p.map Int64.toInt).sum := by decide
  refine ⟨hsum, ?_, hproduct, ?_⟩
  · exact (totalLaws ⟨[]⟩ hsum).1.found fun p hp ↦ hprefixes p ((List.mem_inits p _).2 hp)
  · exact ((totalLaws ⟨[]⟩ hproduct).2.steady (by decide) (.swap _ _ _)).2 (by decide)

/-- The greatest integer, one and minus one have the greatest integer as their sum, which `.sum`
finds if one comes last but not if minus one does. Twice the greatest integer is too great for
`.product` even if zero comes next. -/
theorem total_lost_in_order :
    InRange ([Int64.maxValue, 1, -1].map Int64.toInt).sum ∧
      Yields ⟨[]⟩ .sum ([Int64.maxValue, -1, 1].map Value.integer) (.integer Int64.maxValue) ∧
      Yields ⟨[]⟩ .sum ([Int64.maxValue, 1, -1].map Value.integer) .null ∧
      InRange ([Int64.maxValue, 2, 0].map Int64.toInt).prod ∧
      Yields ⟨[]⟩ .product ([0, Int64.maxValue, 2].map Value.integer) (.integer 0) ∧
      Yields ⟨[]⟩ .product ([Int64.maxValue, 2, 0].map Value.integer) .null ∧
      ¬∀ xs ys : List Int64, xs ≠ [] → xs.Perm ys → ∃ v,
        Yields ⟨[]⟩ .sum (xs.map Value.integer) v ∧ Yields ⟨[]⟩ .sum (ys.map Value.integer) v := by
  have hfound : Yields ⟨[]⟩ .sum ([Int64.maxValue, -1, 1].map Value.integer)
      (.integer Int64.maxValue) := yields_sum ⟨[]⟩ nofun
  have hlost : Yields ⟨[]⟩ .sum ([Int64.maxValue, 1, -1].map Value.integer) .null :=
    yields_sum ⟨[]⟩ nofun
  refine ⟨by decide, hfound, hlost, by decide, yields_product ⟨[]⟩ nofun, yields_product ⟨[]⟩ nofun,
    fun h ↦ ?_⟩
  obtain ⟨v, hv, hv'⟩ := h [Int64.maxValue, -1, 1] [Int64.maxValue, 1, -1] nofun
    (.cons _ (.swap _ _ _))
  have hmax : v = .integer Int64.maxValue :=
    Yields.unique ([Int64.maxValue, -1, 1].map .integer) hv hfound
  have hnull : v = .null := Yields.unique ([Int64.maxValue, 1, -1].map .integer) hv' hlost
  nomatch hmax.symm.trans hnull

end AssessmentItem.Evaluation
