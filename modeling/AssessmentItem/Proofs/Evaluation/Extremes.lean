import AssessmentItem.Proofs.Binary64.Order
import AssessmentItem.Proofs.Evaluation.Integers
import AssessmentItem.Proofs.Evaluation.Comparison
import AssessmentItem.Proofs.Evaluation.Numbers
import AssessmentItem.Proofs.Value.Equality

/-!
# The greatest and the least number

The greatest and the least number are chosen from the first member to the last: a member takes the
place of the one before it if the comparison prefers it.  NaN is never preferred, and nothing is
preferred to it.  So a NaN that comes first is the result, and one that comes later is passed over.
Apart from that the result is a greatest or a least member whatever the order and the grouping.

## Main definitions

* `Evaluation.UpTo` : the order upwards or downwards.
* `Evaluation.IsExtreme` : the value of a greatest or a least member.
* `Evaluation.ExtremeLaws` : what the greatest or the least member of operands is.

## Main results

* `Evaluation.exists_foldl_preferred` : what is chosen by places on a line.
* `Evaluation.extremeLaws` : the greatest and the least member of operands.
-/

namespace AssessmentItem.Evaluation

open Binary64

variable {store : Store} {greatest : Bool}

/-! ### Choice by places on a line -/

/-- The order in which the chosen one comes last: `≤`, or `≥` without the flag. -/
def UpTo {α : Type} [LE α] : Bool → α → α → Prop
  | true, x, y => x ≤ y
  | false, x, y => y ≤ x

section Choice

variable {α β : Type} [LinearOrder β] {p q r : β}

theorem upTo_refl (greatest : Bool) (p : β) : UpTo greatest p p := by
  cases greatest <;> exact le_refl p

theorem UpTo.trans (h : UpTo greatest p q) (h' : UpTo greatest q r) : UpTo greatest p r := by
  cases greatest with
  | true => exact le_trans (a := p) h h'
  | false => exact le_trans (a := r) h' h

theorem upTo_of_not_upTo (h : ¬UpTo greatest p q) : UpTo greatest q p := by
  cases greatest <;> exact le_of_not_ge h

/-- With `better` one is better than another if its `place` is beyond that of the other. -/
def BetterBy (greatest : Bool) (place : α → Option β) (better : α → α → Bool) : Prop :=
  ∀ a b, better a b ↔ ∃ p q, place a = some p ∧ place b = some q ∧ ¬UpTo greatest p q

variable {place : α → Option β} {better : α → α → Bool} {a : α}

/-- What has no `place` stays: nothing is better. -/
theorem foldl_preferred_of_none (hbetter : BetterBy greatest place better)
    (ha : place a = none) (xs : List α) :
    xs.foldl (fun best b ↦ if better b best then b else best) a = a := by
  induction xs with
  | nil => rfl
  | cons x xs ih =>
    have hworse : ¬better x a := by
      rw [hbetter, ha]
      rintro ⟨_, _, -, h, -⟩
      nomatch h
    rw [List.foldl_cons, if_neg hworse]
    exact ih

/-- What is chosen after something with a `place` has one itself, and no place is beyond it. -/
theorem exists_foldl_preferred (hbetter : BetterBy greatest place better)
    (ha : place a = some p) (xs : List α) :
    ∃ b q, xs.foldl (fun best b ↦ if better b best then b else best) a = b ∧ b ∈ a :: xs ∧
      place b = some q ∧ ∀ c ∈ a :: xs, ∀ r, place c = some r → UpTo greatest r q := by
  induction xs generalizing a p with
  | nil =>
    refine ⟨a, p, rfl, List.mem_singleton_self a, ha, ?_⟩
    rw [List.forall_mem_singleton]
    rintro r hr
    cases hr.symm.trans ha
    exact upTo_refl greatest _
  | cons x xs ih =>
    rw [List.foldl_cons]
    by_cases hx : better x a
    · obtain ⟨r, q, hr, hq, hbeyond⟩ := (hbetter x a).1 hx
      cases hq.symm.trans ha
      obtain ⟨b, t, hb, hmem, ht, hbound⟩ := ih hr
      rw [if_pos hx]
      refine ⟨b, t, hb, List.mem_cons_of_mem _ hmem, ht, List.forall_mem_cons.2 ⟨?_, hbound⟩⟩
      intro r' hr'
      cases hr'.symm.trans ha
      exact (upTo_of_not_upTo hbeyond).trans (hbound x List.mem_cons_self r hr)
    · obtain ⟨b, t, hb, hmem, ht, hbound⟩ := ih ha
      rw [List.forall_mem_cons] at hbound
      rw [if_neg hx]
      refine ⟨b, t, hb, ?_, ht, ?_⟩
      · rw [List.mem_cons] at hmem ⊢
        exact hmem.imp_right (List.mem_cons_of_mem x)
      · rw [List.forall_mem_cons, List.forall_mem_cons]
        refine ⟨hbound.1, fun r hr ↦ ?_, hbound.2⟩
        have hle : UpTo greatest r p :=
          by_contra fun hbeyond ↦ hx ((hbetter x a).2 ⟨r, p, hr, ha, hbeyond⟩)
        exact hle.trans (hbound.1 p ha)

end Choice

/-! ### The chosen member -/

/-- The operator `.max` or `.min` that chooses the greatest or the least member. -/
def chooser : Bool → Operator
  | true => .max
  | false => .min

/-- Whether a number is NaN. -/
def Number.isNaN : Number → Bool
  | .integer _ => false
  | .float x => x.isNaN

/-- Whether the first member `isNaN`. -/
def startsWithNaN (xs : List Number) : Bool := xs.head?.any Number.isNaN

/-- The value of a greatest or a least member of `xs`: an integer if all members are, else the
floating-point number of a member. No member is beyond it, unless that is NaN. -/
inductive IsExtreme (greatest : Bool) (xs : List Number) : Value → Prop
  | integer {n : Int64} (hall : ∀ x ∈ xs, ∃ m, x = .integer m) (hn : .integer n ∈ xs)
      (h : ∀ m, .integer m ∈ xs → UpTo greatest m n) : IsExtreme greatest xs (.integer n)
  | float {x : Number} {y : Float} (hy : .float y ∈ xs) (hx : x ∈ xs) (hnan : x.isNaN = false)
      (h : ∀ z ∈ xs, z.isNaN = false → UpTo greatest z.toFloat x.toFloat) :
      IsExtreme greatest xs (.float x.toFloat)

/-- Equality of floating-point numbers under which NaN is equal to itself. -/
def sameNumber (x y : Float) : Bool := x == y || x.isNaN && y.isNaN

/-- What `chooser greatest` gives for operands `vs` with the members `xs`. -/
structure ExtremeLaws (store : Store) (greatest : Bool) (vs : List Value) (xs : List Number) :
    Prop where
  extreme : startsWithNaN xs = false →
    ∃ v, Yields store (chooser greatest) vs v ∧ IsExtreme greatest xs v
  /-- A NaN that comes first, as `startsWithNaN` says, stays. -/
  stuck : startsWithNaN xs → Yields store (chooser greatest) vs (.float Float.nan)
  /-- In another order `ys` or grouping `ws` of the members the result is the same, unless NaN comes
  first in just one of the two. -/
  arranged {ws : List Value} {ys : List Number} : SpreadNumbers ws ys → xs.Perm ys →
    ∃ v w, Yields store (chooser greatest) vs v ∧ Yields store (chooser greatest) ws w ∧
      (v.equalBy sameNumber w ↔ startsWithNaN xs = startsWithNaN ys)

section Extremes

variable {vs ws : List Value} {xs ys : List Number} {v w : Value}

theorem spreadNumbers_singles : (xs : List Number) → SpreadNumbers (xs.map Number.toValue) xs
  | [] => .nil
  | x :: xs => by
      have hx : x.toValue = .single x.toScalar := by cases x <;> rfl
      rw [List.map_cons, hx]
      exact .cons (.single x) (spreadNumbers_singles xs)

theorem isNaN_toFloat (x : Number) : x.toFloat.isNaN = x.isNaN := by
  cases x with
  | integer n =>
    obtain ⟨a, ha, -⟩ := exists_rounds_ofInteger n
    exact exists_place_iff.1 ⟨_, place?_of_value? ha⟩
  | float => rfl

theorem betterBy_integers (greatest : Bool) : BetterBy greatest (fun n : Int64 ↦ some n.toInt)
    fun a b ↦ if greatest then b < a else a < b := by
  intro a b
  cases greatest <;> simp [UpTo, Int64.lt_iff_toInt_lt]

theorem betterBy_floats (greatest : Bool) :
    BetterBy greatest place? fun a b ↦ if greatest then b < a else a < b := by
  intro a b
  cases greatest with
  | true =>
    change decide (b < a) = true ↔ _
    rw [decide_eq_true_iff, lt_iff_place]
    constructor
    · rintro ⟨q, p, hq, hp, hlt⟩
      exact ⟨p, q, hp, hq, not_le.2 hlt⟩
    · rintro ⟨p, q, hp, hq, hbeyond⟩
      exact ⟨q, p, hq, hp, not_le.1 hbeyond⟩
  | false =>
    change decide (a < b) = true ↔ _
    rw [decide_eq_true_iff, lt_iff_place]
    simp only [UpTo, not_le]

theorem upTo_of_place {x y : Float} {p q : WithBot (WithTop ℚ)} (hx : place? x = some p)
    (hy : place? y = some q) (h : UpTo greatest p q) : UpTo greatest x y := by
  cases greatest with
  | true => exact le_iff_place.2 ⟨p, q, hx, hy, h⟩
  | false => exact le_iff_place.2 ⟨q, p, hy, hx, h⟩

theorem exists_preferred_integer (greatest : Bool) {ns : List Int64} (hns : ns ≠ []) :
    ∃ n, preferred (fun (a b : Int64) ↦ if greatest then b < a else a < b) ns = some n ∧ n ∈ ns ∧
      ∀ m ∈ ns, UpTo greatest m n := by
  obtain ⟨a, ns, rfl⟩ := List.exists_cons_of_ne_nil hns
  obtain ⟨n, q, hn, hmem, hq, hbound⟩ :=
    exists_foldl_preferred (betterBy_integers greatest) (a := a) rfl ns
  cases hq
  refine ⟨n, congrArg some hn, hmem, fun m hm ↦ ?_⟩
  have hupTo := hbound m hm _ rfl
  cases greatest <;> exact Int64.le_iff_toInt_le.2 hupTo

theorem exists_preferred_float (greatest : Bool) {x : Float} (hx : x.isNaN = false)
    (xs : List Float) :
    ∃ y, preferred (fun (a b : Float) ↦ if greatest then b < a else a < b) (x :: xs) = some y ∧
      y ∈ x :: xs ∧ y.isNaN = false ∧ ∀ z ∈ x :: xs, z.isNaN = false → UpTo greatest z y := by
  obtain ⟨p, hp⟩ := exists_place_iff.2 hx
  obtain ⟨y, q, hy, hmem, hq, hbound⟩ := exists_foldl_preferred (betterBy_floats greatest) hp xs
  refine ⟨y, congrArg some hy, hmem, exists_place_iff.1 ⟨q, hq⟩, fun z hz hnan ↦ ?_⟩
  obtain ⟨r, hr⟩ := exists_place_iff.2 hnan
  exact upTo_of_place hr hq (hbound z hz r hr)

theorem preferred_nan (greatest : Bool) {x : Float} (hx : x.isNaN) (xs : List Float) :
    preferred (fun (a b : Float) ↦ if greatest then b < a else a < b) (x :: xs) = some x :=
  congrArg some (foldl_preferred_of_none (betterBy_floats greatest) (place?_eq_none_iff.2 hx) xs)

theorem yields_extremum (store : Store) (h : SpreadNumbers vs xs) (hvs : vs ≠ [])
    (hv : extremum greatest vs = .ok v) : Yields store (chooser greatest) vs v := by
  have hsignature : (chooser greatest).signature =
      .strict (.atLeast 1) Signature.nonRecord .numeric := by
    cases greatest <;> rfl
  refine yields_of_members hsignature hvs (fun w hw ↦ ?_) ?_
  · obtain ⟨_, hw⟩ := h.forall_mem w hw
    exact ⟨hw.isNull_eq, hw.admits⟩
  · cases greatest <;> exact hv

theorem extremum_integers (greatest : Bool) {ns : List Int64}
    (h : SpreadNumbers vs (ns.map Number.integer)) :
    extremum greatest vs = orUnreadable
      ((preferred (fun (a b : Int64) ↦ if greatest then b < a else a < b) ns).map .integer) := by
  rw [extremum, h.readAllMembers_eq]
  simp only [bind, Except.bind, mapM_numberOf?_scalars, mapM_integer?_integers]

theorem extremum_floats (greatest : Bool) (h : SpreadNumbers vs xs) {y : Float}
    (hy : .float y ∈ xs) :
    extremum greatest vs = orUnreadable
      ((preferred (fun (a b : Float) ↦ if greatest then b < a else a < b)
        (xs.map Number.toFloat)).map .float) := by
  rw [extremum, h.readAllMembers_eq]
  simp only [bind, Except.bind, mapM_numberOf?_scalars, mapM_integer?_eq_none hy]

/-- Unless `startsWithNaN` a greatest or a least member is chosen. -/
theorem exists_isExtreme (store : Store) (greatest : Bool) (h : SpreadNumbers vs xs) (hvs : vs ≠ [])
    (hfirst : startsWithNaN xs = false) :
    ∃ v, Yields store (chooser greatest) vs v ∧ IsExtreme greatest xs v := by
  obtain ⟨y, hy⟩ | ⟨ns, rfl⟩ := exists_float_or_exists_integers xs
  · have heq := extremum_floats greatest h hy
    obtain ⟨x, xs, rfl⟩ := List.exists_cons_of_ne_nil (h.ne_nil hvs)
    obtain ⟨z, hz, hmem, hnan, hbound⟩ :=
      exists_preferred_float greatest ((isNaN_toFloat x).trans hfirst) (xs.map Number.toFloat)
    rw [List.map_cons, hz] at heq
    rw [← List.map_cons] at hmem hbound
    obtain ⟨w, hw, rfl⟩ := List.mem_map.1 hmem
    refine ⟨_, yields_extremum store h hvs heq, .float hy hw (isNaN_toFloat w ▸ hnan) ?_⟩
    intro u hu hu'
    exact hbound _ (List.mem_map_of_mem hu) ((isNaN_toFloat u).trans hu')
  · have heq := extremum_integers greatest h
    obtain ⟨n, hn, hmem, hbound⟩ :=
      exists_preferred_integer greatest (List.map_eq_nil_iff.not.1 (h.ne_nil hvs))
    rw [hn] at heq
    refine ⟨_, yields_extremum store h hvs heq, .integer ?_ (List.mem_map_of_mem hmem) ?_⟩
    · rw [List.forall_mem_map]
      exact fun m _ ↦ ⟨m, rfl⟩
    · intro m hm
      obtain ⟨m', hm', heq⟩ := List.mem_map.1 hm
      cases heq
      exact hbound m hm'

/-- If `startsWithNaN` it is chosen. -/
theorem yields_nan (store : Store) (greatest : Bool) (h : SpreadNumbers vs xs) (hvs : vs ≠ [])
    (hfirst : startsWithNaN xs) : Yields store (chooser greatest) vs (.float Float.nan) := by
  obtain ⟨x, xs, rfl⟩ := List.exists_cons_of_ne_nil (h.ne_nil hvs)
  cases x with
  | integer => nomatch hfirst
  | float x =>
    have hnan : x.isNaN = true := hfirst
    have heq := extremum_floats greatest h List.mem_cons_self
    rw [List.map_cons, Number.toFloat, preferred_nan greatest hnan] at heq
    rw [Float.isNaN_eq_decide_eq_nan, decide_eq_true_iff] at hnan
    rw [← hnan]
    exact yields_extremum store h hvs heq

/-! ### Another order or grouping -/

theorem IsExtreme.perm (h : IsExtreme greatest xs v) (hperm : xs.Perm ys) :
    IsExtreme greatest ys v := by
  cases h with
  | integer hall hn h =>
    refine .integer (fun x hx ↦ hall x (hperm.mem_iff.2 hx)) (hperm.mem_iff.1 hn) fun m hm ↦ ?_
    exact h m (hperm.mem_iff.2 hm)
  | float hy hx hnan h =>
    refine .float (hperm.mem_iff.1 hy) (hperm.mem_iff.1 hx) hnan fun z hz ↦ ?_
    exact h z (hperm.mem_iff.2 hz)

theorem UpTo.antisymm_float {x y : Float} (h : UpTo greatest x y) (h' : UpTo greatest y x) :
    x == y := by
  cases greatest with
  | true => exact beq_of_le_of_le h h'
  | false => exact beq_of_le_of_le h' h

theorem UpTo.antisymm_integer {m n : Int64} (h : UpTo greatest m n) (h' : UpTo greatest n m) :
    m = n := by
  cases greatest with
  | true => exact Int64.le_antisymm h h'
  | false => exact Int64.le_antisymm h' h

theorem IsExtreme.same (h : IsExtreme greatest xs v) (h' : IsExtreme greatest xs w) :
    v.equalBy sameNumber w := by
  cases h with
  | integer hall hn h =>
    cases h' with
    | integer _ hm h' =>
      rw [(h' _ hn).antisymm_integer (h _ hm)]
      exact Scalar.beq_self_of_float? rfl
    | float hy =>
      obtain ⟨_, heq⟩ := hall _ hy
      nomatch heq
  | float hy hx hnan h =>
    cases h' with
    | integer hall =>
      obtain ⟨_, heq⟩ := hall _ hy
      nomatch heq
    | float _ hx' hnan' h' =>
      exact Bool.or_eq_true_iff.2 (.inl ((h' _ hx hnan).antisymm_float (h _ hx' hnan')))

theorem IsExtreme.not_same_nan (h : IsExtreme greatest xs v) :
    ¬v.equalBy sameNumber (.float Float.nan) ∧ ¬(Value.float Float.nan).equalBy sameNumber v := by
  cases h with
  | integer => exact ⟨nofun, nofun⟩
  | @float x _ _ _ hnan =>
    have hnan : x.toFloat.isNaN = false := (isNaN_toFloat x).trans hnan
    constructor
    · change ¬(x.toFloat == Float.nan || x.toFloat.isNaN && Float.nan.isNaN) = true
      rw [Float.beq_nan_eq_false, hnan]
      exact Bool.false_ne_true
    · change ¬(Float.nan == x.toFloat || Float.nan.isNaN && x.toFloat.isNaN) = true
      rw [Float.nan_beq_eq_false, hnan, Bool.and_false]
      exact Bool.false_ne_true

theorem same_nan : (Value.float Float.nan).equalBy sameNumber (.float Float.nan) := by
  decide

/-- The result `IsExtreme`, in any order and grouping, but a NaN stays where it comes first. -/
theorem extremeLaws (store : Store) (greatest : Bool) (h : SpreadNumbers vs xs) (hvs : vs ≠ []) :
    ExtremeLaws store greatest vs xs where
  extreme := exists_isExtreme store greatest h hvs
  stuck := yields_nan store greatest h hvs
  arranged {ws ys} hws hperm := by
    have hws' : ws ≠ [] := by
      rintro rfl
      cases hws
      exact h.ne_nil hvs hperm.eq_nil
    cases hxs : startsWithNaN xs with
    | true =>
      have hv := yields_nan store greatest h hvs hxs
      cases hys : startsWithNaN ys with
      | true => exact ⟨_, _, hv, yields_nan store greatest hws hws' hys, iff_of_true same_nan rfl⟩
      | false =>
        obtain ⟨w, hw, hextreme⟩ := exists_isExtreme store greatest hws hws' hys
        exact ⟨_, w, hv, hw, iff_of_false hextreme.not_same_nan.2 nofun⟩
    | false =>
      obtain ⟨v, hv, hextreme⟩ := exists_isExtreme store greatest h hvs hxs
      cases hys : startsWithNaN ys with
      | true =>
        exact ⟨v, _, hv, yields_nan store greatest hws hws' hys,
          iff_of_false hextreme.not_same_nan.1 nofun⟩
      | false =>
        obtain ⟨w, hw, hextreme'⟩ := exists_isExtreme store greatest hws hws' hys
        exact ⟨v, w, hv, hw, iff_of_true ((hextreme.perm hperm).same hextreme') rfl⟩

theorem extremeLaws_container :
    SpreadNumbers [.integer 3, .ordered ⟨.float, [.float 2.5, .float 7], by decide⟩]
        [.integer 3, .float 2.5, .float 7] ∧
      [Value.integer 3, .ordered ⟨.float, [.float 2.5, .float 7], by decide⟩] ≠ [] ∧
      ∃ x, Yields ⟨[]⟩ .max [.integer 3, .ordered ⟨.float, [.float 2.5, .float 7], by decide⟩]
        (.float x) ∧ 7 ≤ x := by
  have hspread : SpreadNumbers [.integer 3, .ordered ⟨.float, [.float 2.5, .float 7], by decide⟩]
      [.integer 3, .float 2.5, .float 7] :=
    .cons (.single (.integer 3))
      (.cons (.ordered (List.cons_ne_nil _ _) rfl : HoldsNumbers _ [.float 2.5, .float 7]) .nil)
  refine ⟨hspread, nofun, ?_⟩
  obtain ⟨v, hv, hextreme⟩ := (extremeLaws ⟨[]⟩ true hspread nofun).extreme rfl
  have hseven : Number.float 7 ∈ [.integer 3, .float 2.5, .float 7] := by simp
  cases hextreme with
  | integer hall =>
    obtain ⟨_, heq⟩ := hall _ hseven
    nomatch heq
  | @float x _ _ _ _ h =>
    have hle : UpTo true (7 : Float) x.toFloat := h (.float 7) hseven (by decide)
    exact ⟨x.toFloat, hv, hle⟩

/-- With `.max` the number one is kept in front of NaN, and lost behind it. -/
theorem max_lost_behind_nan :
    Yields ⟨[]⟩ .max ([.float Float.nan, .float 1].map Number.toValue) (.float Float.nan) ∧
      Yields ⟨[]⟩ .max ([.float 1, .float Float.nan].map Number.toValue) (.float 1) ∧
      ¬∀ (xs ys : List Number) (v w : Value), xs ≠ [] → xs.Perm ys →
        Yields ⟨[]⟩ .max (xs.map Number.toValue) v → Yields ⟨[]⟩ .max (ys.map Number.toValue) w →
          v.equalBy sameNumber w := by
  have hnan : Yields ⟨[]⟩ .max ([.float Float.nan, .float 1].map Number.toValue)
      (.float Float.nan) :=
    yields_nan ⟨[]⟩ true (spreadNumbers_singles [.float Float.nan, .float 1])
      (List.cons_ne_nil _ _) (by decide)
  have hone : Yields ⟨[]⟩ .max ([.float 1, .float Float.nan].map Number.toValue) (.float 1) := by
    obtain ⟨v, hv, hextreme⟩ := exists_isExtreme ⟨[]⟩ true
      (spreadNumbers_singles [.float 1, .float Float.nan]) (List.cons_ne_nil _ _) (by decide)
    cases hextreme with
    | integer hall =>
      obtain ⟨_, heq⟩ := hall _ List.mem_cons_self
      nomatch heq
    | float _ hx hnan =>
      simp only [List.mem_cons, List.not_mem_nil, or_false] at hx
      obtain rfl | rfl := hx
      · exact hv
      · exact absurd hnan (by decide)
  refine ⟨hnan, hone, fun h ↦ ?_⟩
  have hsame := h _ _ _ _ (List.cons_ne_nil _ _) (.swap _ _ _) hone hnan
  exact absurd hsame (by decide)

end Extremes

end AssessmentItem.Evaluation
