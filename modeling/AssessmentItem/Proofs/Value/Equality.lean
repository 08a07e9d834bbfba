import Mathlib
import AssessmentItem.Value.Basic
import AssessmentItem.Proofs.Value.Matching

/-!
# Equality of values

Values are equal if they have the same form and equal scalars in it, and scalars are equal if they
are the same, up to the order of the identifiers of a pair and up to what counts as the same
floating-point number.  Whatever that is, as long as it is symmetric and transitive, equality of
values is so too, and a value is equal to itself exactly if all floating-point numbers in it are.
For the equality of floating-point numbers itself these are the values without NaN.

## Main definitions

* `Scalar.equalBy`, `Value.equalBy` : equality under any equality of floating-point numbers.
* `Scalar.Alike`, `Value.Alike` : the rules by which scalars and values are equal.
* `Value.floats` : the floating-point numbers in a value.
* `EqualityLaws` : what makes equality of values a sound one.

## Main results

* `Scalar.equalBy_iff_alike`, `Value.equalBy_iff_alike` : equality follows the rules.
* `Scalar.equal_eq_equalBy`, `Value.equal_eq_equalBy` : equality is the one under the equality of
  floating-point numbers.
* `Value.equality_sound` : equality of values is sound.
-/

namespace AssessmentItem

/-! ### Scalars -/

namespace Scalar

/-- Equality of scalars under an equality `floats` of floating-point numbers. -/
def equalBy (floats : Float → Float → Bool) : Scalar → Scalar → Bool
  | float x, float y | duration x, duration y => floats x y
  | s, t => s == t

/-- The content of a `float` or a `duration`. -/
def float? : Scalar → Option Float
  | float x | duration x => some x
  | _ => none

/-- The rule by which scalars are equal under `floats`. -/
inductive Alike (floats : Float → Float → Bool) : Scalar → Scalar → Prop
  | same {s : Scalar} (h : s.float? = none) : Alike floats s s
  /-- The identifiers of a `pair` have no order. -/
  | swapped (a b : String) : Alike floats (pair a b) (pair b a)
  | float {x y : Float} (h : floats x y) : Alike floats (float x) (float y)
  | duration {x y : Float} (h : floats x y) : Alike floats (duration x) (duration y)

theorem equal_eq_equalBy (s t : Scalar) : (s == t) = s.equalBy (· == ·) t := by
  unfold equalBy
  split <;> rfl

variable {floats : Float → Float → Bool}

/-- With `equalBy` scalars are compared by `Alike`. -/
theorem equalBy_iff_alike {s t : Scalar} : s.equalBy floats t ↔ Alike floats s t := by
  constructor
  · intro h
    unfold equalBy at h
    split at h
    · exact .float h
    · exact .duration h
    · rename_i hfloat hduration
      change s.equal t = true at h
      unfold equal at h
      split at h
      case h_4 x y => exact (hfloat x y rfl rfl).elim
      case h_9 x y => exact (hduration x y rfl rfl).elim
      all_goals simp only [Bool.and_eq_true, Bool.or_eq_true, beq_iff_eq, Bool.false_eq_true] at h
      case h_6 | h_8 =>
        obtain ⟨rfl, rfl⟩ := h
        exact .same rfl
      case h_7 a b c d =>
        obtain ⟨rfl, rfl⟩ | ⟨rfl, rfl⟩ := h
        · exact .same rfl
        · exact .swapped a b
      all_goals exact h ▸ .same rfl
  · intro h
    cases h with
    | same h => cases s <;> simp_all [equalBy, float?, BEq.beq, equal]
    | swapped a b => simp [equalBy, BEq.beq, equal]
    | float h => exact h
    | duration h => exact h

namespace Alike

variable {s t u : Scalar}

theorem symm (hsymm : ∀ x y, floats x y → floats y x) (h : Alike floats s t) :
    Alike floats t s := by
  cases h with
  | same h => exact .same h
  | swapped a b => exact .swapped b a
  | float h => exact .float (hsymm _ _ h)
  | duration h => exact .duration (hsymm _ _ h)

theorem trans (htrans : ∀ x y z, floats x y → floats y z → floats x z) (h : Alike floats s t)
    (h' : Alike floats t u) : Alike floats s u := by
  cases h with
  | same _ => exact h'
  | swapped a b =>
    cases h' with
    | same _ => exact .swapped a b
    | swapped => exact .same rfl
  | float h =>
    cases h' with
    | same hnone => nomatch hnone
    | float h' => exact .float (htrans _ _ _ h h')
  | duration h =>
    cases h' with
    | same hnone => nomatch hnone
    | duration h' => exact .duration (htrans _ _ _ h h')

/-- A scalar is `Alike` to itself unless it holds a floating-point number that is not. -/
theorem self_iff : Alike floats s s ↔ ∀ x ∈ s.float?, floats x x := by
  constructor
  · intro h x hx
    cases h with
    | same h => rw [h] at hx; nomatch hx
    | swapped a => nomatch hx
    | float h => cases hx; exact h
    | duration h => cases hx; exact h
  · intro h
    cases hs : s.float? with
    | none => exact .same hs
    | some x =>
      cases s with
      | float x => exact .float (h x rfl)
      | duration x => exact .duration (h x rfl)
      | _ => nomatch hs

end Alike

end Scalar

/-! ### Values -/

namespace Value

/-- Equality of values under an equality `floats` of floating-point numbers. -/
def equalBy (floats : Float → Float → Bool) : Value → Value → Bool
  | null, null => true
  | single s, single t => s.equalBy floats t
  | multiple c, multiple d =>
    c.baseType == d.baseType && sameMultisetBy (Scalar.equalBy floats) c.members d.members
  | ordered c, ordered d =>
    c.baseType == d.baseType && c.members.isEqv d.members (Scalar.equalBy floats)
  | record f, record g =>
    f.entries.isEqv g.entries fun a b ↦ a.1 == b.1 && a.2.equalBy floats b.2
  | _, _ => false

/-- The rule by which values are equal under `floats`. -/
inductive Alike (floats : Float → Float → Bool) : Value → Value → Prop
  | null : Alike floats null null
  | single {s t : Scalar} (h : s.Alike floats t) : Alike floats (single s) (single t)
  | multiple {c d : Container} (hbase : c.baseType = d.baseType)
      (h : Multiset.Rel (Scalar.Alike floats) (c.members : Multiset Scalar) d.members) :
      Alike floats (multiple c) (multiple d)
  | ordered {c d : Container} (hbase : c.baseType = d.baseType)
      (h : List.Forall₂ (Scalar.Alike floats) c.members d.members) :
      Alike floats (ordered c) (ordered d)
  | record {f g : FieldMap Scalar}
      (h : List.Forall₂ (fun a b ↦ a.1 = b.1 ∧ a.2.Alike floats b.2) f.entries g.entries) :
      Alike floats (record f) (record g)

/-- The floating-point numbers in a value, those of a `duration` with them. -/
def floats (v : Value) : List Float := v.members.filterMap Scalar.float?

theorem equalFields_eq_isEqv : (a b : List (String × Scalar)) →
    equalFields a b = a.isEqv b fun x y ↦ x.1 == y.1 && x.2.equalBy (· == ·) y.2
  | [], [] => rfl
  | [], _ :: _ | _ :: _, [] => rfl
  | (m, s) :: a, (n, t) :: b => by
      rw [equalFields, List.isEqv, equalFields_eq_isEqv a b, Scalar.equal_eq_equalBy]

theorem sameMultiset_eq_equalBy (a b : List Scalar) :
    sameMultiset a b = sameMultisetBy (Scalar.equalBy (· == ·)) a b := by
  rw [sameMultiset_eq]
  congr 1
  funext s t
  exact Scalar.equal_eq_equalBy s t

/-- Equality of values is `equalBy` under the equality of floating-point numbers. -/
theorem equal_eq_equalBy (v w : Value) : (v == w) = v.equalBy (· == ·) w := by
  cases v <;> cases w
  case single.single s t => exact Scalar.equal_eq_equalBy s t
  case multiple.multiple c d =>
    change (_ && sameMultiset c.members d.members) = _
    rw [sameMultiset_eq_equalBy]
    rfl
  case ordered.ordered c d =>
    change (_ && c.members.beq d.members) = _
    rw [List.beq_eq_isEqv, equalBy]
    congr 2
    funext s t
    exact Scalar.equal_eq_equalBy s t
  case record.record f g => exact equalFields_eq_isEqv f.entries g.entries
  all_goals rfl

section Laws

variable {equals : Float → Float → Bool}

/-- With `sameMultisetBy` the members of containers are compared as related multisets. -/
theorem sameMultisetBy_iff_alike (symm : ∀ x y, equals x y → equals y x)
    (trans : ∀ x y z, equals x y → equals y z → equals x z) (a b : List Scalar) :
    sameMultisetBy (Scalar.equalBy equals) a b ↔
      Multiset.Rel (Scalar.Alike equals) (a : Multiset Scalar) b := by
  rw [sameMultisetBy_iff_rel]
  · simp only [Scalar.equalBy_iff_alike]
  · simp only [Scalar.equalBy_iff_alike]
    exact fun s t ↦ .symm symm
  · simp only [Scalar.equalBy_iff_alike]
    exact fun s t u ↦ .trans trans

/-- With `equalBy` values are compared by `Alike`. -/
theorem equalBy_iff_alike (symm : ∀ x y, equals x y → equals y x)
    (trans : ∀ x y z, equals x y → equals y z → equals x z) {v w : Value} :
    v.equalBy equals w ↔ Alike equals v w := by
  constructor
  · intro h
    unfold equalBy at h
    split at h
    · exact .null
    · exact .single (Scalar.equalBy_iff_alike.1 h)
    · rw [Bool.and_eq_true, beq_iff_eq, sameMultisetBy_iff_alike symm trans] at h
      exact .multiple h.1 h.2
    · rw [Bool.and_eq_true, beq_iff_eq, isEqv_iff_forall₂] at h
      exact .ordered h.1 (h.2.imp fun _ _ ↦ Scalar.equalBy_iff_alike.1)
    · rw [isEqv_iff_forall₂] at h
      refine .record (h.imp fun e e' hequal ↦ ?_)
      rwa [Bool.and_eq_true, beq_iff_eq, Scalar.equalBy_iff_alike] at hequal
    · exact absurd h Bool.false_ne_true
  · intro h
    cases h with
    | null => rfl
    | single h => exact Scalar.equalBy_iff_alike.2 h
    | multiple hbase h =>
      rw [equalBy, Bool.and_eq_true, beq_iff_eq, sameMultisetBy_iff_alike symm trans]
      exact ⟨hbase, h⟩
    | ordered hbase h =>
      rw [equalBy, Bool.and_eq_true, beq_iff_eq, isEqv_iff_forall₂]
      exact ⟨hbase, h.imp fun _ _ ↦ Scalar.equalBy_iff_alike.2⟩
    | record h =>
      rw [equalBy, isEqv_iff_forall₂]
      refine h.imp fun e e' halike ↦ ?_
      rwa [Bool.and_eq_true, beq_iff_eq, Scalar.equalBy_iff_alike]

namespace Alike

variable {u v w : Value}

theorem symm (hsymm : ∀ x y, equals x y → equals y x) (h : Alike equals v w) :
    Alike equals w v := by
  cases h with
  | null => exact .null
  | single h => exact .single (h.symm hsymm)
  | multiple hbase h =>
    refine .multiple hbase.symm ((Multiset.rel_flip.2 h).mono fun s _ t _ hst ↦ ?_)
    exact Scalar.Alike.symm hsymm hst
  | ordered hbase h => exact .ordered hbase.symm (forall₂_symm (fun _ _ ↦ .symm hsymm) h)
  | record h => exact .record (forall₂_symm (fun _ _ h ↦ ⟨h.1.symm, h.2.symm hsymm⟩) h)

theorem trans (htrans : ∀ x y z, equals x y → equals y z → equals x z) (h : Alike equals u v)
    (h' : Alike equals v w) : Alike equals u w := by
  cases h with
  | null => exact h'
  | single h =>
    cases h' with
    | single h' => exact .single (h.trans htrans h')
  | multiple hbase h =>
    cases h' with
    | multiple hbase' h' =>
      have : IsTrans Scalar (Scalar.Alike equals) := ⟨fun _ _ _ ↦ .trans htrans⟩
      exact .multiple (hbase.trans hbase') (h.trans _ h')
  | ordered hbase h =>
    cases h' with
    | ordered hbase' h' =>
      exact .ordered (hbase.trans hbase') (forall₂_trans (fun _ _ _ ↦ .trans htrans) h h')
  | record h =>
    cases h' with
    | record h' =>
      refine .record (forall₂_trans (fun _ _ _ h h' ↦ ?_) h h')
      exact ⟨h.1.trans h'.1, h.2.trans htrans h'.2⟩

/-- A value is `Alike` to itself exactly if its `members` are. -/
theorem self_iff_members (hsymm : ∀ x y, equals x y → equals y x)
    (htrans : ∀ x y z, equals x y → equals y z → equals x z) :
    Alike equals v v ↔ ∀ s ∈ v.members, s.Alike equals s := by
  constructor
  · intro h s hs
    cases h with
    | null => nomatch hs
    | single h => exact List.mem_singleton.1 hs ▸ h
    | multiple _ h =>
      -- whatever `s` is matched with, it is equal to itself by way of it
      obtain ⟨t, -, hst⟩ := Multiset.exists_mem_of_rel_of_mem h hs
      exact hst.trans htrans (hst.symm hsymm)
    | ordered _ h => exact List.forall₂_same.1 h s hs
    | record h =>
      obtain ⟨e, he, rfl⟩ := List.mem_map.1 hs
      exact (List.forall₂_same.1 h e he).2
  · intro h
    cases v with
    | null => exact .null
    | single s => exact .single (h s (List.mem_singleton_self s))
    | multiple c => exact .multiple rfl (Multiset.rel_refl_of_refl_on h)
    | ordered c => exact .ordered rfl (List.forall₂_same.2 h)
    | record f =>
      exact .record (List.forall₂_same.2 fun e he ↦ ⟨rfl, h e.2 (List.mem_map_of_mem he)⟩)

end Alike

/-- The result of `sameMultisetBy` does not depend on the order of the members. -/
theorem sameMultisetBy_perm (symm : ∀ x y, equals x y → equals y x)
    (trans : ∀ x y z, equals x y → equals y z → equals x z) {a a' b b' : List Scalar}
    (ha : a.Perm a') (hb : b.Perm b') :
    sameMultisetBy (Scalar.equalBy equals) a b =
      sameMultisetBy (Scalar.equalBy equals) a' b' := by
  rw [Bool.eq_iff_iff, sameMultisetBy_iff_alike symm trans, sameMultisetBy_iff_alike symm trans,
    Multiset.coe_eq_coe.2 ha, Multiset.coe_eq_coe.2 hb]

end Laws

end Value

/-! ### Soundness -/

/-- What makes equality of values a sound one, under an equality `equals` of floating-point
numbers. -/
structure EqualityLaws (equals : Float → Float → Bool) : Prop where
  symm (v w : Value) : v.equalBy equals w → w.equalBy equals v
  trans (u v w : Value) : u.equalBy equals v → v.equalBy equals w → u.equalBy equals w
  self_iff (v : Value) : v.equalBy equals v ↔ ∀ x ∈ v.floats, equals x x
  /-- Members are matched wherever that is possible. -/
  matching (a b : List Scalar) :
    sameMultisetBy (Scalar.equalBy equals) a b ↔
      a.length = b.length ∧ ∃ σ : Fin a.length ≃ Fin b.length,
        ∀ i, (a.get i).equalBy equals (b.get (σ i))
  perm (a a' b b' : List Scalar) : a.Perm a' → b.Perm b' →
    sameMultisetBy (Scalar.equalBy equals) a b = sameMultisetBy (Scalar.equalBy equals) a' b'
  pair (a b c d : String) :
    (Scalar.pair a b).equalBy equals (.pair c d) ↔ s(a, b) = s(c, d)
  directedPair (a b c d : String) :
    (Scalar.directedPair a b).equalBy equals (.directedPair c d) ↔ (a, b) = (c, d)

theorem equalityLaws_of_partialEquivalence {equals : Float → Float → Bool}
    (symm : ∀ x y, equals x y → equals y x)
    (trans : ∀ x y z, equals x y → equals y z → equals x z) : EqualityLaws equals where
  symm v w := by
    rw [Value.equalBy_iff_alike symm trans, Value.equalBy_iff_alike symm trans]
    exact .symm symm
  trans u v w := by
    simp only [Value.equalBy_iff_alike symm trans]
    exact .trans trans
  self_iff v := by
    rw [Value.equalBy_iff_alike symm trans, Value.Alike.self_iff_members symm trans]
    simp only [Scalar.Alike.self_iff, Value.floats, List.mem_filterMap]
    exact ⟨fun h x ⟨s, hs, hx⟩ ↦ h s hs x hx, fun h s hs x hx ↦ h x ⟨s, hs, hx⟩⟩
  matching a b := by
    rw [Value.sameMultisetBy_iff_alike symm trans, rel_coe_iff_exists_equiv]
    simp only [Scalar.equalBy_iff_alike]
    -- positions that are in bijection are equally many
    exact ⟨fun h ↦ ⟨Fin.equiv_iff_eq.1 ⟨h.choose⟩, h⟩, And.right⟩
  perm _ _ _ _ := Value.sameMultisetBy_perm symm trans
  pair a b c d := by simp [Scalar.equalBy, BEq.beq, Scalar.equal]
  directedPair a b c d := by simp [Scalar.equalBy, BEq.beq, Scalar.equal]

/-! ### The equality in use -/

theorem float_beq_symm (x y : Float) (h : x == y) : y == x := by
  rw [Float.beq_iff_ne_nan_and_eq] at h ⊢
  grind

theorem float_beq_trans (x y z : Float) (h : x == y) (h' : y == z) : x == z := by
  rw [Float.beq_iff_ne_nan_and_eq] at h h' ⊢
  grind

theorem Scalar.beq_iff_alike {s t : Scalar} : s == t ↔ Alike (· == ·) s t := by
  rw [equal_eq_equalBy, equalBy_iff_alike]

instance : PartialEquivBEq Scalar where
  symm h := Scalar.beq_iff_alike.2 ((Scalar.beq_iff_alike.1 h).symm float_beq_symm)
  trans h h' := by
    rw [Scalar.beq_iff_alike] at h h' ⊢
    exact h.trans float_beq_trans h'

/-- A scalar for which `float?` is `none` is equal to itself. -/
theorem Scalar.beq_self_of_float? {s : Scalar} (h : s.float? = none) : s == s :=
  beq_iff_alike.2 (.same h)

namespace Value

/-- Under any symmetric and transitive equality of floating-point numbers, `equalBy` is symmetric
and transitive, and compares the members of a `multiple` value by a matching. The equality `==` is
the one under the equality of floating-point numbers, and a value without NaN is equal to itself. -/
theorem equality_sound {equals : Float → Float → Bool} (symm : ∀ x y, equals x y → equals y x)
    (trans : ∀ x y z, equals x y → equals y z → equals x z) :
    EqualityLaws equals ∧ (∀ v w : Value, (v == w) = v.equalBy (· == ·) w) ∧
      (∀ a b, sameMultiset a b = sameMultisetBy (Scalar.equalBy (· == ·)) a b) ∧
      ∀ v : Value, (v == v) ↔ ∀ x ∈ v.floats, ¬ x.isNaN := by
  refine ⟨equalityLaws_of_partialEquivalence symm trans, equal_eq_equalBy,
    sameMultiset_eq_equalBy, fun v ↦ ?_⟩
  rw [equal_eq_equalBy,
    (equalityLaws_of_partialEquivalence float_beq_symm float_beq_trans).self_iff]
  simp only [Float.beq_self_iff, Float.isNaN_eq_decide_eq_nan, decide_eq_true_eq, ne_eq]

/-- The numbers `0` and `1.5`. -/
def zeroAndMore : Container where
  baseType := .float
  members := [.float 0, .float 1.5]
  uniform := by decide

/-- The numbers of `zeroAndMore` in the other order, with the other zero. -/
def moreAndZero : Container where
  baseType := .float
  members := [.float 1.5, .float (-0)]
  uniform := by decide

theorem equality_sound_zeros :
    (multiple zeroAndMore == multiple moreAndZero) ∧
      (multiple moreAndZero == multiple zeroAndMore) ∧
      ∃ σ : Fin zeroAndMore.members.length ≃ Fin moreAndZero.members.length,
        ∀ i, (zeroAndMore.members.get i).equalBy (· == ·) (moreAndZero.members.get (σ i)) := by
  obtain ⟨laws, hequal, -, -⟩ := equality_sound float_beq_symm float_beq_trans
  have h : (multiple zeroAndMore).equalBy (· == ·) (multiple moreAndZero) := by decide
  rw [hequal, hequal]
  exact ⟨h, laws.symm _ _ h, ((laws.matching _ _).1 (by decide)).2⟩

end Value

end AssessmentItem
