import AssessmentItem.Proofs.Binary64.Order
import AssessmentItem.Proofs.Json.Equality
import AssessmentItem.Proofs.Value.Literal

/-!
# What the rendering of a value tells

A value is rendered as a JSON value with its cardinality and its base type, so that the content can
be told apart from the same content of another type.  The rendering loses nothing but which NaN a
number is and the sign of a zero.

## Main definitions

* `Binary64.Identified` : numbers that are the same up to NaN and zero.
* `Scalar.Identical`, `Value.Identical` : scalars and values that are the same up to that.

## Main results

* `Binary64.same_floatJson_iff`, `Scalar.same_toJson_iff` : the renderings of numbers and scalars.
* `Value.same_toJson_iff` : the rendering of a value determines the value.
-/

namespace AssessmentItem

/-! ### Numbers -/

namespace Binary64

variable {x y : Float} {a : ℚ}

/-- The same number, or two with `isNaN`, or zero and zero. -/
def Identified (x y : Float) : Prop := x = y ∨ x.isNaN ∧ y.isNaN ∨ x == 0 ∧ y == 0

/-- A number that is not zero is determined by its `value?`. -/
theorem eq_or_eq_zero_of_value? (hx : value? x = some a) (hy : value? y = some a) :
    x = y ∨ a = 0 := by
  obtain ⟨_, _, rfl⟩ | ⟨s, m, e, hm, hu, hcanonical, ha⟩ := unpack_cases hx
  · exact .inr rfl
  · obtain ⟨_, _, rfl⟩ | ⟨t, n, f, hn, hu', hcanonical', ha'⟩ := unpack_cases hy
    · exact .inr rfl
    · left
      have hpos : (0 : ℚ) < m * 2 ^ e := by positivity
      have hpos' : (0 : ℚ) < n * 2 ^ f := by positivity
      have heq : m * 2 ^ e = (n : ℚ) * 2 ^ f ∧ s = t := by
        rw [ha] at ha'
        cases s <;> cases t <;> simp only [applySign, neg_inj] at ha'
        · exact ⟨ha', rfl⟩
        · linarith
        · linarith
        · exact ⟨ha', rfl⟩
      obtain ⟨hvalue, rfl⟩ := heq
      obtain ⟨rfl, rfl⟩ := hcanonical.unique hcanonical' hvalue
      rw [← pack_unpack x, ← pack_unpack y, hu, hu']

theorem isFinite_iff : x.isFinite ↔ ∃ a, value? x = some a := by
  refine ⟨exists_value_of_isFinite, ?_⟩
  rintro ⟨a, hx⟩
  change x.toModel.unpack.isFinite = true
  obtain ⟨s, hu, -⟩ | ⟨s, m, e, hm, hu, -⟩ := unpack_cases hx <;> rw [hu] <;> rfl

theorem isFinite_of_beq_zero (h : x == 0) : x.isFinite := by
  obtain ⟨p, hp, hzero⟩ := beq_iff_place.1 h
  rw [place?_of_value? value?_zero] at hzero
  obtain rfl := Option.some.inj hzero
  obtain ⟨a, hx, -⟩ | ⟨s, -, hs⟩ := place?_cases hp
  · exact isFinite_iff.2 ⟨a, hx⟩
  · cases s <;> nomatch hs

theorem not_isFinite_of_isNaN (h : x.isNaN) : ¬x.isFinite := by
  rw [isFinite_iff]
  rintro ⟨a, hx⟩
  rw [← place?_eq_none_iff, place?_of_value? hx] at h
  nomatch h

theorem literalText_of_isNaN (h : x.isNaN) : literalText x = "NaN" := by
  have hparts : parts? x = none := by
    rw [Option.eq_none_iff_forall_ne_some]
    intro p hp
    exact not_isFinite_of_isNaN h (isFinite_iff.2 ⟨p.value, by rw [value?, hp, Option.map_some]⟩)
  rw [literalText, plainWith, hparts]
  exact if_pos h

theorem literalText_injective : Function.Injective literalText := by
  intro x y h
  have hx := (Scalar.readFloat_literalText x).2
  rw [h, (Scalar.readFloat_literalText y).2] at hx
  exact (Except.ok.inj hx).symm

/-- Numbers that are `Identified` are finite or not together. -/
theorem Identified.isFinite_iff (h : Identified x y) : x.isFinite ↔ y.isFinite := by
  obtain rfl | ⟨hx, hy⟩ | ⟨hx, hy⟩ := h
  · rfl
  · exact iff_of_false (not_isFinite_of_isNaN hx) (not_isFinite_of_isNaN hy)
  · exact iff_of_true (isFinite_of_beq_zero hx) (isFinite_of_beq_zero hy)

/-- Finite numbers are equal under `==` up to the sign of zero. -/
theorem beq_iff_identified (hx : x.isFinite) (hy : y.isFinite) : x == y ↔ Identified x y := by
  obtain ⟨a, ha⟩ := exists_value_of_isFinite hx
  obtain ⟨b, hb⟩ := exists_value_of_isFinite hy
  rw [beq_iff ha hb]
  constructor
  · rintro rfl
    obtain heq | rfl := eq_or_eq_zero_of_value? ha hb
    · exact .inl heq
    · exact .inr (.inr ⟨(beq_iff ha value?_zero).2 rfl, (beq_iff hb value?_zero).2 rfl⟩)
  · rintro (rfl | ⟨hnan, -⟩ | ⟨hzero, hzero'⟩)
    · exact Option.some.inj (ha.symm.trans hb)
    · exact absurd hx (not_isFinite_of_isNaN hnan)
    · rw [(beq_iff ha value?_zero).1 hzero, (beq_iff hb value?_zero).1 hzero']

/-- Of the infinities and NaN each has its own `literalText`. -/
theorem literalText_eq_iff (hx : ¬x.isFinite) : literalText x = literalText y ↔ Identified x y := by
  constructor
  · exact fun h ↦ .inl (literalText_injective h)
  · rintro (rfl | ⟨hnan, hnan'⟩ | ⟨hzero, -⟩)
    · rfl
    · rw [literalText_of_isNaN hnan, literalText_of_isNaN hnan']
    · exact absurd (isFinite_of_beq_zero hzero) hx

/-- What `floatJson` loses of a number is which NaN it is and the sign of zero alone. -/
theorem same_floatJson_iff :
    Json.same (Scalar.floatJson x) (Scalar.floatJson y) ↔ Identified x y := by
  unfold Scalar.floatJson
  by_cases hx : x.isFinite <;> by_cases hy : y.isFinite
  · rw [if_pos hx, if_pos hy, Json.same]
    exact beq_iff_identified hx hy
  · rw [if_pos hx, if_neg hy]
    exact iff_of_false Bool.false_ne_true fun h ↦ hy (h.isFinite_iff.1 hx)
  · rw [if_neg hx, if_pos hy]
    exact iff_of_false Bool.false_ne_true fun h ↦ hx (h.isFinite_iff.2 hy)
  · rw [if_neg hx, if_neg hy, Json.same_string_iff, literalText_eq_iff hx]

end Binary64

/-! ### Scalars -/

theorem Cardinality.name_injective : Function.Injective name := fun c d h ↦ by
  rw [← Option.some_inj, ← ofName?_name c, ← ofName?_name d, h]

theorem BaseType.name_injective : Function.Injective name := fun t u h ↦ by
  rw [← Option.some_inj, ← ofName?_name t, ← ofName?_name u, h]

namespace Json

theorem same_ofInteger_iff {m n : Int64} : same (ofInteger m) (ofInteger n) ↔ m = n := by
  constructor
  · intro h
    have heq : ofInteger m = ofInteger n := by
      revert h
      unfold ofInteger
      split <;> split <;> simp [same]
    have hview := restores_integer.view_encode n
    rw [← heq, restores_integer.view_encode m] at hview
    exact Option.some.inj hview
  · rintro rfl
    unfold ofInteger
    split <;> simp [same]

end Json

namespace Scalar

/-- The same scalar, with numbers that are `Identified`. -/
def Identical : Scalar → Scalar → Prop
  | float x, float y | duration x, duration y => Binary64.Identified x y
  | s, t => s = t

variable {s t : Scalar}

theorem Identical.baseType_eq (h : s.Identical t) : s.baseType = t.baseType := by
  unfold Identical at h
  split at h
  · rfl
  · rfl
  · rw [h]

/-- Of one `baseType` the rendering of a scalar determines the scalar. -/
theorem same_toJson_iff (htype : s.baseType = t.baseType) :
    Json.same s.toJson t.toJson ↔ s.Identical t := by
  cases s <;> cases t <;> first | (cases htype; done) | clear htype
  case float.float x y => exact Binary64.same_floatJson_iff
  case duration.duration x y => exact Binary64.same_floatJson_iff
  case file.file a b =>
    obtain ⟨name, contentType, size⟩ := a
    obtain ⟨name', contentType', size'⟩ := b
    have distinct : ["fileName", "contentType", "size"].Nodup := by decide
    rw [toJson, toJson, Json.same_fields_iff distinct rfl rfl]
    simp [Identical, Json.same]
  all_goals
    simp [toJson, Identical, Json.same, Json.same_ofInteger_iff, Json.sameItems, Json.ofStrings]

/-- A rendering beside its `baseType` determines the scalar. -/
theorem same_toJson_and_iff :
    s.baseType = t.baseType ∧ Json.same s.toJson t.toJson ↔ s.Identical t := by
  constructor
  · rintro ⟨htype, h⟩
    exact (same_toJson_iff htype).1 h
  · exact fun h ↦ ⟨h.baseType_eq, (same_toJson_iff h.baseType_eq).2 h⟩

/-- Renderings beside a common base type `type` determine the members. -/
theorem forall₂_same_iff {type : BaseType} {l l' : List Scalar} (hl : ∀ s ∈ l, s.baseType = type)
    (hl' : ∀ s ∈ l', s.baseType = type) :
    List.Forall₂ (fun s t ↦ Json.same s.toJson t.toJson) l l' ↔ List.Forall₂ Identical l l' := by
  induction l generalizing l' with
  | nil => cases l' <;> simp
  | cons s l ih =>
    cases l' with
    | nil => simp
    | cons t l' =>
      obtain ⟨hs, hl⟩ := List.forall_mem_cons.1 hl
      obtain ⟨ht, hl'⟩ := List.forall_mem_cons.1 hl'
      rw [List.forall₂_cons, List.forall₂_cons, same_toJson_iff (hs.trans ht.symm), ih hl hl']

/-- The object of a record's field, with `"baseType"` and `"value"`, determines the scalar. -/
theorem same_typedField_iff :
    Json.same (.fields [("baseType", .string s.baseType.name), ("value", s.toJson)])
      (.fields [("baseType", .string t.baseType.name), ("value", t.toJson)]) ↔ s.Identical t := by
  have distinct : ["baseType", "value"].Nodup := by decide
  rw [Json.same_fields_iff distinct rfl rfl, ← same_toJson_and_iff]
  simp [BaseType.name_injective.eq_iff]

end Scalar

/-! ### Values -/

namespace Value

/-- The same value, with scalars that are `Identical`: of one cardinality and base type, with the
same members in the same order or under the same names. -/
def Identical : Value → Value → Prop
  | null, null => True
  | single s, single t => s.Identical t
  | multiple c, multiple d | ordered c, ordered d =>
    c.baseType = d.baseType ∧ List.Forall₂ Scalar.Identical c.members d.members
  | record fields, record fields' => FieldMap.Rel Scalar.Identical fields fields'
  | _, _ => False

variable {v w : Value} {k l : Cardinality} {t u : BaseType} {content content' : Json}

theorem Identical.cardinality?_eq (h : v.Identical w) : v.cardinality? = w.cardinality? := by
  unfold Identical at h
  split at h <;> first | rfl | exact h.elim

theorem same_typedJson_iff : Json.same (typedJson k t content) (typedJson l u content') ↔
    k = l ∧ t = u ∧ Json.same content content' := by
  have distinct : ["cardinality", "baseType", "value"].Nodup := by decide
  rw [typedJson, typedJson, Json.same_fields_iff distinct rfl rfl]
  simp [Cardinality.name_injective.eq_iff, BaseType.name_injective.eq_iff]

/-- The rendering of a value that is not `.null` has its `"cardinality"`. -/
theorem field?_toJson_cardinality (v : Value) :
    v.toJson.field? "cardinality" = v.cardinality?.map fun k ↦ .string k.name := by
  have typed (k : Cardinality) (t : BaseType) (content : Json) :
      (typedJson k t content).field? "cardinality" = some (.string k.name) := by
    have distinct : ["cardinality", "baseType", "value"].Nodup := by decide
    exact Json.field?_fields distinct rfl _
  cases v with
  | null => rfl
  | single s => exact typed _ _ _
  | multiple c => exact typed _ _ _
  | ordered c => exact typed _ _ _
  | record fields =>
    have distinct : ["cardinality", "value"].Nodup := by decide
    exact Json.field?_fields distinct rfl _

theorem cardinality?_eq_of_same (h : Json.same v.toJson w.toJson) :
    v.cardinality? = w.cardinality? := by
  have hfield := Json.same_field? h "cardinality"
  rw [field?_toJson_cardinality, field?_toJson_cardinality] at hfield
  revert hfield
  cases v.cardinality? with
  | none =>
    cases w.cardinality? with
    | none => exact fun _ ↦ rfl
    | some l => exact nofun
  | some k =>
    cases w.cardinality? with
    | none => exact nofun
    | some l =>
      intro hfield
      cases hfield with
      | some hname => rw [Cardinality.name_injective (Json.same_string_iff.1 hname)]

/-- What `toJson` loses of a value is which NaN a number is and the sign of a zero alone. -/
theorem same_toJson_iff : Json.same v.toJson w.toJson ↔ v.Identical w := by
  by_cases hk : v.cardinality? = w.cardinality?
  · cases v <;> cases w <;> first | (cases hk; done) | clear hk
    case null.null => exact iff_of_true rfl trivial
    case single.single s t =>
      rw [toJson, toJson, same_typedJson_iff, Scalar.same_toJson_and_iff]
      exact and_iff_right rfl
    case multiple.multiple c d =>
      rw [toJson, toJson, same_typedJson_iff, and_iff_right rfl, Json.same_array_map_iff]
      exact and_congr_right fun htype ↦ Scalar.forall₂_same_iff c.uniform (htype ▸ d.uniform)
    case ordered.ordered c d =>
      rw [toJson, toJson, same_typedJson_iff, and_iff_right rfl, Json.same_array_map_iff]
      exact and_congr_right fun htype ↦ Scalar.forall₂_same_iff c.uniform (htype ▸ d.uniform)
    case record.record fields fields' =>
      have distinct : ["cardinality", "value"].Nodup := by decide
      rw [toJson, toJson, Json.same_fields_iff distinct rfl rfl]
      simp [Json.same_ofMap_iff, FieldMap.rel_map_iff, Scalar.same_typedField_iff, Identical]
  · exact iff_of_false (fun h ↦ hk (cardinality?_eq_of_same h)) fun h ↦ hk h.cardinality?_eq

end Value

end AssessmentItem
