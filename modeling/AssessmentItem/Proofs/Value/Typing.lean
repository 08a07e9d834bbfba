import AssessmentItem.Value.Literal
import AssessmentItem.Proofs.Computation

/-!
# Types of values

A value is of a type if it is NULL or has the cardinality and, unless it is a record, the base type
of the type, and if no container or record is empty.  The constructors of values build no others,
and a text that is read as a value of a type gives one.

## Main definitions

* `Value.WellFormed` : values as their constructors build them.
* `Value.OfType` : values of a cardinality and a base type.

## Main results

* `Value.ofType_container`, `Value.ofType_ofRecord` : what the constructors build.
* `Value.gives_read` : the values that texts are read as.
-/

namespace AssessmentItem

theorem Cardinality.ofName?_name (c : Cardinality) : ofName? c.name = some c := by
  cases c <;> decide

theorem BaseType.ofName?_name (t : BaseType) : ofName? t.name = some t := by
  cases t <;> decide

/-- A container has `members`, all of its `baseType`, and a record has `entries`. -/
def Value.WellFormed : Value → Prop
  | .null | .single _ => True
  | .multiple c | .ordered c => c.members ≠ [] ∧ ∀ s ∈ c.members, s.baseType = c.baseType
  | .record fields => fields.entries ≠ []

/-- The value is `.null`, or of exactly the `cardinality` and, unless it is a record, of exactly the
`baseType`. -/
structure Value.OfType (v : Value) (cardinality : Cardinality) (baseType : Option BaseType) :
    Prop where
  wellFormed : v.WellFormed
  typed : v = .null ∨
    v.cardinality? = some cardinality ∧ (cardinality ≠ .record → v.baseType? = baseType)

namespace Value

@[simp] theorem wellFormed_null : WellFormed .null := trivial

@[simp] theorem wellFormed_single (s : Scalar) : (single s).WellFormed := trivial

@[simp] theorem wellFormed_integer (n : Int64) : (integer n).WellFormed := trivial

@[simp] theorem wellFormed_float (x : Float) : (float x).WellFormed := trivial

/-- A value without `members` is `.null`. -/
theorem WellFormed.eq_null_of_members {v : Value} (h : v.WellFormed)
    (hmembers : v.members = []) : v = .null := by
  cases v with
  | null => rfl
  | single s => nomatch hmembers
  | multiple c | ordered c => exact absurd hmembers h.1
  | record fields => exact absurd (List.map_eq_nil_iff.1 hmembers) h

theorem ofType_null (cardinality : Cardinality) (baseType : Option BaseType) :
    OfType .null cardinality baseType :=
  ⟨trivial, .inl rfl⟩

theorem ofType_single {s : Scalar} {t : BaseType} (h : s.baseType = t) :
    (single s).OfType .single (some t) :=
  ⟨trivial, .inr ⟨rfl, fun _ ↦ congrArg some h⟩⟩

/-- What `Value.container` builds has the `cardinality` and the `baseType` that are asked for. -/
theorem ofType_container {cardinality : Cardinality} {baseType : BaseType}
    {members : List Scalar} {v : Value}
    (h : Value.container cardinality baseType members = .ok v) :
    v.OfType cardinality (some baseType) := by
  obtain ⟨c, hc, h⟩ := bind_eq_ok_iff.1 h
  have htype : c.baseType = baseType := by
    unfold Container.ofMembers at hc
    split at hc
    · cases hc
    · cases hc
      rfl
  split at h
  · cases h
    exact ofType_null _ _
  · rename_i hempty
    have hne : c.members ≠ [] := by simpa [Container.isEmpty] using hempty
    cases cardinality with
    | multiple =>
      cases h
      exact ⟨⟨hne, c.uniform⟩, .inr ⟨rfl, fun _ ↦ congrArg some htype⟩⟩
    | ordered =>
      cases h
      exact ⟨⟨hne, c.uniform⟩, .inr ⟨rfl, fun _ ↦ congrArg some htype⟩⟩
    | single => cases h
    | record => cases h

theorem ofType_ofRecord (fields : FieldMap Scalar) (baseType : Option BaseType) :
    (ofRecord fields).OfType .record baseType := by
  unfold ofRecord
  split
  · exact ofType_null _ _
  · rename_i hempty
    have hne : fields.entries ≠ [] := by simpa [FieldMap.isEmpty] using hempty
    exact ⟨hne, .inr ⟨rfl, fun h ↦ absurd rfl h⟩⟩

theorem ofType_widen? {v w : Value} (h : v.widen? = some w) :
    w.OfType .single (some .float) := by
  unfold widen? at h
  split at h
  · cases h
    exact ofType_single rfl
  · cases h

end Value

/-! ### Literals -/

/-- What `Scalar.read` reads is of the `baseType`. -/
theorem Scalar.gives_read (text : String) (baseType : BaseType) :
    Gives (Scalar.read text baseType) (fun s ↦ s.baseType = baseType) fun _ ↦ True := by
  unfold Scalar.read
  dsimp only
  cases baseType with
  | string => rfl
  | file => trivial
  | identifier | integer | float =>
    rw [gives_bind]
    exact (gives_any _).of_forall fun _ ↦ rfl
  | boolean =>
    dsimp only
    split
    · rfl
    · split
      · rfl
      · trivial
  | point | pair | directedPair =>
    rw [gives_bind]
    refine (gives_any _).of_forall fun words ↦ ?_
    rw [gives_bind]
    refine (gives_any _).of_forall fun _ ↦ ?_
    rw [gives_bind]
    exact (gives_any _).of_forall fun _ ↦ rfl
  | duration =>
    rw [gives_bind]
    refine (gives_any _).of_forall fun seconds ↦ ?_
    split
    · trivial
    · rfl
  | uri =>
    dsimp only
    split
    · trivial
    · rfl

/-- What `Value.read` reads is of the `cardinality` and the `baseType`. -/
theorem Value.gives_read (texts : List String) (cardinality : Cardinality) (baseType : BaseType) :
    Gives (Value.read texts cardinality baseType) (fun v ↦ v.OfType cardinality (some baseType))
      fun _ ↦ True := by
  unfold Value.read
  dsimp only
  split
  · exact ofType_null _ _
  · rw [gives_bind]
    exact (Scalar.gives_read _ baseType).mono (fun s h ↦ ofType_single h) fun _ _ ↦ trivial
  · trivial
  · trivial
  · rw [gives_bind]
    refine (gives_any _).of_forall fun members ↦ ?_
    rw [gives_mapError]
    exact gives_of_forall_eq (fun v h ↦ ofType_container h) fun _ _ ↦ trivial

end AssessmentItem
