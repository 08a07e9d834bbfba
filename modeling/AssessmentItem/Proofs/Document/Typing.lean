import AssessmentItem.Document.Item
import AssessmentItem.Proofs.Store.Typing

/-!
# Types of written values

The default and the correct value of a declaration are read as values of its type.  So the declared
values of an item that is read from a document have the declared types; those of the variables that
every item declares have them anyway.

## Main results

* `gives_declaration` : the values of a declaration that is read.
* `wellTyped_of_item` : the declared values of an item that is read.
-/

namespace AssessmentItem

/-- A `.record` has no base type, and every other variable has one. -/
def TypeFits (cardinality : Cardinality) (baseType : Option BaseType) : Prop :=
  (cardinality = .record ↔ baseType = none)

/-- A `ValueDocument` is read as a value of the type. -/
theorem gives_value {cardinality : Cardinality} {baseType : Option BaseType}
    (fits : TypeFits cardinality baseType) (context field : String) (v : ValueDocument) :
    Gives (v.value context field cardinality baseType) (fun w ↦ w.OfType cardinality baseType)
      fun _ ↦ True := by
  unfold ValueDocument.value
  dsimp only
  split
  · obtain rfl := fits.2 rfl
    rw [gives_bind]
    exact (gives_any _).of_forall fun entries ↦ Value.ofType_ofRecord _ none
  · trivial
  · trivial
  · trivial
  · rw [gives_mapError]
    exact Value.gives_read _ _ _
  · rw [gives_mapError]
    exact Value.gives_read _ _ _

/-- A `ValueDocument` that may be left out is read as a value of the type, if it is there. -/
theorem gives_value? {cardinality : Cardinality} {baseType : Option BaseType}
    (fits : TypeFits cardinality baseType) (context field : String) (v : Option ValueDocument) :
    Gives (v.mapM (·.value context field cardinality baseType))
      (fun w ↦ (w.getD .null).OfType cardinality baseType) fun _ ↦ True := by
  cases v with
  | none => exact Value.ofType_null _ _
  | some v =>
    rw [Option.mapM_some, gives_map]
    exact gives_value fits context field v

/-- The correct value of a declaration is read by `readDetails` as one of its type. -/
theorem gives_readDetails {d : DeclarationDocument} (fits : TypeFits d.cardinality d.baseType)
    (context : String) :
    Gives (d.readDetails context) (fun details ↦ ∀ response, details = .response response →
      response.correct.OfType d.cardinality d.baseType) fun _ ↦ True := by
  unfold DeclarationDocument.readDetails
  split
  · exact fun _ h ↦ nomatch h
  · rw [gives_bind]
    refine (gives_value? fits context _ d.correct).mono (fun correct hcorrect ↦ ?_) fun _ h ↦ h
    rw [gives_bind]
    refine (gives_any _).of_forall fun mapping ↦ ?_
    rintro response ⟨⟩
    exact hcorrect
  · rw [gives_bind]
    exact (gives_any _).of_forall fun table response h ↦ nomatch h

/-- What `declaration` reads is `WellTyped`. -/
theorem gives_declaration (d : DeclarationDocument) :
    Gives d.declaration VariableDeclaration.WellTyped fun _ ↦ True := by
  have typed (fits : TypeFits d.cardinality d.baseType) (context : String) :
      Gives (ε := DocumentError) (do
        let default ← d.default.mapM (·.value context "defaultValue" d.cardinality d.baseType)
        let details ← d.readDetails context
        return (⟨d.identifier, d.cardinality, d.baseType, default.getD .null, details⟩ :
          VariableDeclaration)) VariableDeclaration.WellTyped fun _ ↦ True := by
    rw [gives_bind]
    refine (gives_value? fits context _ d.default).mono (fun default hdefault ↦ ?_) fun _ h ↦ h
    rw [gives_bind]
    refine (gives_readDetails fits context).mono (fun details hdetails ↦ ?_) fun _ h ↦ h
    refine ⟨hdefault, fun v hv ↦ ?_⟩
    cases details with
    | response response =>
      cases hv
      exact hdetails response rfl
    | template _ => cases hv
    | outcome _ => cases hv
  unfold DeclarationDocument.declaration
  dsimp only
  cases hcard : d.cardinality <;> cases htype : d.baseType <;> rw [hcard, htype] at typed
  case record.some => trivial
  case single.none | multiple.none | ordered.none => trivial
  all_goals exact typed (by simp [TypeFits]) _

theorem wellTyped_of_declareAll {ds l : List VariableDeclaration} (h : declareAll ds = .ok l)
    (hds : ∀ d ∈ ds, d.WellTyped) : ∀ d ∈ l, d.WellTyped := by
  refine declareAll_induction (P := fun l ↦ ∀ d ∈ l, d.WellTyped) h ?_
    fun l l' d hd _ hdeclare hl e he ↦ ?_
  · intro d hd
    obtain ⟨b, -, rfl⟩ := List.mem_map.1 hd
    exact b.wellTyped_declaration
  · rcases mem_of_mem_declare hdeclare he with he | rfl
    · exact hl e he
    · exact hds e hd

/-- An item that is read is `WellTyped`, and it declares every variable once. -/
theorem wellTyped_of_item {d : ItemDocument} {item : Item} (h : d.item = .ok item) :
    item.WellTyped ∧ Declared item.declarations := by
  obtain ⟨declarations, hread, h⟩ := bind_eq_ok_iff.1 h
  obtain ⟨declared, hdeclared, h⟩ := bind_eq_ok_iff.1 h
  obtain ⟨template, -, h⟩ := bind_eq_ok_iff.1 h
  obtain ⟨response, -, h⟩ := bind_eq_ok_iff.1 h
  cases h
  have hall := mapError_eq_ok_iff.1 hdeclared
  have htyped := gives_mapM d.declarations fun e _ ↦ gives_declaration e
  exact ⟨wellTyped_of_declareAll hall (htyped.of_eq_ok hread), declared_of_declareAll hall⟩

end AssessmentItem
