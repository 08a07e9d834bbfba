import AssessmentItem.Response.Validation
import AssessmentItem.Proofs.Processing.Assignments
import AssessmentItem.Proofs.Response.Binding

/-!
# What validity depends on

Whether responses are valid depends on the values that the candidate has given, and on nothing else
that a store holds: the two responses that the session writes have no constraints, unless the item
declares them anew.  So a validation holds for every store with the same values of the candidate,
and neither the rules nor the session itself change any of these.

## Main definitions

* `Store.SameResponses` : two stores have the same values of the candidate.

## Main results

* `validateResponses_congr` : the validity of the same values is the same.
* `Store.SameResponses.of_replays`, `Store.SameResponses.of_write_builtIn` : rules and the session
  leave the values of the candidate.
-/

namespace AssessmentItem

/-! ### The values of the candidate -/

/-- Two stores have the same declarations and the same values of all candidate responses. -/
structure Store.SameResponses (store store' : Store) : Prop where
  declarations_eq : store'.declarations = store.declarations
  value?_eq : ∀ x d, store.declaration? x = some d → d.isCandidateResponse = true →
    store'.value? x = store.value? x

/-- Candidates do not give the values of built-in variables. -/
theorem ne_builtIn_of_isCandidateResponse {l : List VariableDeclaration} (declared : Declared l)
    {x : String} {d : VariableDeclaration} (hd : findDeclaration? l x = some d)
    (hcandidate : d.isCandidateResponse = true) (b : BuiltIn) : x ≠ b.identifier := by
  rintro rfl
  obtain ⟨hkind, hduration, hattempts⟩ := isCandidateResponse_iff.1 hcandidate
  have hid := identifier_of_findDeclaration? hd
  obtain ⟨d', hd', hsame⟩ := declared.builtIn b
  obtain rfl := Option.some.inj (hd'.symm.trans hd)
  cases b with
  | duration => exact hduration hid
  | numAttempts => exact hattempts hid
  | completionStatus =>
    exact absurd ((VariableDeclaration.sameType_iff.1 hsame).1.trans hkind) (by decide)

namespace Store.SameResponses

variable {store store' store'' : Store}

theorem refl (store : Store) : store.SameResponses store := ⟨rfl, fun _ _ _ _ ↦ rfl⟩

theorem trans (h : store.SameResponses store') (h' : store'.SameResponses store'') :
    store.SameResponses store'' where
  declarations_eq := h'.declarations_eq.trans h.declarations_eq
  value?_eq x d hd hcandidate := by
    have hd' : store'.declaration? x = some d := (declaration?_congr h.declarations_eq x).trans hd
    rw [h'.value?_eq x d hd' hcandidate, h.value?_eq x d hd hcandidate]

/-- The session writes built-in variables, which are no candidate responses. -/
theorem of_write_builtIn (declared : Declared store.declarations) {part : SlotPart} {b : BuiltIn}
    {v : Value} (h : store.write part b.identifier v = .ok store') :
    store.SameResponses store' where
  declarations_eq := declarations_write h
  value?_eq x d hd hcandidate := by
    rw [declaration?_eq] at hd
    exact value?_write_of_ne h (ne_builtIn_of_isCandidateResponse declared hd hcandidate b)

theorem of_resetKind_outcome (store : Store) :
    store.SameResponses (store.resetKind .outcome) where
  declarations_eq := declarations_resetKind store .outcome
  value?_eq _ _ hd hcandidate := by
    have hkind := (isCandidateResponse_iff.1 hcandidate).1
    exact value?_resetKind_of_ne hd (by simp [hkind])

/-- The rules assign to outcomes and template variables, and to the overrides of responses. -/
theorem of_replays {as : List Assignment} (h : store.Replays as store') :
    store.SameResponses store' where
  declarations_eq := h.declarations_eq
  value?_eq _ _ hd hcandidate :=
    h.value?_of_response hd (isCandidateResponse_iff.1 hcandidate).1

end Store.SameResponses

/-! ### Validity -/

theorem accepts_unlimited (identifier : String) (members : List Scalar) :
    ResponseConstraints.unlimited.accepts identifier members = .ok true := rfl

/-- An item declares neither `duration` nor `numAttempts` anew, the two responses that the session
writes. -/
structure Item.KeepsBuiltIns (item : Item) : Prop where
  declared : Declared item.declarations
  duration : item.declaration? BuiltIn.duration.identifier = some BuiltIn.duration.declaration
  numAttempts : item.declaration? BuiltIn.numAttempts.identifier =
    some BuiltIn.numAttempts.declaration

theorem keepsBuiltIns_of_declareAll {declarations : List VariableDeclaration} {item : Item}
    (declared : declareAll declarations = .ok item.declarations)
    (kept : ∀ d ∈ declarations, d.identifier ≠ BuiltIn.duration.identifier ∧
      d.identifier ≠ BuiltIn.numAttempts.identifier) : item.KeepsBuiltIns where
  declared := declared_of_declareAll declared
  duration := by
    rw [Item.declaration?, findDeclaration?_declareAll_of_ne declared fun d hd ↦ (kept d hd).1,
      findDeclaration?_builtIns]
  numAttempts := by
    rw [Item.declaration?, findDeclaration?_declareAll_of_ne declared fun d hd ↦ (kept d hd).2,
      findDeclaration?_builtIns]

section Validity

variable {item : Item} {store store' : Store}

theorem isValid_builtIn (store : Store) (b : BuiltIn) :
    isValid store b.declaration = .ok true := by
  unfold isValid
  split
  · rename_i details v hdetails _
    cases b <;> cases hdetails <;> exact accepts_unlimited _ _
  · rfl

/-- A response that is not the candidate's is valid whatever its value is. -/
theorem isValid_eq_of_not_isCandidateResponse (hitem : item.KeepsBuiltIns)
    {d : VariableDeclaration} (hd : d ∈ item.declarationsOf .response)
    (hcandidate : d.isCandidateResponse = false) (store : Store) :
    isValid store d = .ok true := by
  obtain ⟨hmem, hkind⟩ := List.mem_filter.1 hd
  have hfind := findDeclaration?_of_mem hitem.declared.nodup hmem
  have hbuiltIn : d.identifier = BuiltIn.duration.identifier ∨
      d.identifier = BuiltIn.numAttempts.identifier := by
    by_cases hduration : d.identifier = BuiltIn.duration.identifier
    · exact .inl hduration
    · by_cases hattempts : d.identifier = BuiltIn.numAttempts.identifier
      · exact .inr hattempts
      · simp [VariableDeclaration.isCandidateResponse, of_decide_eq_true hkind, hduration,
          hattempts] at hcandidate
  rcases hbuiltIn with hid | hid
  · rw [hid] at hfind
    obtain rfl := Option.some.inj (hitem.duration.symm.trans hfind)
    exact isValid_builtIn store .duration
  · rw [hid] at hfind
    obtain rfl := Option.some.inj (hitem.numAttempts.symm.trans hfind)
    exact isValid_builtIn store .numAttempts

/-- Stores with `SameResponses` are validated alike. -/
theorem validateResponses_congr (hitem : item.KeepsBuiltIns)
    (hstore : store.declarations = item.declarations) (h : store.SameResponses store') :
    validateResponses item store' = validateResponses item store := by
  have hvalid : ∀ d ∈ item.declarationsOf .response, isValid store' d = isValid store d := by
    intro d hd
    cases hcandidate : d.isCandidateResponse with
    | false =>
      rw [isValid_eq_of_not_isCandidateResponse hitem hd hcandidate store,
        isValid_eq_of_not_isCandidateResponse hitem hd hcandidate store']
    | true =>
      have hfind := findDeclaration?_of_mem hitem.declared.nodup (List.mem_filter.1 hd).1
      rw [← hstore, ← Store.declaration?_eq] at hfind
      rw [isValid, isValid, h.value?_eq _ d hfind hcandidate]
  rw [validateResponses, validateResponses]
  congr 1
  exact mapM_congr_of_forall _ fun d hd ↦ by rw [hvalid d hd]

end Validity

end AssessmentItem
