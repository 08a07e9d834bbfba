import AssessmentItem.Item.Basic

/-!
# The declarations of an item

An item declares every variable once, and the built-in ones with the type that every item gives
them.  Both follow from what a single declaration does: it is found under its own identifier
from then on, and all else is found as before.

## Main definitions

* `Declared` : lists of declarations that an item can have.

## Main results

* `declare_eq_ok_iff` : when an identifier can be declared, and the declarations after it.
* `findDeclaration?_declare` : what is found after one more declaration.
* `declared_of_declareAll` : the declarations of an item declare every variable once.
* `findDeclaration?_declareAll` : which declaration of a variable an item has.
* `findDeclaration?_declareAll_of_ne` : what is not declared again is found as every item has it.
-/

namespace AssessmentItem

variable {d e : VariableDeclaration} {l l' ds : List VariableDeclaration} {identifier : String}

theorem VariableDeclaration.sameType_iff :
    d.sameType e ↔ d.kind = e.kind ∧ d.cardinality = e.cardinality ∧ d.baseType = e.baseType := by
  simp [sameType, and_assoc]

/-! ### Finding -/

theorem identifier_of_findDeclaration? (h : findDeclaration? l identifier = some d) :
    d.identifier = identifier := by
  simpa using List.find?_some h

theorem mem_of_findDeclaration? (h : findDeclaration? l identifier = some d) : d ∈ l :=
  List.mem_of_find?_eq_some h

theorem isSome_findDeclaration?_iff :
    (findDeclaration? l identifier).isSome ↔ identifier ∈ l.map (·.identifier) := by
  simp [findDeclaration?]

/-- Among different identifiers every declaration is the one that `findDeclaration?` gives. -/
theorem findDeclaration?_of_mem (hl : (l.map (·.identifier)).Nodup) (hd : d ∈ l) :
    findDeclaration? l d.identifier = some d := by
  induction l with
  | nil => simp at hd
  | cons e l ih =>
    rw [List.map_cons, List.nodup_cons] at hl
    rcases List.mem_cons.1 hd with rfl | hd
    · simp [findDeclaration?]
    · have hne : e.identifier ≠ d.identifier := by
        intro h
        exact hl.1 (h ▸ List.mem_map_of_mem hd)
      simpa [findDeclaration?, hne] using ih hl.2 hd

/-- A declaration that is found among `builtIns` is that of a `BuiltIn`. -/
theorem exists_builtIn (h : findDeclaration? builtIns identifier = some d) :
    ∃ b : BuiltIn, b.identifier = identifier ∧ d = b.declaration := by
  obtain ⟨b, -, rfl⟩ := List.mem_map.1 (mem_of_findDeclaration? h)
  refine ⟨b, ?_, rfl⟩
  rw [← identifier_of_findDeclaration? h]
  cases b <;> rfl

theorem findDeclaration?_builtIns (b : BuiltIn) :
    findDeclaration? builtIns b.identifier = some b.declaration := by
  cases b <;> rfl

/-! ### One more declaration -/

/-- A list with the declaration `d` put in the place of what is there for its identifier. -/
theorem findDeclaration?_replace (l : List VariableDeclaration) (d : VariableDeclaration)
    (identifier : String) :
    findDeclaration? (l.map fun e ↦ if e.identifier = d.identifier then d else e) identifier =
      (findDeclaration? l identifier).map fun e ↦
        if e.identifier = d.identifier then d else e := by
  rw [findDeclaration?, List.find?_map, findDeclaration?]
  congr 2
  funext e
  by_cases h : e.identifier = d.identifier <;> simp [h]

/-- What `declare` adds takes the place of the built-in declaration with its identifier, of the same
type, or it is the first one with its identifier and comes last. -/
theorem declare_eq_ok_iff : declare l d = .ok l' ↔
    (∃ b : BuiltIn, b.identifier = d.identifier ∧ b.declaration.sameType d ∧
      l' = l.map fun e ↦ if e.identifier = d.identifier then d else e) ∨
    ((∀ b : BuiltIn, b.identifier ≠ d.identifier) ∧ d.identifier ∉ l.map (·.identifier) ∧
      l' = l ++ [d]) := by
  rw [declare]
  cases hb : findDeclaration? builtIns d.identifier with
  | some builtIn =>
    obtain ⟨b, hid, rfl⟩ := exists_builtIn hb
    have hbuiltIn : ¬∀ b : BuiltIn, b.identifier ≠ d.identifier := fun h ↦ h b hid
    simp only [hbuiltIn, false_and, or_false]
    by_cases hsame : b.declaration.sameType d
    · rw [if_pos hsame, Except.ok.injEq]
      exact ⟨fun h ↦ ⟨b, hid, hsame, h.symm⟩, fun ⟨_, _, _, h⟩ ↦ h.symm⟩
    · rw [if_neg hsame]
      refine ⟨nofun, fun ⟨b', hid', hsame', _⟩ ↦ ?_⟩
      rw [← hid', findDeclaration?_builtIns] at hb
      exact absurd (Option.some.inj hb ▸ hsame') hsame
  | none =>
    have hbuiltIn : ∀ b : BuiltIn, b.identifier ≠ d.identifier := by
      intro b hid
      rw [← hid, findDeclaration?_builtIns] at hb
      cases hb
    have hnone : ¬∃ b : BuiltIn, b.identifier = d.identifier ∧ b.declaration.sameType d ∧
        l' = l.map fun e ↦ if e.identifier = d.identifier then d else e :=
      fun ⟨b, hid, _⟩ ↦ hbuiltIn b hid
    simp only [hnone, false_or, isSome_findDeclaration?_iff]
    by_cases hmem : d.identifier ∈ l.map (·.identifier)
    · rw [if_pos hmem]
      exact ⟨nofun, fun h ↦ absurd hmem h.2.1⟩
    · rw [if_neg hmem, Except.ok.injEq]
      exact ⟨fun h ↦ ⟨hbuiltIn, hmem, h.symm⟩, fun h ↦ h.2.2.symm⟩

/-- What `findDeclaration?` gives after one more declaration, to a list that has the built-in
variables. -/
theorem findDeclaration?_declare (h : declare l d = .ok l')
    (hl : ∀ b : BuiltIn, (findDeclaration? l b.identifier).isSome) (identifier : String) :
    findDeclaration? l' identifier =
      if identifier = d.identifier then some d else findDeclaration? l identifier := by
  rcases declare_eq_ok_iff.1 h with ⟨b, hid, -, rfl⟩ | ⟨-, hnew, rfl⟩
  · rw [findDeclaration?_replace]
    by_cases hx : identifier = d.identifier
    · obtain ⟨e, he⟩ := Option.isSome_iff_exists.1 (hl b)
      rw [if_pos hx, hx, ← hid, he]
      simp [identifier_of_findDeclaration? he, hid]
    · rw [if_neg hx]
      cases hf : findDeclaration? l identifier with
      | none => rfl
      | some f => simp [identifier_of_findDeclaration? hf, hx]
  · rw [findDeclaration?, List.find?_append]
    by_cases hx : identifier = d.identifier
    · have hnone : findDeclaration? l d.identifier = none := by
        rw [← isSome_findDeclaration?_iff, Option.not_isSome_iff_eq_none] at hnew
        exact hnew
      rw [if_pos hx, hx, ← findDeclaration?, hnone]
      simp
    · simp [findDeclaration?, hx, Ne.symm hx]

theorem map_identifier_declare (h : declare l d = .ok l') :
    l'.map (·.identifier) = l.map (·.identifier) ∨
      d.identifier ∉ l.map (·.identifier) ∧
        l'.map (·.identifier) = l.map (·.identifier) ++ [d.identifier] := by
  rcases declare_eq_ok_iff.1 h with ⟨b, -, -, rfl⟩ | ⟨-, hnew, rfl⟩
  · left
    rw [List.map_map]
    refine List.map_congr_left fun e _ ↦ ?_
    by_cases he : e.identifier = d.identifier <;> simp [he]
  · exact .inr ⟨hnew, by simp⟩

theorem sameType_of_declare (h : declare l d = .ok l') {b : BuiltIn}
    (hb : b.identifier = d.identifier) : b.declaration.sameType d := by
  rcases declare_eq_ok_iff.1 h with ⟨b', hid, hsame, -⟩ | ⟨hne, -⟩
  · have hfind := findDeclaration?_builtIns b
    rw [hb, ← hid, findDeclaration?_builtIns] at hfind
    rwa [← Option.some.inj hfind]
  · exact absurd hb (hne b)

/-- What a list has after `declare`, it has had before or it is `d`. -/
theorem mem_of_mem_declare (h : declare l d = .ok l') (he : e ∈ l') : e ∈ l ∨ e = d := by
  rcases declare_eq_ok_iff.1 h with ⟨b, -, -, rfl⟩ | ⟨-, -, rfl⟩
  · obtain ⟨e', he', rfl⟩ := List.mem_map.1 he
    by_cases hid : e'.identifier = d.identifier
    · exact .inr (if_pos hid)
    · rw [if_neg hid]
      exact .inl he'
  · exact (List.mem_append.1 he).imp_right List.mem_singleton.1

/-! ### All declarations -/

/-- The `declarations` that an item can have: no identifier twice, and the built-in variables with
the type that every item gives them. -/
structure Declared (declarations : List VariableDeclaration) : Prop where
  nodup : (declarations.map (·.identifier)).Nodup
  builtIn : ∀ b : BuiltIn, ∃ d, findDeclaration? declarations b.identifier = some d ∧
    b.declaration.sameType d

namespace Declared

theorem isSome (hl : Declared l) (b : BuiltIn) : (findDeclaration? l b.identifier).isSome := by
  obtain ⟨d, hd, -⟩ := hl.builtIn b
  simp [hd]

theorem declare (hl : Declared l) (h : declare l d = .ok l') : Declared l' where
  nodup := by
    rcases map_identifier_declare h with heq | ⟨hnot, heq⟩
    · rw [heq]
      exact hl.nodup
    · rw [heq]
      exact List.nodup_append.2 ⟨hl.nodup, by simp, fun a ha b hb hab ↦ by
        rw [List.mem_singleton.1 hb] at hab
        exact hnot (hab ▸ ha)⟩
  builtIn b := by
    rw [findDeclaration?_declare h hl.isSome]
    split
    · rename_i hb
      exact ⟨d, rfl, sameType_of_declare h hb⟩
    · exact hl.builtIn b

end Declared

theorem declared_builtIns : Declared builtIns where
  nodup := by decide
  builtIn b := ⟨b.declaration, findDeclaration?_builtIns b, by cases b <;> decide⟩

/-- That `P` holds of the declarations that have been made and of what is declared by them, if it
holds of `[]` and `builtIns`, and `declare` keeps it. -/
theorem declareAll_induction_prefix {P : List VariableDeclaration → List VariableDeclaration → Prop}
    (h : declareAll ds = .ok l) (start : P [] builtIns)
    (step : ∀ made l l', ∀ d ∈ ds, Declared l → declare l d = .ok l' → P made l →
      P (made ++ [d]) l') : P ds l := by
  suffices hall : ∀ (rest made : List VariableDeclaration) (l₀ : List VariableDeclaration),
      made ++ rest = ds → Declared l₀ → P made l₀ → rest.foldlM declare l₀ = .ok l → P ds l from
    hall ds [] builtIns rfl declared_builtIns start h
  intro rest
  induction rest with
  | nil =>
    intro made l₀ hmade _ hP hl
    cases hl
    rwa [← hmade, List.append_nil]
  | cons d rest ih =>
    intro made l₀ hmade hdecl hP hl
    rw [List.foldlM_cons] at hl
    cases hd : declare l₀ d with
    | error e =>
      rw [hd] at hl
      cases hl
    | ok l₁ =>
      rw [hd] at hl
      have hmem : d ∈ ds := by simp [← hmade]
      exact ih (made ++ [d]) l₁ (by simp [hmade]) (hdecl.declare hd)
        (step made l₀ l₁ d hmem hdecl hd hP) hl

/-- That `P` holds of the declarations of an item, if `builtIns` has it and `declare` keeps it. -/
theorem declareAll_induction {P : List VariableDeclaration → Prop}
    (h : declareAll ds = .ok l) (start : P builtIns)
    (step : ∀ l l', ∀ d ∈ ds, Declared l → declare l d = .ok l' → P l → P l') : P l :=
  declareAll_induction_prefix (P := fun _ l ↦ P l) h start fun _ ↦ step

/-- What `declareAll` gives declares every variable once. -/
theorem declared_of_declareAll (h : declareAll ds = .ok l) : Declared l :=
  declareAll_induction h declared_builtIns fun _ _ _ _ hl hd _ ↦ hl.declare hd

/-- Of the declarations of a variable in `ds` the last one is found in the item, and without one the
variable is found as in `builtIns`. -/
theorem findDeclaration?_declareAll (h : declareAll ds = .ok l) (identifier : String) :
    findDeclaration? l identifier =
      (findDeclaration? ds.reverse identifier).or (findDeclaration? builtIns identifier) :=
  declareAll_induction_prefix h (P := fun made l ↦ findDeclaration? l identifier =
    (findDeclaration? made.reverse identifier).or (findDeclaration? builtIns identifier)) rfl
    fun made l l' d _ hl hdecl ih ↦ by
      rw [findDeclaration?_declare hdecl hl.isSome, ih, List.reverse_append, List.reverse_singleton,
        List.singleton_append]
      by_cases hid : identifier = d.identifier
      · simp [findDeclaration?, hid]
      · simp [findDeclaration?, hid, Ne.symm hid]

/-- What `ds` does not declare again is found as in `builtIns`. -/
theorem findDeclaration?_declareAll_of_ne (h : declareAll ds = .ok l)
    (hne : ∀ d ∈ ds, d.identifier ≠ identifier) :
    findDeclaration? l identifier = findDeclaration? builtIns identifier := by
  have hnone : findDeclaration? ds.reverse identifier = none := by
    simpa [findDeclaration?] using hne
  rw [findDeclaration?_declareAll h, hnone, Option.none_or]

end AssessmentItem
