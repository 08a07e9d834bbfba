import AssessmentItem.Proofs.Store.Slots
import AssessmentItem.Proofs.Value.Typing

/-!
# Stores of the declared types

Everything that a store holds of a variable is NULL or has the declared type, and no container or
record that it holds is empty.  A value that is written is brought to the declared type first, so
writing keeps the store well typed for every value that is built by the constructors of values;
the defaults keep it well typed where the declared ones are.

## Main definitions

* `VariableDeclaration.Admits` : the values that a variable may hold.
* `VariableDeclaration.WellTyped`, `Slot.WellTyped`, `Store.WellTyped` : declared values, slots and
  stores of the declared types.
* `Store.Admits` : the values of the declared type of a variable.

## Main results

* `admits_of_conform` : what conforms to a declaration is admitted by it.
* `Store.WellTyped.value?` : what is found of a variable has its declared type.
* `Store.wellTyped_write`, `Store.wellTyped_resetKind`, `Store.wellTyped_ofItem` : a store stays
  well typed.
-/

namespace AssessmentItem

/-! ### Declarations -/

/-- A variable may hold `.null` and the values of its declared type. -/
abbrev VariableDeclaration.Admits (d : VariableDeclaration) (v : Value) : Prop :=
  v.OfType d.cardinality d.baseType

theorem VariableDeclaration.admits_null (d : VariableDeclaration) : d.Admits .null :=
  Value.ofType_null d.cardinality d.baseType

/-- What `conform` accepts the declaration `Admits`. -/
theorem admits_of_conform {d : VariableDeclaration} {v w : Value} (hv : v.WellFormed)
    (h : d.conform v = .ok w) : d.Admits w := by
  rcases VariableDeclaration.conform_eq_ok h with ⟨-, rfl⟩ |
    ⟨hcard, ⟨htype, rfl⟩ | ⟨hfloat, hwiden⟩⟩
  · exact d.admits_null
  · exact ⟨hv, .inr ⟨hcard, htype.resolve_left⟩⟩
  · cases v with
    | single s =>
      cases s with
      | integer n =>
        cases hwiden
        exact ⟨trivial, .inr ⟨hcard, fun _ ↦ hfloat.symm⟩⟩
      | _ => cases hwiden
    | _ => cases hwiden

/-- What a declaration `Admits` conforms to it as it is. -/
theorem conform_of_admits {d : VariableDeclaration} {v : Value} (h : d.Admits v) :
    d.conform v = .ok v := by
  rcases h.typed with rfl | ⟨hcard, htype⟩
  · rfl
  · rw [VariableDeclaration.conform, hcard]
    dsimp only
    rw [if_neg (not_not_intro rfl), if_pos (Decidable.or_iff_not_imp_left.2 htype)]

/-- The `default` and the `correct?` value of a declaration have the declared type. -/
structure VariableDeclaration.WellTyped (d : VariableDeclaration) : Prop where
  default : d.Admits d.default
  correct : ∀ v, d.correct? = some v → d.Admits v

theorem VariableDeclaration.WellTyped.initialValue {d : VariableDeclaration} (h : d.WellTyped) :
    d.Admits d.initialValue := by
  unfold VariableDeclaration.initialValue
  split
  · split
    · rename_i hcard htype
      exact ⟨trivial, .inr ⟨by rw [hcard]; rfl, fun _ ↦ htype.symm⟩⟩
    · rename_i hcard htype
      exact ⟨trivial, .inr ⟨by rw [hcard]; rfl, fun _ ↦ htype.symm⟩⟩
    · exact d.admits_null
  · exact h.default

theorem BuiltIn.wellTyped_declaration (b : BuiltIn) : b.declaration.WellTyped where
  default := by
    cases b <;> exact ⟨trivial, .inr ⟨rfl, fun _ ↦ rfl⟩⟩
  correct v hv := by
    cases b <;> cases hv <;> exact VariableDeclaration.admits_null _

/-! ### Slots and stores -/

/-- The `value` and both overrides of a slot have the declared type. -/
structure Slot.WellTyped (s : Slot) : Prop where
  value : s.declaration.Admits s.value
  defaultOverride : ∀ v, s.defaultOverride = some v → s.declaration.Admits v
  correctOverride : ∀ v, s.correctOverride = some v → s.declaration.Admits v

namespace Slot.WellTyped

variable {s : Slot}

theorem fresh {d : VariableDeclaration} (hd : d.WellTyped) : (Slot.fresh d).WellTyped where
  value := hd.initialValue
  defaultOverride := by simp [Slot.fresh]
  correctOverride := by simp [Slot.fresh]

theorem write (h : s.WellTyped) (part : SlotPart) {v : Value} (hv : s.declaration.Admits v) :
    (s.write part v).WellTyped := by
  cases part with
  | value => exact { h with value := hv }
  | default => exact { h with defaultOverride := fun w hw ↦ Option.some.inj hw ▸ hv }
  | correct => exact { h with correctOverride := fun w hw ↦ Option.some.inj hw ▸ hv }

theorem default (h : s.WellTyped) (hd : s.declaration.WellTyped) :
    s.declaration.Admits s.default := by
  unfold Slot.default
  cases ho : s.defaultOverride with
  | none => exact hd.initialValue
  | some v => exact h.defaultOverride v ho

theorem correct? (h : s.WellTyped) (hd : s.declaration.WellTyped) {v : Value}
    (hv : s.correct? = some v) : s.declaration.Admits v := by
  unfold Slot.correct? at hv
  cases ho : s.correctOverride with
  | none =>
    rw [ho, Option.none_or] at hv
    exact hd.correct v hv
  | some w =>
    rw [ho, Option.some_or] at hv
    cases hv
    exact h.correctOverride v ho

theorem reset (h : s.WellTyped) (hd : s.declaration.WellTyped) : s.reset.WellTyped :=
  { h with value := h.default hd }

end Slot.WellTyped

/-- All `declarations` of the item are `WellTyped`. -/
def Item.WellTyped (item : Item) : Prop := ∀ d ∈ item.declarations, d.WellTyped

/-- Everything that a store holds has the declared type, its `declarations` included. -/
structure Store.WellTyped (store : Store) : Prop where
  declared : ∀ d ∈ store.declarations, d.WellTyped
  slots : ∀ s ∈ store.slots, s.WellTyped

namespace Store

variable {store store' : Store} {part : SlotPart} {identifier : String} {v : Value}

/-- The value `v` is of the declared type of `identifier`. -/
def Admits (store : Store) (identifier : String) (v : Value) : Prop :=
  ∃ d, store.declaration? identifier = some d ∧ d.Admits v

/-- A store whose `slots` are replaced one by one, by slots of the same declarations. -/
theorem WellTyped.map (h : store.WellTyped) {f : Slot → Slot}
    (hf : ∀ s, (f s).declaration = s.declaration)
    (hs : ∀ s ∈ store.slots, s.WellTyped → (f s).WellTyped) :
    (⟨store.slots.map f⟩ : Store).WellTyped where
  declared := by
    rw [store.declarations_map hf]
    exact h.declared
  slots s' hs' := by
    obtain ⟨s, hmem, rfl⟩ := List.mem_map.1 hs'
    exact hs s hmem (h.slots s hmem)

theorem wellTyped_ofItem {item : Item} (h : item.WellTyped) : (ofItem item).WellTyped where
  declared := by
    rw [declarations_ofItem]
    exact h
  slots s hs := by
    obtain ⟨d, hd, rfl⟩ := List.mem_map.1 hs
    exact .fresh (h d hd)

/-- A `write` that succeeds leaves the store `WellTyped`. -/
theorem wellTyped_write (h : store.WellTyped)
    (distinct : (store.declarations.map (·.identifier)).Nodup) (hv : v.WellFormed)
    (hw : store.write part identifier v = .ok store') : store'.WellTyped := by
  obtain ⟨d, w, hd, hconform, rfl⟩ := write_eq_ok_iff.1 hw
  refine h.map (fun _ ↦ declaration_put_slot _) fun s hs hst ↦ ?_
  by_cases hid : s.declaration.identifier = identifier
  · have hfind := findDeclaration?_of_mem distinct (List.mem_map_of_mem hs)
    rw [hid, ← declaration?_eq, hd] at hfind
    rw [if_pos hid]
    exact hst.write part (Option.some.inj hfind ▸ admits_of_conform hv hconform)
  · rw [if_neg hid]
    exact hst

theorem wellTyped_resetKind (h : store.WellTyped) (kind : VariableKind) :
    (store.resetKind kind).WellTyped := by
  refine h.map (declaration_reset_slot kind) fun s hs hst ↦ ?_
  split
  · exact hst.reset (h.declared _ (List.mem_map_of_mem hs))
  · exact hst

namespace WellTyped

variable {slot : Slot}

theorem of_slot? (h : store.WellTyped) (hs : store.slot? identifier = some slot) :
    slot.WellTyped ∧ slot.declaration.WellTyped :=
  have hmem : slot ∈ store.slots := List.mem_of_find?_eq_some hs
  ⟨h.slots slot hmem, h.declared _ (List.mem_map_of_mem hmem)⟩

/-- What is found of a variable is of its declared type: its value, its default and its correct
value. -/
theorem value? (h : store.WellTyped) (hv : store.value? identifier = some v) :
    store.Admits identifier v := by
  obtain ⟨slot, hs, rfl⟩ := Option.map_eq_some_iff.1 hv
  exact ⟨_, declaration?_of_slot? hs, (h.of_slot? hs).1.value⟩

theorem default? (h : store.WellTyped) (hv : store.default? identifier = some v) :
    store.Admits identifier v := by
  obtain ⟨slot, hs, rfl⟩ := Option.map_eq_some_iff.1 hv
  obtain ⟨hslot, hd⟩ := h.of_slot? hs
  exact ⟨_, declaration?_of_slot? hs, hslot.default hd⟩

theorem correct? (h : store.WellTyped) (hv : store.correct? identifier = some v) :
    store.Admits identifier v := by
  obtain ⟨slot, hs, hc⟩ := Option.bind_eq_some_iff.1 hv
  obtain ⟨hslot, hd⟩ := h.of_slot? hs
  exact ⟨_, declaration?_of_slot? hs, hslot.correct? hd hc⟩

theorem wellFormed_value? (h : store.WellTyped) (hv : store.value? identifier = some v) :
    v.WellFormed := by
  obtain ⟨d, -, hadmits⟩ := h.value? hv
  exact hadmits.wellFormed

/-- What a store holds can be written to every store of the same `declarations`, as it is. -/
theorem write_value? (h : store.WellTyped) (hv : store.value? identifier = some v)
    (hdecl : store'.declarations = store.declarations) :
    store'.write .value identifier v = .ok (store'.put .value identifier v) := by
  obtain ⟨d, hd, hadmits⟩ := h.value? hv
  rw [← declaration?_congr hdecl] at hd
  exact write_eq_ok_iff.2 ⟨d, v, hd, conform_of_admits hadmits, rfl⟩

end WellTyped

end Store

end AssessmentItem
