import Mathlib.Data.List.Nodup
import AssessmentItem.Store
import AssessmentItem.Proofs.Declarations

/-!
# The slots of a store

A store is written in one part of one slot, or gets the defaults of one kind of variable.  Neither
changes the declarations, so a store that comes from an item has the declarations of the item for
good, and what is found of a variable follows from what was found of it before.

## Main definitions

* `Store.declarations` : the declarations of the slots.
* `Store.held?` : what is put into a part of the slot of a variable.
* `Store.put` : the store after a value of the declared type is put into a part of a slot.
* `Store.StemsFrom` : the stores that come from the store of an item.

## Main results

* `VariableDeclaration.conform_eq_ok` : what a value conforms as.
* `Store.eq_of_slot?_eq` : a store is what is found in it.
* `Store.write_eq_ok_iff` : when a value can be written, and the store after it.
* `Store.slot?_put`, `Store.slot?_resetKind` : what is found of a variable.
* `Store.StemsFrom.declarations_eq` : the declarations of a store are those of its item.
-/

namespace AssessmentItem

/-! ### One slot -/

namespace Slot

@[simp] theorem declaration_fresh (d : VariableDeclaration) : (fresh d).declaration = d := rfl

@[simp] theorem declaration_write (s : Slot) (part : SlotPart) (v : Value) :
    (s.write part v).declaration = s.declaration := by
  cases part <;> rfl

@[simp] theorem declaration_reset (s : Slot) : s.reset.declaration = s.declaration := rfl

@[simp] theorem value_write_value (s : Slot) (v : Value) : (s.write .value v).value = v := rfl

theorem default_write_of_ne {part : SlotPart} (h : part ≠ .default) (s : Slot) (v : Value) :
    (s.write part v).default = s.default := by
  cases part with
  | value => rfl
  | default => exact absurd rfl h
  | correct => rfl

/-- What is put into a part of a slot; an override that has not been put there is `none`. -/
def held (s : Slot) : SlotPart → Option Value
  | .value => some s.value
  | .default => s.defaultOverride
  | .correct => s.correctOverride

theorem held_write_of_ne {part part' : SlotPart} (h : part ≠ part') (s : Slot) (v : Value) :
    (s.write part v).held part' = s.held part' := by
  cases part <;> cases part' <;> first | rfl | exact absurd rfl h

@[simp] theorem write_write (s : Slot) (part : SlotPart) (v w : Value) :
    (s.write part v).write part w = s.write part w := by
  cases part <;> rfl

theorem write_comm {part part' : SlotPart} (h : part ≠ part') (s : Slot) (v w : Value) :
    (s.write part v).write part' w = (s.write part' w).write part v := by
  cases part <;> cases part' <;> first | rfl | exact absurd rfl h

@[simp] theorem value_reset (s : Slot) : s.reset.value = s.default := rfl

@[simp] theorem default_reset (s : Slot) : s.reset.default = s.default := rfl

end Slot

/-! ### Conforming values -/

namespace VariableDeclaration

variable {d : VariableDeclaration} {v w : Value}

/-- A value conforms to `d` as it is, if it has the declared type; `null` conforms as itself, and an
integer where `d` has floats by `widen?`. -/
theorem conform_eq_ok (h : d.conform v = .ok w) :
    v = .null ∧ w = .null ∨ v.cardinality? = some d.cardinality ∧
      ((d.cardinality = .record ∨ v.baseType? = d.baseType) ∧ w = v ∨
        d.baseType = some .float ∧ v.widen? = some w) := by
  rw [conform] at h
  split at h
  · rename_i hnone
    refine .inl ⟨?_, (Except.ok.inj h).symm⟩
    cases v <;> first | rfl | cases hnone
  · rename_i cardinality hcard
    split at h
    · cases h
    · rename_i hsame
      obtain rfl : cardinality = d.cardinality := Decidable.not_not.1 hsame
      refine .inr ⟨hcard, ?_⟩
      split at h
      · rename_i htype
        exact .inl ⟨htype, (Except.ok.inj h).symm⟩
      · split at h
        · rename_i widened hfloat hwiden
          exact .inr ⟨hfloat, hwiden.trans (congrArg some (Except.ok.inj h))⟩
        · cases h

/-- A value of the declared type conforms as it is. -/
theorem conform_eq_self (hcard : v.cardinality? = some d.cardinality)
    (htype : v.baseType? = d.baseType) : d.conform v = .ok v := by
  rw [conform, hcard]
  dsimp only
  rw [if_neg (not_not_intro rfl), if_pos (.inr htype)]

/-- Where `d` does not have floats, a value conforms as it is or not at all. -/
theorem conform_eq_self_of_ne_float (h : d.conform v = .ok w) (hfloat : d.baseType ≠ some .float) :
    w = v := by
  rcases conform_eq_ok h with ⟨rfl, rfl⟩ | ⟨-, ⟨-, rfl⟩ | ⟨htype, -⟩⟩
  · rfl
  · rfl
  · exact absurd htype hfloat

theorem conform_ne_undeclared (d : VariableDeclaration) (v : Value) (x : String) :
    d.conform v ≠ .error (.undeclared x) := by
  rw [conform]
  split
  · exact nofun
  · split
    · exact nofun
    · split
      · exact nofun
      · split <;> exact nofun

end VariableDeclaration

namespace Store

variable {store store' : Store} {part : SlotPart} {identifier x : String} {v : Value}

/-! ### Finding a slot -/

/-- The declarations of the `slots`, in their order. -/
def declarations (store : Store) : List VariableDeclaration := store.slots.map (·.declaration)

@[simp] theorem declarations_ofItem (item : Item) :
    (ofItem item).declarations = item.declarations := by
  simp [declarations, ofItem, Function.comp_def]

theorem declaration?_eq (store : Store) (identifier : String) :
    store.declaration? identifier = findDeclaration? store.declarations identifier := by
  rw [declaration?, slot?, findDeclaration?, declarations, List.find?_map]
  rfl

/-- The declaration of `x` depends on the `declarations` of a store alone. -/
theorem declaration?_congr (h : store'.declarations = store.declarations) (x : String) :
    store'.declaration? x = store.declaration? x := by
  rw [declaration?_eq, h, ← declaration?_eq]

theorem slot?_ofItem (item : Item) (identifier : String) :
    (ofItem item).slot? identifier = (item.declaration? identifier).map Slot.fresh := by
  rw [slot?, ofItem, List.find?_map]
  rfl

/-- Slots that keep their declarations under `f` are found where they were. -/
theorem slot?_map (store : Store) {f : Slot → Slot}
    (hf : ∀ s, (f s).declaration = s.declaration) (identifier : String) :
    (⟨store.slots.map f⟩ : Store).slot? identifier = (store.slot? identifier).map f := by
  rw [slot?, List.find?_map, slot?]
  congr 2
  funext s
  rw [Function.comp_apply, hf]

theorem declarations_map (store : Store) {f : Slot → Slot}
    (hf : ∀ s, (f s).declaration = s.declaration) :
    (⟨store.slots.map f⟩ : Store).declarations = store.declarations := by
  rw [declarations, declarations, List.map_map]
  exact List.map_congr_left fun s _ ↦ hf s

theorem declaration_identifier_of_slot? {slot : Slot} (h : store.slot? identifier = some slot) :
    slot.declaration.identifier = identifier := by
  simpa using List.find?_some h

theorem declaration?_of_slot? {slot : Slot} (h : store.slot? identifier = some slot) :
    store.declaration? identifier = some slot.declaration := by
  rw [declaration?, h, Option.map_some]

/-- Where every variable is declared once, a slot is found under its identifier. -/
theorem slot?_of_mem (distinct : (store.declarations.map (·.identifier)).Nodup) {slot : Slot}
    (hslot : slot ∈ store.slots) : store.slot? slot.declaration.identifier = some slot := by
  have hsome : (store.slot? slot.declaration.identifier).isSome :=
    List.find?_isSome.2 ⟨slot, hslot, beq_self_eq_true _⟩
  obtain ⟨found, hfound⟩ := Option.isSome_iff_exists.1 hsome
  rw [declarations, List.map_map] at distinct
  rw [hfound, List.inj_on_of_nodup_map distinct (List.mem_of_find?_eq_some hfound) hslot
    (declaration_identifier_of_slot? hfound)]

/-- Stores of the same `declarations` with the same `slot?` of every variable are the same. -/
theorem eq_of_slot?_eq (hdecl : store'.declarations = store.declarations)
    (distinct : (store.declarations.map (·.identifier)).Nodup)
    (h : ∀ x, store'.slot? x = store.slot? x) : store' = store := by
  have hlength : store'.slots.length = store.slots.length := by
    simpa [declarations] using congrArg List.length hdecl
  show Store.mk store'.slots = Store.mk store.slots
  congr 1
  refine List.ext_getElem hlength fun i hi' hi ↦ ?_
  have hsame : store'.slots[i].declaration = store.slots[i].declaration := by
    have := List.getElem_of_eq hdecl (by simpa [declarations] using hi')
    simpa [declarations] using this
  have hfound := slot?_of_mem distinct (List.getElem_mem hi)
  have hfound' := slot?_of_mem (hdecl ▸ distinct) (List.getElem_mem hi')
  rw [hsame, h, hfound] at hfound'
  exact (Option.some.inj hfound').symm

/-- What is put into a part of the slot of the variable `identifier`. -/
def held? (store : Store) (part : SlotPart) (identifier : String) : Option Value :=
  (store.slot? identifier).bind (·.held part)

theorem held?_value (store : Store) (x : String) : store.held? .value x = store.value? x := by
  rw [held?, value?]
  cases store.slot? x <;> rfl

/-- Stores whose slots of `x` hold the same in `part` agree in `held? part x`. -/
theorem held?_congr (h : (store'.slot? x).map (·.held part) = (store.slot? x).map (·.held part)) :
    store'.held? part x = store.held? part x := by
  have hheld := congrArg (Option.bind · id) h
  rwa [Option.bind_map, Option.bind_map] at hheld

theorem isSome_slot?_iff :
    (store.slot? identifier).isSome ↔ (store.declaration? identifier).isSome := by
  rw [declaration?, Option.isSome_map]

/-! ### Writing -/

/-- The store after `v`, of the declared type, is put into a part of the slot of the variable
`identifier`. -/
def put (store : Store) (part : SlotPart) (identifier : String) (v : Value) : Store :=
  ⟨store.slots.map fun s ↦ if s.declaration.identifier = identifier then s.write part v else s⟩

theorem declaration_put_slot (s : Slot) :
    (if s.declaration.identifier = identifier then s.write part v else s).declaration =
      s.declaration := by
  split
  · exact s.declaration_write part v
  · rfl

@[simp] theorem declarations_put (store : Store) (part : SlotPart) (identifier : String)
    (v : Value) : (store.put part identifier v).declarations = store.declarations :=
  store.declarations_map fun _ ↦ declaration_put_slot _

theorem slot?_put (store : Store) (part : SlotPart) (identifier : String) (v : Value)
    (x : String) :
    (store.put part identifier v).slot? x =
      if x = identifier then (store.slot? x).map (·.write part v) else store.slot? x := by
  rw [put, store.slot?_map (fun _ ↦ declaration_put_slot _)]
  cases hx : store.slot? x with
  | none => simp
  | some slot =>
    rw [Option.map_some, declaration_identifier_of_slot? hx]
    split <;> rfl

theorem slot?_put_of_ne (h : x ≠ identifier) (store : Store) (part : SlotPart) (v : Value) :
    (store.put part identifier v).slot? x = store.slot? x := by
  rw [slot?_put, if_neg h]

theorem value?_put_of_ne (h : x ≠ identifier) (store : Store) (part : SlotPart) (v : Value) :
    (store.put part identifier v).value? x = store.value? x := by
  rw [value?, slot?_put_of_ne h, value?]

theorem value?_put_self (h : store.value? x = some v) (w : Value) :
    (store.put .value x w).value? x = some w := by
  obtain ⟨slot, hslot, -⟩ := Option.map_eq_some_iff.1 h
  rw [value?, slot?_put, if_pos rfl, hslot]
  rfl

/-- Of two values that are `put` into the same place the later one stays. -/
@[simp] theorem put_put (store : Store) (part : SlotPart) (identifier : String) (v w : Value) :
    (store.put part identifier v).put part identifier w = store.put part identifier w := by
  rw [put, put, put, List.map_map]
  congr 1
  refine List.map_congr_left fun s _ ↦ ?_
  rw [Function.comp_apply, declaration_put_slot]
  split
  · exact s.write_write part v w
  · rfl

/-- Values that are `put` into different places may be put there in either order. -/
theorem put_comm {y : String} {part' : SlotPart} (h : x ≠ y ∨ part ≠ part') (store : Store)
    (v w : Value) :
    (store.put part x v).put part' y w = (store.put part' y w).put part x v := by
  rw [put, put, put, put, List.map_map, List.map_map]
  congr 1
  refine List.map_congr_left fun s _ ↦ ?_
  rw [Function.comp_apply, Function.comp_apply, declaration_put_slot, declaration_put_slot]
  by_cases hx : s.declaration.identifier = x
  · by_cases hy : s.declaration.identifier = y
    · rw [if_pos hx, if_pos hy, if_pos hy, if_pos hx]
      exact s.write_comm (h.resolve_left fun hne ↦ hne (hx.symm.trans hy)) v w
    · rw [if_pos hx, if_neg hy, if_neg hy, if_pos hx]
  · by_cases hy : s.declaration.identifier = y
    · rw [if_neg hx, if_pos hy, if_neg hx]
    · rw [if_neg hx, if_neg hy, if_neg hx]

/-- A value that is there may be `put` there again. -/
theorem put_value_self (distinct : (store.declarations.map (·.identifier)).Nodup)
    (h : store.value? x = some v) : store.put .value x v = store := by
  obtain ⟨slot, hslot, rfl⟩ := Option.map_eq_some_iff.1 h
  rw [put]
  congr 1
  refine (List.map_congr_left fun s hs ↦ ?_).trans store.slots.map_id
  split
  · rename_i hid
    rw [declarations, List.map_map] at distinct
    have hsame : s.declaration.identifier = slot.declaration.identifier :=
      hid.trans (declaration_identifier_of_slot? hslot).symm
    obtain rfl : s = slot :=
      List.inj_on_of_nodup_map distinct hs (List.mem_of_find?_eq_some hslot) hsame
    rfl
  · rfl

/-- A value can be written exactly if the variable is there and the value conforms to its
declaration; then `write` is `put`. -/
theorem write_eq_ok_iff :
    store.write part identifier v = .ok store' ↔
      ∃ d w, store.declaration? identifier = some d ∧ d.conform v = .ok w ∧
        store' = store.put part identifier w := by
  rw [write, declaration?]
  cases store.slot? identifier with
  | none => simp
  | some slot =>
    simp only [Option.map_some, Option.some.injEq, exists_and_left, exists_eq_left', bind,
      Except.bind, pure, Except.pure]
    cases slot.declaration.conform v with
    | error fault => simp
    | ok w => simp [put, eq_comm]

theorem write_eq_error_iff {fault : AssignmentFault} :
    store.write part identifier v = .error fault ↔
      store.declaration? identifier = none ∧ fault = .undeclared identifier ∨
        ∃ d, store.declaration? identifier = some d ∧ d.conform v = .error fault := by
  rw [write, declaration?]
  cases store.slot? identifier with
  | none => simp [eq_comm]
  | some slot =>
    simp only [Option.map_some, reduceCtorEq, false_and, false_or, Option.some.injEq,
      exists_eq_left', bind, Except.bind, pure, Except.pure]
    cases slot.declaration.conform v <;> simp

theorem declarations_write (h : store.write part identifier v = .ok store') :
    store'.declarations = store.declarations := by
  obtain ⟨d, w, -, -, rfl⟩ := write_eq_ok_iff.1 h
  exact store.declarations_put part identifier w

/-- What is written to one place does not depend on the value `put` into another one. -/
theorem write_put_of_ne (h : store.write part identifier v = .ok store')
    (hx : identifier ≠ x ∨ part ≠ .value) {w : Value} :
    (store.put .value x w).write part identifier v = .ok (store'.put .value x w) := by
  obtain ⟨d, u, hd, hconform, rfl⟩ := write_eq_ok_iff.1 h
  refine write_eq_ok_iff.2 ⟨d, u, ?_, hconform, put_comm hx store u w⟩
  rw [declaration?_congr (store.declarations_put .value x w), hd]

/-- A view `f` of a slot that does not see what is written to it gives what it gave before. -/
theorem map_slot?_write {β : Type} {f : Slot → β}
    (h : store.write part identifier v = .ok store')
    (hf : x = identifier → ∀ s w, f (s.write part w) = f s) :
    (store'.slot? x).map f = (store.slot? x).map f := by
  obtain ⟨d, w, -, -, rfl⟩ := write_eq_ok_iff.1 h
  rw [slot?_put]
  split
  · rename_i hx
    rw [Option.map_map]
    exact congrArg (Option.map · (store.slot? x)) (funext fun s ↦ hf hx s w)
  · rfl

theorem value?_write_of_ne (h : store.write part identifier v = .ok store')
    (hx : x ≠ identifier) : store'.value? x = store.value? x :=
  map_slot?_write h fun heq ↦ absurd heq hx

theorem default?_write_of_ne (h : store.write part identifier v = .ok store')
    (hx : x ≠ identifier ∨ part ≠ .default) : store'.default? x = store.default? x :=
  map_slot?_write h fun heq ↦ Slot.default_write_of_ne (hx.resolve_left fun hne ↦ hne heq)

/-- A value of the declared type is found after it is written. -/
theorem value?_write_self (h : store.write .value identifier v = .ok store')
    {d : VariableDeclaration} (hd : store.declaration? identifier = some d)
    (hv : d.conform v = .ok v) : store'.value? identifier = some v := by
  obtain ⟨d', w, hd', hw, rfl⟩ := write_eq_ok_iff.1 h
  obtain rfl : d = d' := Option.some.inj (hd.symm.trans hd')
  obtain rfl : v = w := Except.ok.inj (hv.symm.trans hw)
  have hsome : (store.slot? identifier).isSome := by
    rw [isSome_slot?_iff, hd]
    rfl
  obtain ⟨slot, hslot⟩ := Option.isSome_iff_exists.1 hsome
  rw [value?, slot?_put, if_pos rfl, hslot]
  rfl

/-! ### Defaults -/

theorem declaration_reset_slot (kind : VariableKind) (s : Slot) :
    (if s.declaration.kind = kind then s.reset else s).declaration = s.declaration := by
  split <;> rfl

@[simp] theorem declarations_resetKind (store : Store) (kind : VariableKind) :
    (store.resetKind kind).declarations = store.declarations :=
  store.declarations_map (declaration_reset_slot kind)

theorem slot?_resetKind (store : Store) (kind : VariableKind) (x : String) :
    (store.resetKind kind).slot? x =
      (store.slot? x).map fun s ↦ if s.declaration.kind = kind then s.reset else s :=
  store.slot?_map (declaration_reset_slot kind) x

theorem slot?_resetKind_of_ne {kind : VariableKind} {d : VariableDeclaration}
    (hd : store.declaration? x = some d) (hk : d.kind ≠ kind) :
    (store.resetKind kind).slot? x = store.slot? x := by
  rw [slot?_resetKind]
  rw [declaration?] at hd
  cases hx : store.slot? x with
  | none => rfl
  | some slot =>
    rw [hx] at hd
    obtain rfl : slot.declaration = d := Option.some.inj hd
    rw [Option.map_some, if_neg hk]

theorem value?_resetKind_of_ne {kind : VariableKind} {d : VariableDeclaration}
    (hd : store.declaration? x = some d) (hk : d.kind ≠ kind) :
    (store.resetKind kind).value? x = store.value? x := by
  rw [value?, slot?_resetKind_of_ne hd hk, value?]

@[simp] theorem default?_resetKind (store : Store) (kind : VariableKind) (x : String) :
    (store.resetKind kind).default? x = store.default? x := by
  rw [default?, slot?_resetKind, Option.map_map, default?]
  refine congrArg (Option.map · (store.slot? x)) (funext fun s ↦ ?_)
  rw [Function.comp_apply]
  split <;> rfl

/-- A variable of the `kind` has its default as its value. -/
theorem value?_resetKind_self {kind : VariableKind} {d : VariableDeclaration}
    (hd : store.declaration? x = some d) (hk : d.kind = kind) :
    (store.resetKind kind).value? x = store.default? x := by
  rw [value?, slot?_resetKind, default?]
  rw [declaration?] at hd
  cases hx : store.slot? x with
  | none => rfl
  | some slot =>
    rw [hx] at hd
    obtain rfl : slot.declaration = d := Option.some.inj hd
    rw [Option.map_some, if_pos hk]
    rfl

/-- The default in force is what is `held?` over the declared one, or else the `initialValue`. -/
theorem default?_eq_getD {x : String} {d : VariableDeclaration}
    (hd : store.declaration? x = some d) :
    store.default? x = some ((store.held? .default x).getD d.initialValue) := by
  obtain ⟨slot, hslot, rfl⟩ := Option.map_eq_some_iff.1 hd
  rw [default?, hslot, Option.map_some, held?, hslot]
  rfl

/-! ### Stores of an item -/

/-- The stores that come from `Store.ofItem` by writing and by getting the defaults. -/
inductive StemsFrom (item : Item) : Store → Prop
  | fresh : StemsFrom item (ofItem item)
  | write {store store' : Store} (part : SlotPart) (identifier : String) (v : Value)
      (stems : StemsFrom item store) (written : store.write part identifier v = .ok store') :
      StemsFrom item store'
  | resetKind {store : Store} (kind : VariableKind) (stems : StemsFrom item store) :
      StemsFrom item (store.resetKind kind)

/-- The declarations of a store that `StemsFrom` an item are those of the item. -/
theorem StemsFrom.declarations_eq {item : Item} (h : StemsFrom item store) :
    store.declarations = item.declarations := by
  induction h with
  | fresh => exact declarations_ofItem item
  | write part identifier v _ written ih => rw [declarations_write written, ih]
  | resetKind kind _ ih => rw [declarations_resetKind, ih]

end Store

end AssessmentItem
