import AssessmentItem.Item.Basic

/-!
# Stores

A store holds what a session knows of every variable of an item: its current value, and a default
and a correct value that template processing may have put over the declared ones.  Everything that
is written has the declared type; a single integer written to a float variable becomes a float.

## Main definitions

* `Slot`, `Store` : what is known of one variable and of all.
* `VariableDeclaration.conform` : a value as one of the declared type.
* `Store.write` : the store after a value is written.
* `Store.resetKind` : the store after the variables of a kind get their defaults.
-/

namespace AssessmentItem

/-- Why `Store.write` cannot write a value. -/
inductive AssignmentFault
  | undeclared (identifier : String)
  | cardinality (expected found : Cardinality)
  /-- The base types differ; that of a `record` is `none`. -/
  | baseType (expected found : Option BaseType)
  deriving DecidableEq

/-- The wording of a base type; `record` stands for none. -/
def baseTypeLabel (t : Option BaseType) : String := (t.map BaseType.name).getD "record"

/-- The wording of an `AssignmentFault`. -/
def AssignmentFault.message : AssignmentFault → String
  | undeclared identifier => "variable '" ++ identifier ++ "' is not declared"
  | cardinality expected found =>
    "value of cardinality " ++ found.name ++ " cannot be stored in a " ++ expected.name ++
      " variable"
  | baseType expected found =>
    "value of base type " ++ baseTypeLabel found ++ " cannot be stored in a " ++
      baseTypeLabel expected ++ " variable"

/-- The value `v` as one of the declared type: NULL is of every type, and a single `integer` becomes
a `float` where one is declared. -/
def VariableDeclaration.conform (d : VariableDeclaration) (v : Value) :
    Except AssignmentFault Value :=
  match v.cardinality? with
  | none => .ok .null
  | some cardinality =>
    if cardinality ≠ d.cardinality then .error (.cardinality d.cardinality cardinality)
    else if cardinality = .record ∨ v.baseType? = d.baseType then .ok v
    else
      match d.baseType, v.widen? with
      | some .float, some widened => .ok widened
      | expected, _ => .error (.baseType expected v.baseType?)

/-! ### Slots -/

/-- What is known of a variable: its declaration, its value, and what has taken the place of its
default and its correct value. -/
structure Slot where
  declaration : VariableDeclaration
  value : Value
  defaultOverride : Option Value
  correctOverride : Option Value

/-- The parts of a slot that are written, one for each field of `Slot` after the declaration. -/
inductive SlotPart
  | value
  | default
  | correct
  deriving DecidableEq

namespace Slot

/-- The slot of a variable to which nothing has been written; its value is the `initialValue`. -/
def fresh (d : VariableDeclaration) : Slot := ⟨d, d.initialValue, none, none⟩

/-- The default in force: `defaultOverride`, else the `initialValue`. -/
def default (s : Slot) : Value := s.defaultOverride.getD s.declaration.initialValue

/-- The correct value in force: `correctOverride`, else the declared one, which only responses
have. -/
def correct? (s : Slot) : Option Value := s.correctOverride.or s.declaration.correct?

/-- The slot with `v` in one of its parts. -/
def write (s : Slot) (part : SlotPart) (v : Value) : Slot :=
  match part with
  | .value => { s with value := v }
  | .default => { s with defaultOverride := some v }
  | .correct => { s with correctOverride := some v }

/-- The slot with its `default` as its value. -/
def reset (s : Slot) : Slot := { s with value := s.default }

end Slot

/-! ### Stores -/

/-- What is known of the variables of an item, one slot for each declaration in their order. -/
structure Store where
  slots : List Slot

namespace Store

/-- The store of `item` to which nothing has been written. -/
def ofItem (item : Item) : Store := ⟨item.declarations.map Slot.fresh⟩

/-- The slot of the variable `identifier`. -/
def slot? (store : Store) (identifier : String) : Option Slot :=
  store.slots.find? fun s ↦ s.declaration.identifier == identifier

/-- The current value of the variable `identifier`. -/
def value? (store : Store) (identifier : String) : Option Value :=
  (store.slot? identifier).map (·.value)

/-- The declaration of the variable `identifier`. -/
def declaration? (store : Store) (identifier : String) : Option VariableDeclaration :=
  (store.slot? identifier).map (·.declaration)

/-- The default in force of the variable `identifier`. -/
def default? (store : Store) (identifier : String) : Option Value :=
  (store.slot? identifier).map Slot.default

/-- The correct value in force of the variable `identifier`. -/
def correct? (store : Store) (identifier : String) : Option Value :=
  (store.slot? identifier).bind Slot.correct?

/-- The store after `v`, in the form that `conform` gives it, is written to a part of the slot of
`identifier`. -/
def write (store : Store) (part : SlotPart) (identifier : String) (v : Value) :
    Except AssignmentFault Store :=
  match store.slot? identifier with
  | none => .error (.undeclared identifier)
  | some slot => do
    let v ← slot.declaration.conform v
    return ⟨store.slots.map fun s ↦
      if s.declaration.identifier = identifier then s.write part v else s⟩

/-- The store after the variables of `kind` get their defaults, by `Slot.reset`. -/
def resetKind (store : Store) (kind : VariableKind) : Store :=
  ⟨store.slots.map fun s ↦ if s.declaration.kind = kind then s.reset else s⟩

/-- The values of the variables that `accepts` accepts, by identifier. -/
def valuesJson (store : Store) (accepts : Slot → Bool) : Json :=
  .fields ((store.slots.filter accepts).map fun s ↦ (s.declaration.identifier, s.value.toJson))

/-- The values of the variables, by the name of their kind and then by identifier. -/
def toJson (store : Store) : Json :=
  .fields (VariableKind.all.map fun kind ↦
    (kind.name, store.valuesJson fun s ↦ s.declaration.kind = kind))

end Store

end AssessmentItem
