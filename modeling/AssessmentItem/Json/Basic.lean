import AssessmentItem.FieldMap

/-!
# JSON values

A number is a natural number of 64 bits, a negative integer of 64 bits or a finite floating-point
number.  An object lists its fields in the order of the text; `Json.settle` keeps the last field
of each name and sorts the fields by name.

## Main definitions

* `Json` : JSON values.
* `Json.field?` : the value of a field of an object.
* `Json.settle` : the value with sorted objects and without repeated fields.
-/

namespace AssessmentItem

/-- A JSON value.  Numbers keep apart what is written without point and exponent: `natural`,
`negative` and `float`. -/
inductive Json
  | null
  | bool (b : Bool)
  /-- A number without sign, point and exponent, below `2 ^ 64`. -/
  | natural (n : UInt64)
  /-- A number below zero without point and exponent, from `-2 ^ 63`. -/
  | negative (n : Int64)
  | float (x : Float)
  | string (s : String)
  | array (items : List Json)
  | object (fields : List (String × Json))

namespace Json

/-- The JSON number of an integer, `negative` or `natural` by its sign. -/
def ofInteger (n : Int64) : Json :=
  if n < 0 then negative n else natural n.toUInt64

/-- The JSON number of a natural number below `2 ^ 64`. -/
def ofNat (n : Nat) : Json := natural (UInt64.ofNat n)

/-- The array of the strings of `l`. -/
def ofStrings (l : List String) : Json := array (l.map string)

/-- The object with the entries of `m`, sorted by name. -/
def ofMap (m : FieldMap Json) : Json := object m.entries

/-- The object with the fields `l`, sorted by name; of two fields of one name the later stays. -/
def fields (l : List (String × Json)) : Json := ofMap (FieldMap.ofList l)

/-- The value of the first field with the given name; values that are no `object` have no fields. -/
def field? : Json → String → Option Json
  | object fields, name => (fields.find? fun e ↦ e.1 == name).map (·.2)
  | _, _ => none

mutual

/-- The value with every object sorted, of whose fields the last of each name stays. -/
def settle : Json → Json
  | array items => array (settleItems items)
  | object fields => ofMap (FieldMap.ofList (settleFields fields))
  | v => v

/-- Settles the items of an array, each by `settle`. -/
def settleItems : List Json → List Json
  | [] => []
  | v :: vs => settle v :: settleItems vs

/-- Settles the values of the fields of an object, each by `settle`. -/
def settleFields : List (String × Json) → List (String × Json)
  | [] => []
  | (name, v) :: fields => (name, settle v) :: settleFields fields

end

end Json

end AssessmentItem
