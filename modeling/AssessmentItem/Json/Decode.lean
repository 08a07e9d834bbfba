import AssessmentItem.Json.Basic
import AssessmentItem.Binary64.Parts

/-!
# Typed views of JSON values

A structure is written as an object or as the array of its fields in their order; fields of an
object that are not known do not count.  A field that may be missing is absent or, where it is
optional, null.

## Main definitions

* `Json.asText?`, `Json.asInteger?`, `Json.asNumber?` and so on : the views of single values.
* `Json.asFields?` : the fields of a structure.
* `Json.required?`, `Json.optional?`, `Json.defaulted?` : the views of a field.
-/

namespace AssessmentItem.Json

/-! ### Values -/

/-- The text of a `string`. -/
def asText? : Json → Option String
  | string s => some s
  | _ => none

/-- The truth value of a `bool`. -/
def asBool? : Json → Option Bool
  | bool b => some b
  | _ => none

/-- A number below `2 ^ 64`, which has to be written as a `natural` one. -/
def asNatural? : Json → Option UInt64
  | natural n => some n
  | _ => none

/-- An `Int64`, which has to be written without point and exponent. -/
def asInteger? : Json → Option Int64
  | natural n => Integer.fit? n.toNat
  | negative n => some n
  | _ => none

/-- A number of any form, the nearest floating-point one. -/
def asNumber? : Json → Option Float
  | natural n => some (Binary64.ofInt n.toNat)
  | negative n => some (Binary64.ofInteger n)
  | float x => some x
  | _ => none

/-- An `array`, of whose items `view` accepts every one. -/
def asList? {α : Type} (view : Json → Option α) : Json → Option (List α)
  | array items => items.mapM view
  | _ => none

/-- The entries of an `object`, as they are written. -/
def asEntries? : Json → Option (List (String × Json))
  | object fields => some fields
  | _ => none

/-- A map from names to values, of which `view` accepts every one. -/
def asMap? {α : Type} (view : Json → Option α) (v : Json) : Option (FieldMap α) := do
  let entries ← (← v.asEntries?).mapM fun e ↦ do some (e.1, ← view e.2)
  some (FieldMap.ofList entries)

/-- One of the things that `ofName?` knows: its name, or an object with `null` under the name. -/
def asNamed? {α : Type} (ofName? : String → Option α) : Json → Option α
  | string name => ofName? name
  | object [(name, null)] => ofName? name
  | _ => none

/-! ### Structures -/

/-- The fields of a structure with the field names `names`: those of an `object`, of which none of
the names may occur twice, or the items of an `array` under the names in their order. -/
def asFields? (names : List String) : Json → Option (List (String × Json))
  | object fields =>
    if names.all fun name ↦ (fields.filter fun e ↦ e.1 == name).length ≤ 1 then some fields
    else none
  | array items => if items.length ≤ names.length then some (names.zip items) else none
  | _ => none

/-- The value of the first field called `name`. -/
def lookup? (fields : List (String × Json)) (name : String) : Option Json :=
  (fields.find? fun e ↦ e.1 == name).map (·.2)

/-- The field `name`, which has to be there and in a form that `view` accepts. -/
def required? {α : Type} (fields : List (String × Json)) (name : String)
    (view : Json → Option α) : Option α :=
  (lookup? fields name).bind view

/-- The field `name`, or `default` if it is missing. -/
def defaulted? {α : Type} (fields : List (String × Json)) (name : String) (default : α)
    (view : Json → Option α) : Option α :=
  match lookup? fields name with
  | none => some default
  | some v => view v

/-- The field `name`, which may be missing or `null`. -/
def optional? {α : Type} (fields : List (String × Json)) (name : String)
    (view : Json → Option α) : Option (Option α) :=
  match lookup? fields name with
  | none | some null => some none
  | some v => (view v).map some

end AssessmentItem.Json
