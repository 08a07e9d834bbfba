import AssessmentItem.Value.Container

/-!
# Values

A value is NULL, a scalar, a multiple or ordered container of scalars, or a record of named
scalars.  The constructors of containers and records give NULL where there is no member; a
container or a record without members counts as NULL too.

## Main definitions

* `Value` : values.
* `Value.container`, `Value.ofRecord` : values built from their members.
* `Value.isNull`, `Value.cardinality?`, `Value.baseType?`, `Value.members` : what a value is.
* `Value.equal` : equality of values.
* `Value.text`, `Value.toJson` : the two renderings of a value.
-/

namespace AssessmentItem

/-- A value of any cardinality, or NULL.  What `Value.container` and `Value.ofRecord` build has at
least one member or is `null`. -/
inductive Value
  | null
  | single (s : Scalar)
  | multiple (c : Container)
  | ordered (c : Container)
  | record (fields : FieldMap Scalar)

namespace Value

instance : Inhabited Value := ⟨null⟩

/-! ### Building values -/

/-- A single `Scalar.boolean`. -/
def boolean (b : Bool) : Value := single (.boolean b)

/-- A single `Scalar.integer`. -/
def integer (n : Int64) : Value := single (.integer n)

/-- A single `Scalar.float`. -/
def float (x : Float) : Value := single (.float x)

/-- A single `Scalar.identifier`. -/
def identifier (name : String) : Value := single (.identifier name)

/-- A value with the given `members`.  They are checked first, none of them gives `null`, and only
then has `cardinality` to be `multiple` or `ordered`. -/
def container (cardinality : Cardinality) (baseType : BaseType) (members : List Scalar) :
    Except ContainerFault Value := do
  let c ← Container.ofMembers baseType members
  if c.isEmpty then return null
  match cardinality with
  | .multiple => return multiple c
  | .ordered => return ordered c
  | other => throw (.notContainer other)

/-- A record with the given `fields`; one without fields is `null`. -/
def ofRecord (fields : FieldMap Scalar) : Value :=
  if fields.isEmpty then null else record fields

/-! ### What a value is -/

/-- Whether a value counts as NULL: it is `null`, or it has no members. -/
def isNull : Value → Bool
  | null => true
  | single _ => false
  | multiple c | ordered c => c.isEmpty
  | record fields => fields.isEmpty

/-- The cardinality of a value; `null` has none. -/
def cardinality? : Value → Option Cardinality
  | null => none
  | single _ => some .single
  | multiple _ => some .multiple
  | ordered _ => some .ordered
  | record _ => some .record

/-- The base type of a value; `null` and records have none. -/
def baseType? : Value → Option BaseType
  | single s => some s.baseType
  | multiple c | ordered c => some c.baseType
  | null | record _ => none

/-- The scalar of a `single` value. -/
def single? : Value → Option Scalar
  | single s => some s
  | _ => none

/-- The container of a `multiple` or `ordered` value. -/
def container? : Value → Option Container
  | multiple c | ordered c => some c
  | _ => none

/-- The members of a value; those of a `record` stand in the order of their names. -/
def members : Value → List Scalar
  | null => []
  | single s => [s]
  | multiple c | ordered c => c.members
  | record fields => fields.values

/-- The truth value of a single `boolean`. -/
def boolean? (v : Value) : Option Bool := v.single?.bind Scalar.boolean?

/-- The text of a single `identifier`, `string` or `uri`. -/
def text? (v : Value) : Option String := v.single?.bind Scalar.text?

/-- A single `integer` as a `float`. -/
def widen? : Value → Option Value
  | single (.integer n) => some (float (Binary64.ofInteger n))
  | _ => none

/-! ### Equality -/

/-- Whether two lists of fields have the same names with equal scalars. -/
def equalFields : List (String × Scalar) → List (String × Scalar) → Bool
  | [], [] => true
  | (m, s) :: a, (n, t) :: b => m == n && s == t && equalFields a b
  | _, _ => false

/-- Equality of values: `multiple` containers as multisets, `ordered` ones as lists, records by
name.  Values of different cardinalities or base types differ. -/
def equal : Value → Value → Bool
  | null, null => true
  | single s, single t => s == t
  | multiple c, multiple d => c.baseType == d.baseType && sameMultiset c.members d.members
  | ordered c, ordered d => c.baseType == d.baseType && c.members == d.members
  | record f, record g => equalFields f.entries g.entries
  | _, _ => false

instance : BEq Value := ⟨equal⟩

/-! ### Renderings -/

/-- Texts with a comma and a blank between them, between the brackets `first` and `last`. -/
def bracketed (first last : String) (texts : List String) : String :=
  first ++ String.intercalate ", " texts ++ last

/-- The display text of a value: `NULL`, the text of a scalar, or the members in brackets. -/
def text : Value → String
  | null => "NULL"
  | single s => s.text
  | multiple c => bracketed "[" "]" (c.members.map Scalar.text)
  | ordered c => bracketed "<" ">" (c.members.map Scalar.text)
  | record fields =>
    bracketed "\x7b" "\x7d" (fields.entries.map fun e ↦ e.1 ++ ": " ++ e.2.text)

/-- The JSON object of a value with the fields `cardinality`, `baseType` and `value`. -/
def typedJson (cardinality : Cardinality) (baseType : BaseType) (content : Json) : Json :=
  .fields [("cardinality", .string cardinality.name), ("baseType", .string baseType.name),
    ("value", content)]

/-- The JSON value of a value, with the types that `Scalar.toJson` leaves out. -/
def toJson : Value → Json
  | null => .null
  | single s => typedJson .single s.baseType s.toJson
  | multiple c => typedJson .multiple c.baseType (.array (c.members.map Scalar.toJson))
  | ordered c => typedJson .ordered c.baseType (.array (c.members.map Scalar.toJson))
  | record fields =>
    let field (s : Scalar) : Json :=
      .fields [("baseType", .string s.baseType.name), ("value", s.toJson)]
    .fields [("cardinality", .string Cardinality.record.name),
      ("value", .ofMap (fields.map field))]

end Value

end AssessmentItem
