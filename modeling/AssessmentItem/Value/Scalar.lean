import AssessmentItem.Value.BaseType
import AssessmentItem.Binary64.Text
import AssessmentItem.Integer.Literal
import AssessmentItem.Json.Basic

/-!
# Scalars

A scalar is a value of single cardinality.  Two scalars are equal if they have the same base type
and the same content; the two identifiers of a pair may be exchanged, and floats are compared as
numbers, so NaN differs from itself.

## Main definitions

* `Scalar` : scalars.
* `Scalar.baseType` : the base type of a scalar.
* `Scalar.equal` : equality of scalars.
* `Scalar.text`, `Scalar.toJson` : the two renderings of a scalar.
-/

namespace AssessmentItem

/-- What is known of an uploaded file: its `name`, its `contentType` and its `size` in bytes. -/
structure FileInfo where
  name : String
  contentType : String
  size : UInt64
  deriving DecidableEq

/-- A value of cardinality `single`. -/
inductive Scalar
  | identifier (name : String)
  | boolean (b : Bool)
  | integer (n : Int64)
  | float (x : Float)
  | string (s : String)
  | point (x y : Int64)
  /-- Two identifiers without an order: `pair a b` equals `pair b a`. -/
  | pair (a b : String)
  /-- A source and a destination. -/
  | directedPair (source destination : String)
  | duration (seconds : Float)
  | file (info : FileInfo)
  | uri (s : String)

namespace Scalar

/-- The base type of a scalar, one for each constructor. -/
def baseType : Scalar → BaseType
  | identifier _ => .identifier
  | boolean _ => .boolean
  | integer _ => .integer
  | float _ => .float
  | string _ => .string
  | point _ _ => .point
  | pair _ _ => .pair
  | directedPair _ _ => .directedPair
  | duration _ => .duration
  | file _ => .file
  | uri _ => .uri

/-- Equality of scalars: floats by `==`, so that NaN differs from itself, and a `pair` in both
orders. -/
def equal : Scalar → Scalar → Bool
  | identifier a, identifier b => a == b
  | boolean a, boolean b => a == b
  | integer a, integer b => a == b
  | float a, float b => a == b
  | string a, string b => a == b
  | point a b, point c d => a == c && b == d
  | pair a b, pair c d => (a == c && b == d) || (a == d && b == c)
  | directedPair a b, directedPair c d => a == c && b == d
  | duration a, duration b => a == b
  | file a, file b => a == b
  | uri a, uri b => a == b
  | _, _ => false

instance : BEq Scalar := ⟨equal⟩

/-! ### Content -/

/-- The truth value of a `boolean`. -/
def boolean? : Scalar → Option Bool
  | boolean b => some b
  | _ => none

/-- The content of an `integer`. -/
def integer? : Scalar → Option Int64
  | integer n => some n
  | _ => none

/-- The content of an `integer` or a `float` as a floating-point number. -/
def number? : Scalar → Option Float
  | integer n => some (Binary64.ofInteger n)
  | float x => some x
  | _ => none

/-- The text of an `identifier`, a `string` or a `uri`. -/
def text? : Scalar → Option String
  | identifier s | string s | uri s => some s
  | _ => none

/-! ### Renderings -/

/-- The display text of a scalar, with floats as `Binary64.literalText` writes them. -/
def text : Scalar → String
  | identifier s | string s | uri s => s
  | boolean b => if b then "true" else "false"
  | integer n => Integer.text n
  | float x | duration x => Binary64.literalText x
  | point x y => Integer.text x ++ " " ++ Integer.text y
  | pair a b | directedPair a b => a ++ " " ++ b
  | file info => info.name

/-- The JSON value of a floating-point number; infinities and NaN become their
`Binary64.literalText`. -/
def floatJson (x : Float) : Json :=
  if x.isFinite then .float x else .string (Binary64.literalText x)

/-- The JSON value of a scalar, which does not tell its `baseType`. -/
def toJson : Scalar → Json
  | identifier s | string s | uri s => .string s
  | boolean b => .bool b
  | integer n => .ofInteger n
  | float x | duration x => floatJson x
  | point x y => .array [.ofInteger x, .ofInteger y]
  | pair a b | directedPair a b => .ofStrings [a, b]
  | file info =>
    .fields [("fileName", .string info.name), ("contentType", .string info.contentType),
      ("size", .natural info.size)]

end Scalar

end AssessmentItem
