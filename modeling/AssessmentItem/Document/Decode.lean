import AssessmentItem.Document.Basic
import AssessmentItem.Json.Decode

/-!
# Decoding of item documents

The parts of a document are decoded from JSON values.  A value that has not the form of the part
has no decoding; there is no telling what is wrong with it.

## Main definitions

* `Area.ofJson?` : an area, which is tagged by its form.
* `ItemDocument.ofJson?` : a document.
-/

namespace AssessmentItem

open Json

/-! ### Areas -/

namespace Area

/-- The forms of areas, one for each constructor of `Area`. -/
inductive Form
  | default
  | rect
  | circle
  | poly
  | ellipse
  deriving DecidableEq

namespace Form

/-- All forms, in the order of their numbers, which `ofMixedTag?` takes for their names. -/
def all : List Form := [default, rect, circle, poly, ellipse]

/-- The name of a form under `shape`. -/
def name : Form → String
  | default => "default"
  | rect => "rect"
  | circle => "circle"
  | poly => "poly"
  | ellipse => "ellipse"

/-- The names of the fields that an area of the form has besides `shape`. -/
def fieldNames : Form → List String
  | default => []
  | rect => ["left", "top", "right", "bottom"]
  | circle => ["x", "y", "radius"]
  | poly => ["points"]
  | ellipse => ["x", "y", "h_radius", "v_radius"]

/-- The form whose `name` is `s`. -/
def ofName? (s : String) : Option Form := all.find? fun f ↦ f.name == s

/-- The form of a tag, which is its name. -/
def ofTag? (tag : Json) : Option Form := tag.asText?.bind ofName?

/-- The form of a tag beside other fields: a name, or the number of the form in `all`. -/
def ofMixedTag? : Json → Option Form
  | natural n => all[n.toNat]?
  | tag => ofTag? tag

end Form

/-- A point: an array of its two coordinates. -/
def point? : Json → Option (Int64 × Int64)
  | array [x, y] => do some (← x.asInteger?, ← y.asInteger?)
  | _ => none

/-- The area of a form with the given `fields`. -/
def ofFields? (form : Form) (fields : List (String × Json)) : Option Area := do
  let coordinate (name : String) : Option Int64 := required? fields name asInteger?
  match form with
  | .default => some everywhere
  | .rect =>
    some (rectangle (← coordinate "left") (← coordinate "top") (← coordinate "right")
      (← coordinate "bottom"))
  | .circle => some (circle (← coordinate "x") (← coordinate "y") (← coordinate "radius"))
  | .poly => some (polygon (← required? fields "points" (asList? point?)))
  | .ellipse =>
    some (ellipse (← coordinate "x") (← coordinate "y") (← coordinate "h_radius")
      (← coordinate "v_radius"))

/-- An area: an object with its form under `shape`, or an array of the form and the fields. -/
def ofJson? : Json → Option Area
  | object fields => do
    let form ← (lookup? fields "shape").bind Form.ofTag?
    ofFields? form fields
  | array (tag :: items) => do
    let form ← Form.ofTag? tag
    if items.length = form.fieldNames.length then ofFields? form (form.fieldNames.zip items)
    else none
  | _ => none

end Area

/-! ### Values and tables -/

/-- A field of a record, with `baseType` and `value`. -/
def FieldDocument.ofJson? (v : Json) : Option FieldDocument := do
  let fields ← v.asFields? ["baseType", "value"]
  some ⟨← required? fields "baseType" (asNamed? BaseType.ofName?),
    ← required? fields "value" asText?⟩

/-- A value: a text, a list of texts, or an object of fields, in this order of trying. -/
def ValueDocument.ofJson? (v : Json) : Option ValueDocument :=
  ((v.asText?.map text).or ((asList? asText? v).map list)).or
    ((asMap? FieldDocument.ofJson? v).map record)

/-- A table of scores, whose entries are read by `entry`. -/
def ScoreTable.ofJson? {α : Type} (entry : Json → Option α) (v : Json) :
    Option (ScoreTable α) := do
  let fields ← v.asFields? ["entries", "defaultValue", "lowerBound", "upperBound"]
  some ⟨← required? fields "entries" (asList? entry),
    ← defaulted? fields "defaultValue" 0 asNumber?,
    ← optional? fields "lowerBound" asNumber?,
    ← optional? fields "upperBound" asNumber?⟩

/-- An entry of a mapping, with `key`, `value` and `caseSensitive`. -/
def MapEntry.ofJson? (v : Json) : Option (MapEntry String) := do
  let fields ← v.asFields? ["key", "value", "caseSensitive"]
  some ⟨← required? fields "key" asText?, ← required? fields "value" asNumber?,
    ← defaulted? fields "caseSensitive" true asBool?⟩

/-- An entry of an area mapping: the fields of the area and its score under `value`, in one
object. -/
def AreaEntry.ofJson? (v : Json) : Option AreaEntry := do
  let fields ← v.asEntries?
  let score ← required? fields "value" asNumber?
  let form ← (lookup? fields "shape").bind Area.Form.ofMixedTag?
  some ⟨← Area.ofFields? form fields, score⟩

/-- The constraints of a response, with `minValues`, `maxValues` and `patternMask`. -/
def ResponseConstraints.ofJson? (v : Json) : Option ResponseConstraints := do
  let fields ← v.asFields? ["minValues", "maxValues", "patternMask"]
  some ⟨← defaulted? fields "minValues" 0 asNatural?,
    ← optional? fields "maxValues" asNatural?,
    ← optional? fields "patternMask" asText?⟩

/-- A table of an outcome, whose entries are read by `entry`. -/
def TableDocument.ofJson? {ε : Type} (entry : Json → Option ε) (v : Json) :
    Option (TableDocument ε) := do
  let fields ← v.asFields? ["entries", "defaultValue"]
  some ⟨← required? fields "entries" (asList? entry), ← optional? fields "defaultValue" asText?⟩

/-- An entry for one number, with `sourceValue` and `targetValue`. -/
def MatchEntry.ofJson? (v : Json) : Option (MatchEntry String) := do
  let fields ← v.asFields? ["sourceValue", "targetValue"]
  some ⟨← required? fields "sourceValue" asInteger?, ← required? fields "targetValue" asText?⟩

/-- An entry for all numbers from a boundary on, with `sourceValue`, `includeBoundary` and
`targetValue`. -/
def InterpolationEntry.ofJson? (v : Json) : Option (InterpolationEntry String) := do
  let fields ← v.asFields? ["sourceValue", "includeBoundary", "targetValue"]
  some ⟨← required? fields "sourceValue" asNumber?,
    ← defaulted? fields "includeBoundary" true asBool?,
    ← required? fields "targetValue" asText?⟩

/-! ### Documents -/

/-- A declaration, of which only `kind`, `identifier` and `cardinality` have to be there. -/
def DeclarationDocument.ofJson? (v : Json) : Option DeclarationDocument := do
  let fields ← v.asFields? ["kind", "identifier", "cardinality", "baseType", "defaultValue",
    "correctResponse", "mapping", "areaMapping", "constraints", "normalMinimum", "normalMaximum",
    "masteryValue", "matchTable", "interpolationTable", "paramVariable", "mathVariable"]
  some {
    kind := ← required? fields "kind" (asNamed? VariableKind.ofName?)
    identifier := ← required? fields "identifier" asText?
    cardinality := ← required? fields "cardinality" (asNamed? Cardinality.ofName?)
    baseType := ← optional? fields "baseType" (asNamed? BaseType.ofName?)
    default := ← optional? fields "defaultValue" ValueDocument.ofJson?
    correct := ← optional? fields "correctResponse" ValueDocument.ofJson?
    mapping := ← optional? fields "mapping" (ScoreTable.ofJson? MapEntry.ofJson?)
    areaMapping := ← optional? fields "areaMapping" (ScoreTable.ofJson? AreaEntry.ofJson?)
    constraints := ← optional? fields "constraints" ResponseConstraints.ofJson?
    normalMinimum := ← optional? fields "normalMinimum" asNumber?
    normalMaximum := ← optional? fields "normalMaximum" asNumber?
    mastery := ← optional? fields "masteryValue" asNumber?
    matchTable := ← optional? fields "matchTable" (TableDocument.ofJson? MatchEntry.ofJson?)
    interpolationTable :=
      ← optional? fields "interpolationTable" (TableDocument.ofJson? InterpolationEntry.ofJson?)
    isParameter := ← defaulted? fields "paramVariable" false asBool?
    isMath := ← defaulted? fields "mathVariable" false asBool? }

/-- A document, of which only `identifier` has to be there. -/
def ItemDocument.ofJson? (v : Json) : Option ItemDocument := do
  let fields ← v.asFields? ["identifier", "title", "adaptive", "declarations",
    "templateProcessing", "responseProcessing"]
  some {
    identifier := ← required? fields "identifier" asText?
    title := ← optional? fields "title" asText?
    adaptive := ← defaulted? fields "adaptive" false asBool?
    declarations := ← defaulted? fields "declarations" [] (asList? DeclarationDocument.ofJson?)
    templateProcessing := ← defaulted? fields "templateProcessing" [] (asList? some)
    responseProcessing := ← defaulted? fields "responseProcessing" [] (asList? some) }

end AssessmentItem
