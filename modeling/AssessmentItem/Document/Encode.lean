import AssessmentItem.Document.Decode

/-!
# Encoding of item documents

The parts of a document are written as JSON objects.  Optional parts that are absent are left
out, except in constraints, where they are null; parts with a default are written always.

## Main definitions

* `Area.toJson`, `ItemDocument.toJson` : the encodings of areas and of documents.
-/

namespace AssessmentItem

open Json

/-- The field `name`, left out if there is nothing to write. -/
def optionalField {α : Type} (name : String) (encode : α → Json) (a : Option α) :
    List (String × Json) :=
  (a.map fun a ↦ (name, encode a)).toList

/-- What `encode` writes, or `null`. -/
def orNull {α : Type} (encode : α → Json) : Option α → Json
  | some a => encode a
  | none => .null

namespace Area

/-- The fields of an area, with `shape` in front of those of its form. -/
def toFields : Area → List (String × Json)
  | everywhere => [("shape", .string "default")]
  | rectangle left top right bottom =>
    [("shape", .string "rect"), ("left", .ofInteger left), ("top", .ofInteger top),
      ("right", .ofInteger right), ("bottom", .ofInteger bottom)]
  | circle x y radius =>
    [("shape", .string "circle"), ("x", .ofInteger x), ("y", .ofInteger y),
      ("radius", .ofInteger radius)]
  | polygon corners =>
    [("shape", .string "poly"),
      ("points", .array (corners.map fun c ↦ .array [.ofInteger c.1, .ofInteger c.2]))]
  | ellipse x y h v =>
    [("shape", .string "ellipse"), ("x", .ofInteger x), ("y", .ofInteger y),
      ("h_radius", .ofInteger h), ("v_radius", .ofInteger v)]

/-- An area as an object with the fields `toFields`. -/
def toJson (a : Area) : Json := .fields a.toFields

end Area

/-- A value as `ValueDocument.ofJson?` reads it: a text, an array of texts, or an object of
fields. -/
def ValueDocument.toJson : ValueDocument → Json
  | text s => .string s
  | list texts => .ofStrings texts
  | record fields =>
    .ofMap (fields.map fun f ↦ .fields [("baseType", .string f.baseType.name),
      ("value", .string f.text)])

/-- A table of scores, whose entries are written by `entry`. -/
def ScoreTable.toJson {α : Type} (entry : α → Json) (t : ScoreTable α) : Json :=
  .fields ([("entries", .array (t.entries.map entry)), ("defaultValue", .float t.defaultScore)] ++
    optionalField "lowerBound" .float t.lowerBound ++
    optionalField "upperBound" .float t.upperBound)

/-- An entry of a mapping, with `key`, `value` and `caseSensitive`. -/
def MapEntry.toJson (e : MapEntry String) : Json :=
  .fields [("key", .string e.key), ("value", .float e.score),
    ("caseSensitive", .bool e.caseSensitive)]

/-- An entry of an area mapping: the fields of the area with `value` behind them. -/
def AreaEntry.toJson (e : AreaEntry) : Json :=
  .fields (e.area.toFields ++ [("value", .float e.score)])

/-- The constraints of a response; `maxValues` and `patternMask` may be `null`. -/
def ResponseConstraints.toJson (c : ResponseConstraints) : Json :=
  .fields [("minValues", .natural c.minValues), ("maxValues", orNull .natural c.maxValues),
    ("patternMask", orNull .string c.patternMask)]

/-- A table of an outcome, whose entries are written by `entry`. -/
def TableDocument.toJson {ε : Type} (entry : ε → Json) (t : TableDocument ε) : Json :=
  .fields (("entries", .array (t.entries.map entry)) ::
    optionalField "defaultValue" .string t.default?)

/-- An entry for one number, with `sourceValue` and `targetValue`. -/
def MatchEntry.toJson (e : MatchEntry String) : Json :=
  .fields [("sourceValue", .ofInteger e.source), ("targetValue", .string e.target)]

/-- An entry for all numbers from a boundary on, with `sourceValue`, `includeBoundary` and
`targetValue`. -/
def InterpolationEntry.toJson (e : InterpolationEntry String) : Json :=
  .fields [("sourceValue", .float e.boundary), ("includeBoundary", .bool e.includesBoundary),
    ("targetValue", .string e.target)]

/-- A declaration, with the fields of all kinds; those without a value are left out or `null`. -/
def DeclarationDocument.toJson (d : DeclarationDocument) : Json :=
  .fields (
    [("kind", .string d.kind.name), ("identifier", .string d.identifier),
      ("cardinality", .string d.cardinality.name)] ++
    optionalField "baseType" (fun t ↦ .string t.name) d.baseType ++
    optionalField "defaultValue" ValueDocument.toJson d.default ++
    optionalField "correctResponse" ValueDocument.toJson d.correct ++
    optionalField "mapping" (ScoreTable.toJson MapEntry.toJson) d.mapping ++
    optionalField "areaMapping" (ScoreTable.toJson AreaEntry.toJson) d.areaMapping ++
    optionalField "constraints" ResponseConstraints.toJson d.constraints ++
    optionalField "normalMinimum" .float d.normalMinimum ++
    optionalField "normalMaximum" .float d.normalMaximum ++
    optionalField "masteryValue" .float d.mastery ++
    optionalField "matchTable" (TableDocument.toJson MatchEntry.toJson) d.matchTable ++
    optionalField "interpolationTable" (TableDocument.toJson InterpolationEntry.toJson)
      d.interpolationTable ++
    [("paramVariable", .bool d.isParameter), ("mathVariable", .bool d.isMath)])

/-- A document, as `ItemDocument.ofJson?` reads it. -/
def ItemDocument.toJson (d : ItemDocument) : Json :=
  .fields (
    ("identifier", .string d.identifier) ::
    optionalField "title" .string d.title ++
    [("adaptive", .bool d.adaptive),
      ("declarations", .array (d.declarations.map DeclarationDocument.toJson)),
      ("templateProcessing", .array d.templateProcessing),
      ("responseProcessing", .array d.responseProcessing)])

end AssessmentItem
