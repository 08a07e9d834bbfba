import AssessmentItem.Document.Node
import AssessmentItem.Json.Reader

/-!
# Items from documents

The declarations of a document are read first, then its rules for template processing, then those
for response processing.  The trees are laid out in the arenas of the item in the order in which
they are written.

## Main definitions

* `DeclarationDocument.declaration` : the declaration that is written.
* `ItemDocument.item`, `Item.ofJson`, `Item.ofText` : the item of a document.
-/

namespace AssessmentItem

/-! ### Declarations -/

/-- The value that `v` writes, of the declared `cardinality` and `baseType`. -/
def ValueDocument.value (context field : String) (cardinality : Cardinality)
    (baseType : Option BaseType) (v : ValueDocument) : Reading Value :=
  let invalid (fault : FieldFault) : Reading Value := .error (.invalidField context field fault)
  let literal {α : Type} (r : Except LiteralError α) : Reading α :=
    r.mapError (.invalidValue context field)
  match v, baseType with
  | record fields, none => do
    let entries ← fields.entries.mapM fun e ↦
      return (e.1, ← literal (Scalar.read e.2.text e.2.baseType))
    return .ofRecord (.ofList entries)
  | record _, some _ => invalid (.recordFor cardinality)
  | text _, none | list _, none => invalid .textForRecord
  | text s, some baseType => literal (Value.read [s] cardinality baseType)
  | list texts, some baseType => literal (Value.read texts cardinality baseType)

/-- A mapping whose keys have the declared `baseType`; the key of an entry is read by
`Scalar.read`. -/
def readMapping (context : String) (baseType : Option BaseType)
    (table : ScoreTable (MapEntry String)) : Reading Mapping :=
  match baseType with
  | none => .error (.invalidField context "mapping" .mappingOfRecord)
  | some baseType => do
    let entries ← table.entries.mapM fun e ↦ do
      let key ← (Scalar.read e.key baseType).mapError (.invalidValue context "mapping")
      return ⟨key, e.score, e.caseSensitive⟩
    return { table with entries }

/-- The target of an entry of a table, read as a scalar of the declared `baseType`. -/
def readTarget (context field : String) (baseType : Option BaseType) (text : String) :
    Reading Scalar :=
  match baseType with
  | none => .error (.invalidField context field .tableOfRecord)
  | some baseType => (Scalar.read text baseType).mapError (.invalidValue context field)

/-- The table of an outcome: `matchTable` or `interpolationTable`, but not both. -/
def DeclarationDocument.readTable (context : String) (d : DeclarationDocument) :
    Reading (Option LookupTable) :=
  match d.matchTable, d.interpolationTable with
  | some _, some _ => .error (.invalidField context "matchTable" .twoTables)
  | some table, none => do
    let target := readTarget context "matchTable" d.baseType
    let entries ← table.entries.mapM fun e ↦ return ⟨e.source, ← target e.target⟩
    return some (.exact entries (← table.default?.mapM target))
  | none, some table => do
    let target := readTarget context "interpolationTable" d.baseType
    let entries ← table.entries.mapM fun e ↦
      return ⟨e.boundary, e.includesBoundary, ← target e.target⟩
    return some (.interpolation entries (← table.default?.mapM target))
  | none, none => return none

/-- What is written for the kind of the variable.  Fields of other kinds are passed over. -/
def DeclarationDocument.readDetails (context : String) (d : DeclarationDocument) :
    Reading VariableDetails :=
  match d.kind with
  | .template => return .template ⟨d.isParameter, d.isMath⟩
  | .response => do
    let correct ← d.correct.mapM (·.value context "correctResponse" d.cardinality d.baseType)
    let mapping ← d.mapping.mapM (readMapping context d.baseType)
    return .response ⟨correct.getD .null, mapping, d.areaMapping, d.constraints.getD .unlimited⟩
  | .outcome => do
    return .outcome ⟨d.normalMinimum, d.normalMaximum, d.mastery, ← d.readTable context⟩

/-- The declaration that `d` writes.  A `record` has no base type, any other variable has one. -/
def DeclarationDocument.declaration (d : DeclarationDocument) : Reading VariableDeclaration := do
  let context := "declaration '" ++ d.identifier ++ "'"
  match d.cardinality, d.baseType with
  | .record, some _ => throw (.invalidField context "baseType" .baseTypeOfRecord)
  | .record, none => pure ()
  | _, some _ => pure ()
  | _, none => throw (.missingField context "baseType")
  let default ← d.default.mapM (·.value context "defaultValue" d.cardinality d.baseType)
  let details ← d.readDetails context
  return ⟨d.identifier, d.cardinality, d.baseType, default.getD .null, details⟩

/-! ### Items -/

/-- The item of a document: its declarations by `declareAll`, then both lists of rules, laid out in
one arena. -/
def ItemDocument.item (d : ItemDocument) : Reading Item := do
  let declarations ← d.declarations.mapM DeclarationDocument.declaration
  let declarations ← (declareAll declarations).mapError .definition
  let template ← readRules d.templateProcessing Phase.template.name 0
  let response ← readRules d.responseProcessing Phase.response.name 0
  let (templateRules, layout) := RuleSyntax.layOutAll template .empty
  let (responseRules, layout) := RuleSyntax.layOutAll response layout
  return {
    identifier := d.identifier
    title := d.title.getD ""
    adaptive := d.adaptive
    declarations, layout, templateRules, responseRules }

namespace Item

/-- The item of a JSON value, if `ItemDocument.ofJson?` reads it. -/
def ofJson (v : Json) : Reading Item :=
  match ItemDocument.ofJson? v with
  | some d => d.item
  | none => .error .malformed

/-- The item of a JSON text, if `Json.read?` reads it. -/
def ofText (text : String) : Reading Item :=
  match Json.read? text with
  | some v => ofJson v
  | none => .error .malformed

end Item

end AssessmentItem
