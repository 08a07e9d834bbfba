import AssessmentItem.Declaration

/-!
# Item documents

An item document is the written form of an item.  Its declarations are typed but hold their
values as texts; its two lists of rules stay JSON values until they are read.

## Main definitions

* `ItemDocument`, `DeclarationDocument` : the parts of a document.
* `ValueDocument` : a value as it is written.
-/

namespace AssessmentItem

/-- A field of a `record` as it is written, with its own base type. -/
structure FieldDocument where
  baseType : BaseType
  text : String
  deriving DecidableEq

/-- A value as it is written: one text, a list of texts, or the fields of a record. -/
inductive ValueDocument
  | text (text : String)
  | list (texts : List String)
  | record (fields : FieldMap FieldDocument)

/-- A table of an outcome as it is written, with entries of type `ε`. -/
structure TableDocument (ε : Type) where
  entries : List ε
  default? : Option String

/-- A declaration as it is written.  What is written for another `kind` of variable has no
effect. -/
structure DeclarationDocument where
  kind : VariableKind
  identifier : String
  cardinality : Cardinality
  baseType : Option BaseType
  default : Option ValueDocument
  correct : Option ValueDocument
  mapping : Option (ScoreTable (MapEntry String))
  areaMapping : Option AreaMapping
  constraints : Option ResponseConstraints
  normalMinimum : Option Float
  normalMaximum : Option Float
  mastery : Option Float
  matchTable : Option (TableDocument (MatchEntry String))
  interpolationTable : Option (TableDocument (InterpolationEntry String))
  isParameter : Bool
  isMath : Bool

/-- An item as it is written.  The rules are JSON values, which `readRules` reads. -/
structure ItemDocument where
  identifier : String
  title : Option String
  adaptive : Bool
  declarations : List DeclarationDocument
  templateProcessing : List Json
  responseProcessing : List Json

end AssessmentItem
