import AssessmentItem.Item.Basic
import AssessmentItem.Value.Literal

/-!
# Errors of item documents

An error names the place in the document by a path such as
`responseProcessing[0]/responseCondition/branches[0]/guard/match`.

## Main definitions

* `FieldFault` : what can be wrong with a field.
* `DocumentError` : what can be wrong with a document, with its wording.
-/

namespace AssessmentItem

/-- What can be wrong with a field of a document. -/
inductive FieldFault
  | notString
  | notArray
  /-- The value has not the form of the field.  The reason is not told. -/
  | malformed
  | baseTypeOfRecord
  /-- Fields are given for a variable that is no record. -/
  | recordFor (cardinality : Cardinality)
  /-- Texts are given for a variable of cardinality `record`. -/
  | textForRecord
  | mappingOfRecord
  | tableOfRecord
  | twoTables
  deriving DecidableEq

/-- The wording of a fault; there is none for `malformed`. -/
def FieldFault.message? : FieldFault → Option String
  | notString => some "expected a string"
  | notArray => some "expected an array"
  | malformed => none
  | baseTypeOfRecord => some "record variables have no base type"
  | recordFor cardinality =>
    some ("record value given for a " ++ cardinality.name ++ " variable")
  | textForRecord => some "record values are objects of typed fields"
  | mappingOfRecord => some "record variables cannot be mapped"
  | tableOfRecord => some "record outcomes have no lookup table"
  | twoTables => some "an outcome has at most one lookup table"

/-- What can be wrong with a document.  The `context` or `path` says where. -/
inductive DocumentError
  /-- The document is not JSON, or has not the form of a document. -/
  | malformed
  | missingField (context field : String)
  | invalidField (context field : String) (fault : FieldFault)
  | invalidValue (context field : String) (error : LiteralError)
  | unknownOperator (path name : String)
  | unknownRule (path name : String)
  | definition (error : DefinitionError)
  deriving DecidableEq

/-- The wording of an error, with the place in front; after `malformed` no reason is told. -/
def DocumentError.message : DocumentError → String
  | malformed => "malformed item document:"
  | missingField context field => context ++ ": missing required field '" ++ field ++ "'"
  | invalidField context field fault =>
    let start := context ++ ": invalid '" ++ field ++ "'"
    match fault.message? with
    | some message => start ++ ": " ++ message
    | none => start
  | invalidValue context field error =>
    context ++ ": invalid '" ++ field ++ "': " ++ error.message
  | unknownOperator path name => path ++ ": unknown expression operator '" ++ name ++ "'"
  | unknownRule path name => path ++ ": unknown rule '" ++ name ++ "'"
  | definition error => error.message

end AssessmentItem
