import AssessmentItem.Value.Basic
import AssessmentItem.Binary64.Literal
import AssessmentItem.Text.Blank

/-!
# Literals

The texts of a document and of a candidate are read as values of a declared type.  Blanks around
a text do not count, except in strings.

## Main definitions

* `LiteralFault`, `LiteralError` : what is wrong with a text.
* `Scalar.read` : the scalar of a text.
* `Value.read` : the value of the texts of its members.
-/

namespace AssessmentItem

/-- What can be wrong with a text that `Scalar.read` or `Value.read` is given. -/
inductive LiteralFault
  | unknownBaseType
  | unknownCardinality
  | emptyIdentifier
  | blankInIdentifier
  | notBoolean
  | integer (fault : Integer.Fault)
  /-- The text has characters that no number has, or none at all. -/
  | notNumber
  | malformedFloat
  /-- Two words are needed. -/
  | wordCount (found : Nat)
  | badDuration
  | emptyUri
  /-- Files are not given by a text. -/
  | fileText
  /-- A single value has several texts. -/
  | severalTexts (found : Nat)
  /-- Records are not given by texts. -/
  | recordText
  | container (fault : ContainerFault)
  deriving DecidableEq

/-- The wording of a `LiteralFault`. -/
def LiteralFault.message : LiteralFault → String
  | unknownBaseType => "unknown base type"
  | unknownCardinality => "unknown cardinality"
  | emptyIdentifier => "identifier must not be empty"
  | blankInIdentifier => "identifier must not contain whitespace"
  | notBoolean => "expected true, false, 1 or 0"
  | integer fault => fault.message
  | notNumber => "not a number"
  | malformedFloat => "invalid float literal"
  | wordCount found => "expected 2 space-separated parts, found " ++ toString found
  | badDuration => "duration must be a finite, non-negative number of seconds"
  | emptyUri => "uri must not be empty"
  | fileText => "file values are supplied as uploaded file data, not text"
  | severalTexts found => "single cardinality accepts one value, got " ++ toString found
  | recordText => "record values cannot be parsed from plain text"
  | container fault => fault.message

/-- A `text` that cannot be read as the `target`, and why. -/
structure LiteralError where
  /-- What the text was read as, such as `integer` or `cardinality`. -/
  target : String
  text : String
  fault : LiteralFault
  deriving DecidableEq

/-- The wording of a `LiteralError`, with its text, its target and its fault. -/
def LiteralError.message (e : LiteralError) : String :=
  "cannot parse '" ++ e.text ++ "' as " ++ e.target ++ ": " ++ e.fault.message

/-- The base type of a name, as `BaseType.ofName?` finds it. -/
def BaseType.read (name : String) : Except LiteralError BaseType :=
  match ofName? name with
  | some t => .ok t
  | none => .error ⟨"baseType", name, .unknownBaseType⟩

/-- The cardinality of a name, as `Cardinality.ofName?` finds it. -/
def Cardinality.read (name : String) : Except LiteralError Cardinality :=
  match ofName? name with
  | some c => .ok c
  | none => .error ⟨"cardinality", name, .unknownCardinality⟩

namespace Scalar

/-! ### Parts of literals -/

/-- An identifier: at least one character and no blank among them. -/
def readIdentifier (cs : List Char) : Except LiteralFault String :=
  if cs.isEmpty then .error .emptyIdentifier
  else if cs.any Text.isBlank then .error .blankInIdentifier
  else .ok (String.ofList cs)

/-- An integer, as `Integer.read` reads it. -/
def readInteger (cs : List Char) : Except LiteralFault Int64 :=
  match Integer.read cs with
  | .ok n => .ok n
  | .error fault => .error (.integer fault)

/-- Whether a character occurs in decimal literals of floats. -/
def isFloatChar (c : Char) : Bool :=
  c.isDigit || c == '+' || c == '-' || c == '.' || c == 'e' || c == 'E'

/-- A float: a decimal literal, or one of `INF`, `-INF` and `NaN`. -/
def readFloat (cs : List Char) : Except LiteralFault Float :=
  match cs with
  | ['I', 'N', 'F'] => .ok (1 / 0)
  | ['-', 'I', 'N', 'F'] => .ok (-(1 / 0))
  | ['N', 'a', 'N'] => .ok (0 / 0)
  | _ =>
    if cs.isEmpty || !cs.all isFloatChar then .error .notNumber
    else
      match Binary64.read? cs with
      | some x => .ok x
      | none => .error .malformedFloat

/-- Exactly two words, as `Text.words` separates them. -/
def readTwo (cs : List Char) : Except LiteralFault (List Char × List Char) :=
  match Text.words cs with
  | [a, b] => .ok (a, b)
  | ws => .error (.wordCount ws.length)

/-! ### Scalars -/

/-- The scalar of type `baseType` that `text` writes.  The text that an error names is the part that
was at fault: the whole text for booleans, durations, URIs and files, and the text without the
blanks around it, or one of its words, for the others. -/
def read (text : String) (baseType : BaseType) : Except LiteralError Scalar :=
  let cs := Text.trim text.toList
  let at' {α : Type} (part : List Char) (r : Except LiteralFault α) : Except LiteralError α :=
    r.mapError fun fault ↦ ⟨baseType.name, String.ofList part, fault⟩
  let fail (fault : LiteralFault) : Except LiteralError Scalar :=
    .error ⟨baseType.name, text, fault⟩
  match baseType with
  | .string => .ok (string text)
  | .identifier => do return identifier (← at' cs (readIdentifier cs))
  | .boolean =>
    if cs = ['t', 'r', 'u', 'e'] ∨ cs = ['1'] then .ok (boolean true)
    else if cs = ['f', 'a', 'l', 's', 'e'] ∨ cs = ['0'] then .ok (boolean false)
    else fail .notBoolean
  | .integer => do return integer (← at' cs (readInteger cs))
  | .float => do return float (← at' cs (readFloat cs))
  | .point => do
    let (a, b) ← at' cs (readTwo cs)
    return point (← at' a (readInteger a)) (← at' b (readInteger b))
  | .pair => do
    let (a, b) ← at' cs (readTwo cs)
    return pair (← at' a (readIdentifier a)) (← at' b (readIdentifier b))
  | .directedPair => do
    let (a, b) ← at' cs (readTwo cs)
    return directedPair (← at' a (readIdentifier a)) (← at' b (readIdentifier b))
  | .duration => do
    let seconds ← at' cs (readFloat cs)
    if !seconds.isFinite || seconds < 0 then fail .badDuration
    else return duration seconds
  | .uri => if cs.isEmpty then fail .emptyUri else .ok (uri (String.ofList cs))
  | .file => fail .fileText

end Scalar

/-- The value of the texts of its members; no texts give `null`.  For `single` there has to be one
text, and no texts write a `record`. -/
def Value.read (texts : List String) (cardinality : Cardinality) (baseType : BaseType) :
    Except LiteralError Value :=
  let joined := String.intercalate " " texts
  match texts, cardinality with
  | [], _ => .ok .null
  | [text], .single => do return .single (← Scalar.read text baseType)
  | _, .single => .error ⟨baseType.name, joined, .severalTexts texts.length⟩
  | _, .record => .error ⟨"record", joined, .recordText⟩
  | _, _ => do
    let members ← texts.mapM fun text ↦ Scalar.read text baseType
    (Value.container cardinality baseType members).mapError fun fault ↦
      ⟨baseType.name, joined, .container fault⟩

end AssessmentItem
