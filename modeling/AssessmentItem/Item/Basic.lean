import AssessmentItem.Rule

/-!
# Items

An item declares its variables and has two lists of rules, one for each phase.  Three variables
are declared by every item: the time a candidate has spent, the number of attempts and how far
the item is completed.  A document may declare them again, with the same type only.

## Main definitions

* `builtIns` : the declarations that every item has.
* `DefinitionError` : what can be wrong with the declarations and the references of an item.
* `declareAll` : the declarations of an item.
* `Item` : items.
-/

namespace AssessmentItem

/-- The variables that every item declares. -/
inductive BuiltIn
  | duration
  | numAttempts
  | completionStatus
  deriving DecidableEq

/-- The identifier of a built-in variable, such as `numAttempts`. -/
def BuiltIn.identifier : BuiltIn → String
  | duration => "duration"
  | numAttempts => "numAttempts"
  | completionStatus => "completionStatus"

/-- How far an item is completed, as `completionStatus` tells. -/
inductive CompletionStatus
  | notAttempted
  | unknown
  | completed
  deriving DecidableEq

/-- The identifier of a status, such as `not_attempted`. -/
def CompletionStatus.identifier : CompletionStatus → String
  | notAttempted => "not_attempted"
  | unknown => "unknown"
  | completed => "completed"

/-- The value of `completionStatus` for a status, a single identifier. -/
def CompletionStatus.value (s : CompletionStatus) : Value := .identifier s.identifier

/-- The details of a response without a correct value, without tables, and with `unlimited`
constraints. -/
def ResponseDetails.plain : ResponseDetails := ⟨.null, none, none, .unlimited⟩

/-- The details of an outcome without a range, a mastery value and a table. -/
def OutcomeDetails.plain : OutcomeDetails := ⟨none, none, none, none⟩

/-- The declaration of a built-in variable: `duration` and `numAttempts` are responses that start at
zero, `completionStatus` is an outcome. -/
def BuiltIn.declaration : BuiltIn → VariableDeclaration
  | duration => ⟨"duration", .single, some .float, .float 0, .response .plain⟩
  | numAttempts => ⟨"numAttempts", .single, some .integer, .integer 0, .response .plain⟩
  | completionStatus =>
    ⟨"completionStatus", .single, some .identifier, CompletionStatus.notAttempted.value,
      .outcome .plain⟩

/-- The declarations that every item has, in the order of the constructors of `BuiltIn`. -/
def builtIns : List VariableDeclaration :=
  [BuiltIn.duration, .numAttempts, .completionStatus].map BuiltIn.declaration

/-- What is wrong with the form of a rule or an expression, apart from the variables it names. -/
inductive FormFault
  | missingRule (id : NodeId)
  | missingExpression (id : NodeId)
  | noBranch
  /-- A record has another number of `names` than of `children`. -/
  | fieldCount (names children : Nat)
  deriving DecidableEq

/-- The wording of a `FormFault`. -/
def FormFault.message : FormFault → String
  | missingRule id => "rule " ++ id.text ++ " does not exist"
  | missingExpression id => "expression " ++ id.text ++ " does not exist"
  | noBranch => "condition has no if branch"
  | fieldCount names children =>
    "recordEx names " ++ toString names ++ " fields but has " ++ toString children ++ " children"

/-- What can be wrong with the declarations (`duplicate`, `reserved`) and the references of an
item. -/
inductive DefinitionError
  | duplicate (identifier : String)
  /-- A built-in variable is declared with another kind or type than its own. -/
  | reserved (identifier : String) (kind : VariableKind)
  | unresolved (context identifier : String)
  | wrongKind (context identifier : String) (expected : List VariableKind) (found : VariableKind)
  | malformed (context : String) (fault : FormFault)
  deriving DecidableEq

/-- The wording of an error.  The `context` names the rule or the operator. -/
def DefinitionError.message : DefinitionError → String
  | duplicate identifier => "variable '" ++ identifier ++ "' is declared more than once"
  | reserved identifier kind =>
    "variable '" ++ identifier ++ "' is reserved for the built-in " ++ kind.name ++ " variable"
  | unresolved context identifier =>
    context ++ ": reference to undeclared variable '" ++ identifier ++ "'"
  | wrongKind context identifier expected found =>
    context ++ ": variable '" ++ identifier ++ "' is a " ++ found.name ++ " variable, expected " ++
      String.intercalate " or " (expected.map VariableKind.name)
  | malformed context fault => context ++ ": " ++ fault.message

/-! ### Declarations of an item -/

/-- The first declaration of `identifier` in a list. -/
def findDeclaration? (declarations : List VariableDeclaration) (identifier : String) :
    Option VariableDeclaration :=
  declarations.find? fun d ↦ d.identifier == identifier

/-- Whether two declarations have the same `kind`, `cardinality` and `baseType`. -/
def VariableDeclaration.sameType (d e : VariableDeclaration) : Bool :=
  d.kind == e.kind && d.cardinality == e.cardinality && d.baseType == e.baseType

/-- Adds the declaration `d`.  One of a built-in variable takes the place of what is there, if it
has its type; any other identifier has to be new. -/
def declare (declarations : List VariableDeclaration) (d : VariableDeclaration) :
    Except DefinitionError (List VariableDeclaration) :=
  match findDeclaration? builtIns d.identifier with
  | some builtIn =>
    if builtIn.sameType d then
      .ok (declarations.map fun e ↦ if e.identifier = d.identifier then d else e)
    else .error (.reserved d.identifier builtIn.kind)
  | none =>
    if (findDeclaration? declarations d.identifier).isSome then .error (.duplicate d.identifier)
    else .ok (declarations ++ [d])

/-- The declarations of an item: the `builtIns`, then the given ones in their order, each by
`declare`. -/
def declareAll (declarations : List VariableDeclaration) :
    Except DefinitionError (List VariableDeclaration) :=
  declarations.foldlM declare builtIns

/-! ### Items -/

/-- An item: its declarations, and the rules of both phases in one `Layout`. -/
structure Item where
  identifier : String
  /-- The title, empty if there is none. -/
  title : String
  /-- Whether outcomes are kept from attempt to attempt, and the item ends when it is completed. -/
  adaptive : Bool
  declarations : List VariableDeclaration
  layout : Layout
  templateRules : List NodeId
  responseRules : List NodeId

namespace Item

/-- The declaration of `identifier` in the item. -/
def declaration? (item : Item) (identifier : String) : Option VariableDeclaration :=
  findDeclaration? item.declarations identifier

/-- The declarations of the given `kind`, in their order. -/
def declarationsOf (item : Item) (kind : VariableKind) : List VariableDeclaration :=
  item.declarations.filter fun d ↦ d.kind = kind

/-- The ids of the rules of a phase, in their order. -/
def roots (item : Item) : Phase → List NodeId
  | .template => item.templateRules
  | .response => item.responseRules

/-- The rules of a phase, unfolded by `Layout.ruleTree`. -/
def ruleTrees (item : Item) (phase : Phase) : List RuleTree :=
  (item.roots phase).map item.layout.ruleTree

/-- The path of the expression `id`, by `Arena.path`. -/
def path (item : Item) (id : NodeId) : String := item.layout.expressions.path id

end Item

end AssessmentItem
