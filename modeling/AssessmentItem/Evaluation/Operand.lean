import AssessmentItem.Evaluation.Fault

/-!
# Operands

The operands of an operator are read as what its signature promises.  Literal operands that name
a template variable are read from the store.

## Main definitions

* `Number` : an integer or a floating-point number.
* `readNumber`, `readBoolean`, `readText` and so on : an operand as what it should be.
* `literalInteger`, `literalNumber` : a literal operand.
-/

namespace AssessmentItem.Evaluation

/-- A number as operators see it: an `integer` or a `float`. -/
inductive Number
  | integer (n : Int64)
  | float (x : Float)

namespace Number

/-- The floating-point number, the nearest one to an `integer`. -/
def toFloat : Number → Float
  | integer n => Binary64.ofInteger n
  | float x => x

/-- The integer, if the number is one. -/
def integer? : Number → Option Int64
  | integer n => some n
  | float _ => none

end Number

/-- The number of a scalar of type `integer` or `float`. -/
def numberOf? : Scalar → Option Number
  | .integer n => some (.integer n)
  | .float x => some (.float x)
  | _ => none

/-- What was found, or the fault `unreadable`. -/
def orUnreadable {α : Type} : Option α → Except Fault α
  | some a => .ok a
  | none => .error .unreadable

/-- The number of a `single` value. -/
def readNumber (v : Value) : Except Fault Number :=
  orUnreadable (v.single?.bind numberOf?)

/-- The floating-point number of what `readNumber` reads. -/
def readFloat (v : Value) : Except Fault Float := return (← readNumber v).toFloat

/-- The integer of a `single` value. -/
def readInteger (v : Value) : Except Fault Int64 :=
  orUnreadable (v.single?.bind Scalar.integer?)

/-- The truth value of a `single` value. -/
def readBoolean (v : Value) : Except Fault Bool := orUnreadable v.boolean?

/-- The truth value of a `single` value, `none` for NULL. -/
def readTruth (v : Value) : Except Fault (Option Bool) :=
  if v.isNull then .ok none else some <$> readBoolean v

/-- The characters of a `single` value with a text. -/
def readText (v : Value) : Except Fault (List Char) := return (← orUnreadable v.text?).toList

/-- The seconds of a single `duration`. -/
def readSeconds (v : Value) : Except Fault Float :=
  match v with
  | .single (.duration seconds) => .ok seconds
  | _ => .error .unreadable

/-- The members of a value that is neither `null` nor a `record`. -/
def readMembers (v : Value) : Except Fault (List Scalar) :=
  match v with
  | .single s => .ok [s]
  | .multiple c | .ordered c => .ok c.members
  | .null | .record _ => .error .unreadable

/-- The members of the values `vs`, one value after the other. -/
def readAllMembers (vs : List Value) : Except Fault (List Scalar) :=
  return (← vs.mapM readMembers).flatten

/-! ### Literal operands -/

/-- A literal integer.  The variable of a `named` one has to hold a single integer. -/
def literalInteger (store : Store) : Literal Int64 → Except Fault Int64
  | .given n => .ok n
  | .named identifier =>
    match store.value? identifier with
    | none => .error (.unknownVariable identifier)
    | some v =>
      match v.single?.bind Scalar.integer? with
      | some n => .ok n
      | none => .error (.notInteger identifier v)

/-- A literal number.  The variable of a `named` one has to hold a single number. -/
def literalNumber (store : Store) : Literal Float → Except Fault Float
  | .given x => .ok x
  | .named identifier =>
    match store.value? identifier with
    | none => .error (.unknownVariable identifier)
    | some v =>
      match v.single?.bind Scalar.number? with
      | some x => .ok x
      | none => .error (.notNumber identifier v)

end AssessmentItem.Evaluation
