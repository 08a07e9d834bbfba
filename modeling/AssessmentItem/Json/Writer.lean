import AssessmentItem.Json.Basic
import AssessmentItem.Binary64.Text

/-!
# Writing JSON

Values are written compactly, or with one field or item on a line and two blanks for each level.
Strings escape the quotation mark, the backslash and the control characters below the space.

## Main definitions

* `Json.write` : the compact text.
* `Json.writeIndented` : the text with one field or item on a line.
-/

namespace AssessmentItem.Json

/-- The escape of a character in a string; most characters stand for themselves. -/
def escapeChar (c : Char) : List Char :=
  match c with
  | '"' => ['\\', '"']
  | '\\' => ['\\', '\\']
  | '\x08' => ['\\', 'b']
  | '\x09' => ['\\', 't']
  | '\x0A' => ['\\', 'n']
  | '\x0C' => ['\\', 'f']
  | '\x0D' => ['\\', 'r']
  | c =>
    if c.toNat < 0x20 then
      ['\\', 'u', '0', '0', Nat.digitChar (c.toNat / 16), Nat.digitChar (c.toNat % 16)]
    else [c]

/-- A string between quotation marks, each character by `escapeChar`. -/
def quoted (s : String) : String := String.ofList ('"' :: s.toList.flatMap escapeChar ++ ['"'])

/-- The `texts` with commas between them. -/
def commaSeparated (texts : List String) : String := String.intercalate "," texts

mutual

/-- The compact text of a value, with floats as `Binary64.jsonText` writes them. -/
def write : Json → String
  | null => "null"
  | bool b => if b then "true" else "false"
  | natural n => toString n.toNat
  | negative n => toString n.toInt
  | float x => Binary64.jsonText x
  | string s => quoted s
  | array items => "[" ++ commaSeparated (writeItems items) ++ "]"
  | object fields => "\x7b" ++ commaSeparated (writeFields fields) ++ "\x7d"

/-- The compact texts of the items of an array, each by `write`. -/
def writeItems : List Json → List String
  | [] => []
  | v :: vs => write v :: writeItems vs

/-- The compact texts of the fields of an object, each by `quoted` and `write`. -/
def writeFields : List (String × Json) → List String
  | [] => []
  | (name, v) :: fields => (quoted name ++ ":" ++ write v) :: writeFields fields

end

/-- The blanks at the beginning of a line, two for every level. -/
def indentation (level : Nat) : String := String.ofList (List.replicate (2 * level) ' ')

/-- The `texts` on lines of their own, one level further in than the brackets `first` and `last`. -/
def block (first last : String) (level : Nat) (texts : List String) : String :=
  if texts.isEmpty then first ++ last
  else
    let lines := texts.map fun text ↦ "\n" ++ indentation (level + 1) ++ text
    first ++ commaSeparated lines ++ "\n" ++ indentation level ++ last

mutual

/-- The text of a value with one field or item on a line, whose brackets stand at `level`. -/
def writeAt (level : Nat) : Json → String
  | array items => block "[" "]" level (writeItemsAt (level + 1) items)
  | object fields => block "\x7b" "\x7d" level (writeFieldsAt (level + 1) fields)
  | v => write v

/-- The texts of the items of an array at `level`, each by `writeAt`. -/
def writeItemsAt (level : Nat) : List Json → List String
  | [] => []
  | v :: vs => writeAt level v :: writeItemsAt level vs

/-- The texts of the fields of an object at `level`, each by `quoted` and `writeAt`. -/
def writeFieldsAt (level : Nat) : List (String × Json) → List String
  | [] => []
  | (name, v) :: fields => (quoted name ++ ": " ++ writeAt level v) :: writeFieldsAt level fields

end

/-- The text of a value with one field or item on a line, from level `0` on. -/
def writeIndented (v : Json) : String := writeAt 0 v

end AssessmentItem.Json
