import AssessmentItem.Json.Number
import AssessmentItem.Text.HexDigit

/-!
# Reading JSON

A text is read as one value with blanks around it.  Strings hold no bare control characters and
their escapes no half of a surrogate pair, and arrays and objects are nested at most 127 deep.

## Main definitions

* `Json.readRaw?` : the value of a text, whose objects list all fields as written.
* `Json.read?` : the value of a text, settled.
-/

namespace AssessmentItem.Json

/-- How deeply arrays and objects may be nested in a text. -/
def maxNesting : Nat := 127

/-- The text after its blanks: spaces, tabs, line feeds and carriage returns. -/
def skipBlanks (cs : List Char) : List Char :=
  cs.dropWhile fun c ↦ c == ' ' || c == '\t' || c == '\n' || c == '\r'

/-- The number that four hexadecimal digits write, and the text after them. -/
def hexWord? : List Char → Option (Nat × List Char)
  | a :: b :: c :: d :: rest => do
    some (← Text.hexValue? [a, b, c, d], rest)
  | _ => none

/-- The character of an escape of one letter, such as `n` for a line feed. -/
def simpleEscape? : Char → Option Char
  | '"' => some '"'
  | '\\' => some '\\'
  | '/' => some '/'
  | 'b' => some '\x08'
  | 'f' => some '\x0C'
  | 'n' => some '\n'
  | 'r' => some '\r'
  | 't' => some '\t'
  | _ => none

/-- The character of an escape in hexadecimal digits: one `hexWord?`, or a surrogate pair of two. -/
def hexEscape? (cs : List Char) : Option (Char × List Char) := do
  let (high, rest) ← hexWord? cs
  if 0xD800 ≤ high ∧ high < 0xDC00 then
    match rest with
    | '\\' :: 'u' :: rest => do
      let (low, rest) ← hexWord? rest
      if 0xDC00 ≤ low ∧ low < 0xE000 then
        some (Char.ofNat (0x10000 + (high - 0xD800) * 0x400 + (low - 0xDC00)), rest)
      else none
    | _ => none
  else if 0xDC00 ≤ high ∧ high < 0xE000 then none
  else some (Char.ofNat high, rest)

/-- The characters of a string up to its closing quotation mark, and the text after it.  `fuel`
bounds the characters. -/
def stringBody? : Nat → List Char → Option (List Char × List Char)
  | 0, _ => none
  | _ + 1, [] => none
  | fuel + 1, c :: cs =>
    if c = '"' then some ([], cs)
    else if c = '\\' then
      match cs with
      | 'u' :: cs => do
        let (c, cs) ← hexEscape? cs
        let (chars, rest) ← stringBody? fuel cs
        some (c :: chars, rest)
      | e :: cs => do
        let c ← simpleEscape? e
        let (chars, rest) ← stringBody? fuel cs
        some (c :: chars, rest)
      | [] => none
    else if c.toNat < 0x20 then none
    else do
      let (chars, rest) ← stringBody? fuel cs
      some (c :: chars, rest)

/-- The string after an opening quotation mark, and the text after it. -/
def string? (cs : List Char) : Option (String × List Char) := do
  let (chars, rest) ← stringBody? (cs.length + 1) cs
  some (String.ofList chars, rest)

/-- The value `v`, if the text begins with the word `text`. -/
def word? (text : List Char) (v : Json) (cs : List Char) : Option (Json × List Char) :=
  if text.isPrefixOf cs then some (v, cs.drop text.length) else none

mutual

/-- The value at the front of a text.  `fuel` bounds the steps, `depth` says how many more levels
are allowed. -/
def value? : Nat → Nat → List Char → Option (Json × List Char)
  | 0, _, _ => none
  | fuel + 1, depth, cs =>
    match skipBlanks cs with
    | '"' :: cs => do
      let (s, rest) ← string? cs
      some (string s, rest)
    | '[' :: cs =>
      match depth, skipBlanks cs with
      | 0, _ => none
      | _, ']' :: rest => some (array [], rest)
      | depth + 1, cs => do
        let (items, rest) ← items? fuel depth cs
        some (array items, rest)
    | '\x7b' :: cs =>
      match depth, skipBlanks cs with
      | 0, _ => none
      | _, '\x7d' :: rest => some (object [], rest)
      | depth + 1, cs => do
        let (fields, rest) ← fields? fuel depth cs
        some (object fields, rest)
    | 'n' :: cs => word? ['u', 'l', 'l'] null cs
    | 't' :: cs => word? ['r', 'u', 'e'] (bool true) cs
    | 'f' :: cs => word? ['a', 'l', 's', 'e'] (bool false) cs
    | cs => number? cs

/-- The items of an array, at least one, and its closing bracket; fuel and depth as in `value?`. -/
def items? : Nat → Nat → List Char → Option (List Json × List Char)
  | 0, _, _ => none
  | fuel + 1, depth, cs => do
    let (v, rest) ← value? fuel depth cs
    match skipBlanks rest with
    | ',' :: rest => do
      let (vs, rest) ← items? fuel depth rest
      some (v :: vs, rest)
    | ']' :: rest => some ([v], rest)
    | _ => none

/-- The fields of an object, at least one, and its closing brace; fuel and depth as in `value?`. -/
def fields? : Nat → Nat → List Char → Option (List (String × Json) × List Char)
  | 0, _, _ => none
  | fuel + 1, depth, cs =>
    match skipBlanks cs with
    | '"' :: cs => do
      let (name, rest) ← string? cs
      match skipBlanks rest with
      | ':' :: rest => do
        let (v, rest) ← value? fuel depth rest
        match skipBlanks rest with
        | ',' :: rest => do
          let (fields, rest) ← fields? fuel depth rest
          some ((name, v) :: fields, rest)
        | '\x7d' :: rest => some ([(name, v)], rest)
        | _ => none
      | _ => none
    | _ => none

end

/-- The value of a text nested at most `depth` times; objects list all fields as they are
written. -/
def readNested? (depth : Nat) (text : String) : Option Json := do
  let cs := text.toList
  let (v, rest) ← value? (2 * cs.length + 2) depth cs
  if (skipBlanks rest).isEmpty then some v else none

/-- The value of a text nested at most `maxNesting` times; objects list all fields as they are
written. -/
def readRaw? (text : String) : Option Json := readNested? maxNesting text

/-- The value of a text after `settle`. -/
def read? (text : String) : Option Json := (readRaw? text).map settle

end AssessmentItem.Json
