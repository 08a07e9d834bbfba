import AssessmentItem.Session.Permissions
import AssessmentItem.Text.HexDigit

/-!
# Settings files

A settings file has a line `name = value` for each setting that differs from its default, blank
lines, and comments from a number sign to the end of the line.  A name may be quoted; a value is a
truth value or an integer in decimal, hexadecimal, octal or binary digits.

## Main definitions

* `SettingsFile.fields?` : the settings of a file by name.
* `DeliverySettings.ofFile?` : the delivery settings of a file.
-/

namespace AssessmentItem

namespace SettingsFile

/-- The text after its spaces and tabs. -/
def skipBlanks (cs : List Char) : List Char := cs.dropWhile fun c ↦ c == ' ' || c == '\t'

/-- Whether `c` may stand in a comment or a quoted name. -/
def isPlain (c : Char) : Bool := c == '\t' || (0x20 ≤ c.toNat && c.toNat != 0x7F)

/-- Whether a text is blank but for a comment, which begins with `#`. -/
def isRemainder (cs : List Char) : Bool :=
  match skipBlanks cs with
  | [] => true
  | '#' :: comment => comment.all isPlain
  | _ => false

/-! ### Lines -/

/-- The lines of a text, the first of which begins with `line` reversed.  A line ends with a line
feed, which a carriage return may precede. -/
def lines (line : List Char) : List Char → List (List Char)
  | [] => [line.reverse]
  | '\r' :: '\n' :: rest => line.reverse :: lines [] rest
  | '\n' :: rest => line.reverse :: lines [] rest
  | c :: rest => lines (c :: line) rest

/-! ### Names -/

/-- Whether `c` may stand in a name without quotation marks. -/
def isNameChar (c : Char) : Bool := c.isAlphanum || c == '-' || c == '_'

/-- The character with the code point `n`, unless that is a surrogate or out of range. -/
def scalar? (n : Nat) : Option Char :=
  if n < 0xD800 ∨ (0xE000 ≤ n ∧ n < 0x110000) then some (Char.ofNat n) else none

/-- The character of an escape after its backslash, and the text after it. -/
def escape? : List Char → Option (Char × List Char)
  | 'b' :: cs => some ('\x08', cs)
  | 't' :: cs => some ('\t', cs)
  | 'n' :: cs => some ('\n', cs)
  | 'f' :: cs => some ('\x0C', cs)
  | 'r' :: cs => some ('\r', cs)
  | '"' :: cs => some ('"', cs)
  | '\\' :: cs => some ('\\', cs)
  | 'u' :: a :: b :: c :: d :: cs => do
    some (← scalar? (← Text.hexValue? [a, b, c, d]), cs)
  | 'U' :: a :: b :: c :: d :: e :: f :: g :: h :: cs => do
    some (← scalar? (← Text.hexValue? [a, b, c, d, e, f, g, h]), cs)
  | _ => none

/-- The characters of a quoted name up to the closing quotation mark, and the text after it.
`fuel` bounds the characters. -/
def quotedName? : Nat → List Char → Option (List Char × List Char)
  | 0, _ => none
  | _ + 1, [] => none
  | _ + 1, '"' :: cs => some ([], cs)
  | fuel + 1, '\\' :: cs => do
    let (c, cs) ← escape? cs
    let (name, rest) ← quotedName? fuel cs
    some (c :: name, rest)
  | fuel + 1, c :: cs => do
    if !isPlain c then none
    let (name, rest) ← quotedName? fuel cs
    some (c :: name, rest)

/-- The name at the front of a text, plain or quoted, and the text after it. -/
def name? : List Char → Option (List Char × List Char)
  | '"' :: cs => quotedName? (cs.length + 1) cs
  | '\'' :: cs =>
    let name := cs.takeWhile fun c ↦ c != '\''
    match cs.drop name.length with
    | [] => none
    | _ :: rest => if name.all isPlain then some (name, rest) else none
  | cs =>
    let name := cs.takeWhile isNameChar
    if name.isEmpty then none else some (name, cs.drop name.length)

/-! ### Values -/

/-- The digits of a number without the underscores between them; none may stand elsewhere.  A digit
is what `isDigit` accepts. -/
def digits? (isDigit : Char → Bool) : List Char → Option (List Char)
  | [] => none
  | [c] => if isDigit c then some [c] else none
  | c :: '_' :: cs => if isDigit c then (digits? isDigit cs).map (c :: ·) else none
  | c :: cs => if isDigit c then (digits? isDigit cs).map (c :: ·) else none

/-- The number that the digits `cs` write in `base`. -/
def numberIn? (base : Nat) (cs : List Char) : Option Nat := do
  let isDigit (c : Char) : Bool := (Text.hexDigit? c).any fun d ↦ d < base
  let digits ← digits? isDigit cs
  some ((digits.filterMap Text.hexDigit?).foldl (fun n d ↦ base * n + d) 0)

/-- The number of decimal digits; if there are several, the first is not `0`. -/
def decimal? : List Char → Option Nat
  | '0' :: _ :: _ => none
  | cs => numberIn? 10 cs

/-- A value: `true`, `false`, or an `Int64`. -/
def value? (cs : List Char) : Option Json := do
  let integer (n : Int) : Option Json := (Integer.fit? n).map Json.ofInteger
  match cs with
  | ['t', 'r', 'u', 'e'] => some (.bool true)
  | ['f', 'a', 'l', 's', 'e'] => some (.bool false)
  | '0' :: 'x' :: cs => integer (← numberIn? 16 cs)
  | '0' :: 'o' :: cs => integer (← numberIn? 8 cs)
  | '0' :: 'b' :: cs => integer (← numberIn? 2 cs)
  | '+' :: cs => integer (← decimal? cs)
  | '-' :: cs => integer (-(← decimal? cs))
  | cs => integer (← decimal? cs)

/-! ### Files -/

/-- The setting of a line, `none` within if the line has none; a line that is neither fails. -/
def field? (line : List Char) : Option (Option (String × Json)) := do
  if isRemainder line then some none
  else
    let (name, rest) ← name? (skipBlanks line)
    match skipBlanks rest with
    | '=' :: rest => do
      let rest := skipBlanks rest
      let word := rest.takeWhile fun c ↦ c != ' ' && c != '\t' && c != '#'
      let value ← value? word
      if isRemainder (rest.drop word.length) then some (some (String.ofList name, value))
      else none
    | _ => none

/-- The settings of a file by name, which may occur once.  A byte order mark at the beginning does
not count. -/
def fields? (text : String) : Option (List (String × Json)) := do
  let cs := text.toList
  let cs := if cs.head? = some '\uFEFF' then cs.drop 1 else cs
  let fields ← (lines [] cs).mapM field?
  some (fields.filterMap id)

end SettingsFile

/-- The delivery settings of a file, by `SettingsFile.fields?` and `DeliverySettings.ofJson?`. -/
def DeliverySettings.ofFile? (text : String) : Option DeliverySettings := do
  ofJson? (.object (← SettingsFile.fields? text))

end AssessmentItem
