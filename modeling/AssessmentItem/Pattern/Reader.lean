import AssessmentItem.Pattern.Flags
import AssessmentItem.Text.Blank
import AssessmentItem.Text.HexDigit

/-!
# Reading patterns

Patterns are written with alternatives, groups, classes with set operations, counted and
uncounted repetition, escapes, anchors and inline flags.  References back to a group and
assertions about the text around a match do not exist.  A reader takes characters from the front
of the text and fails on a text that is no pattern.

## Main definitions

* `Pattern.Reader` : readers, which keep the rest of the text and the flags in force.
* `Pattern.escape` : what a backslash begins.
* `Pattern.bracketClass` : a class in brackets.
* `Pattern.body` : alternatives up to a closing parenthesis or the end.
-/

namespace AssessmentItem.Pattern

open Unicode (CharSet Span)

/-- What a reader keeps: the text that is left, the flags in force, and the names of groups. -/
structure ReaderState where
  rest : List Char
  flags : Flags
  /-- The names of the groups that were opened so far; none may be used twice. -/
  names : List (List Char)

/-- Readers of a part of a pattern, which fail on what is no pattern. -/
abbrev Reader := StateT ReaderState Option

/-! ### Characters -/

/-- The text after blanks and comments, which run from `#` to the end of the line. -/
def afterBlanks (inComment : Bool) : List Char → List Char
  | [] => []
  | c :: cs =>
    if inComment then afterBlanks (c != '\n') cs
    else if Text.isBlank c then afterBlanks false cs
    else if c = '#' then afterBlanks true cs
    else c :: cs

/-- The next character, which stays where it is. -/
def peek : Reader (Option Char) := do return (← get).rest.head?

/-- Takes the next character and fails at the end. -/
def take : Reader Char := do
  let state ← get
  match state.rest with
  | [] => failure
  | c :: cs =>
    set { state with rest := cs }
    return c

/-- Passes over blanks and comments where the flag `spaced` is on. -/
def skipBlanks : Reader Unit :=
  modify fun state ↦
    if state.flags.spaced then { state with rest := afterBlanks false state.rest } else state

/-- Takes the next character and passes over the blanks after it, by `skipBlanks`. -/
def takeSpaced : Reader Char := do
  let c ← take
  skipBlanks
  return c

/-- Takes `text` if it comes next, and says whether it did. -/
def takeText? (text : List Char) : Reader Bool := do
  let state ← get
  if text.isPrefixOf state.rest then
    set { state with rest := state.rest.drop text.length }
    return true
  else return false

/-- Takes the character `c` and fails on any other. -/
def expect (c : Char) : Reader Unit := do
  if (← take) != c then failure

/-! ### Numbers -/

/-- Takes characters with the property `holds` for as long as they come, with the blanks after
each. -/
def takeWhileSpaced (holds : Char → Bool) : Nat → Reader (List Char)
  | 0 => return []
  | fuel + 1 => do
    match ← peek with
    | some c =>
      if holds c then
        discard takeSpaced
        return c :: (← takeWhileSpaced holds fuel)
      else return []
    | none => return []

/-- Takes all characters with the property `holds` that come next. -/
def takeAll (holds : Char → Bool) : Reader (List Char) := do
  takeWhileSpaced holds ((← get).rest.length + 1)

/-- A count, with blanks around it: a decimal number below `2 ^ 32`. -/
def count : Reader Nat := do
  discard (takeAll Text.isBlank)
  let digits ← takeAll Char.isDigit
  discard (takeAll Text.isBlank)
  let n := digits.foldl (fun n c ↦ 10 * n + (c.toNat - '0'.toNat)) 0
  if digits.isEmpty || 4294967296 ≤ n then failure
  return n

/-- The character with the code point that the hexadecimal `digits` write; surrogates are no
characters. -/
def ofHex (digits : List Char) : Reader Char := do
  let n ← (Text.hexValue? digits : Option Nat)
  if h : n.isValidChar then return Char.ofNatAux n h else failure

/-- Takes a fixed number of hexadecimal digits, with the blanks after each. -/
def hexDigits : Nat → Reader (List Char)
  | 0 => return []
  | n + 1 => do
    match ← peek with
    | some c =>
      if (Text.hexDigit? c).isNone then failure
      discard takeSpaced
      return c :: (← hexDigits n)
    | none => failure

/-! ### Escapes -/

/-- A piece of a pattern, before `ofPiece` says what it matches under the flags. -/
inductive Piece
  /-- A character; `byte` says that it was written with two hexadecimal digits. -/
  | literal (c : Char) (byte : Bool)
  | set (s : CharSet)
  | assertion (a : Assertion)
  | dot

/-- A code point in hexadecimal digits, after the `letter` that says how many; braces hold any
number of them. -/
def hexEscape (letter : Char) : Reader Piece := do
  match ← peek with
  | some '{' =>
    discard takeSpaced
    let digits ← takeAll (· != '}')
    expect '}'
    skipBlanks
    if digits.isEmpty then failure
    return .literal (← ofHex digits) false
  | _ =>
    let digits ← hexDigits (if letter = 'x' then 2 else if letter = 'u' then 4 else 8)
    return .literal (← ofHex digits) (letter == 'x')

/-- Splits a text at the first place where `mark` stands, which is dropped. -/
def splitAtFirst (mark : List Char) : List Char → Option (List Char × List Char)
  | [] => none
  | c :: cs =>
    if mark.isPrefixOf (c :: cs) then some ([], (c :: cs).drop mark.length)
    else (splitAtFirst mark cs).map fun (before, after) ↦ (c :: before, after)

/-- The set of a named class; the name may be a property and its value, as in `gc=Lu` or
`sc!=Greek`. -/
def namedClass? (name : List Char) : Option CharSet :=
  match splitAtFirst ['!', '='] name with
  | some (property, value) => (CharSet.valued? property value).map .compl
  | none =>
    match splitAtFirst [':'] name <|> splitAtFirst ['='] name with
    | some (property, value) => CharSet.valued? property value
    | none => CharSet.named? name

/-- A class given by the name of a property, after the letter that says whether it is `negated`. -/
def propertyEscape (negated : Bool) : Reader Piece := do
  let flags := (← get).flags
  if !flags.unicode then failure
  let name ←
    match ← takeSpaced with
    | '{' => do
      let name ← takeAll (· != '}')
      expect '}'
      pure name
    | '\\' => failure
    | c => pure [c]
  let s ← namedClass? name
  let s := flags.fold s
  return .set (if negated then .compl s else s)

/-- Whether `c` may stand in the name of a kind of word boundary. -/
def isBoundaryName (c : Char) : Bool := c.isAlpha || c == '-'

/-- What follows the letter of the word boundary: a kind in braces, such as `start`, or nothing. -/
def boundaryKind : Reader Assertion := do
  let state ← get
  let word := state.flags.word
  match state.rest with
  | '{' :: _ =>
    discard takeSpaced
    match ← peek with
    | none => failure
    | some c =>
      if !isBoundaryName c then
        set state
        return .wordBoundary word
      let name ← takeAll isBoundaryName
      expect '}'
      match String.ofList name with
      | "start" => return .wordStart word
      | "end" => return .wordEnd word
      | "start-half" => return .noWordBefore word
      | "end-half" => return .noWordAfter word
      | _ => failure
  | _ => return .wordBoundary word

/-- What a backslash begins: a class, an anchor, a code point, or a character that stands for
itself. -/
def escape : Reader Piece := do
  let flags := (← get).flags
  let c ← take
  if c.isDigit then failure
  else if c = 'x' ∨ c = 'u' ∨ c = 'U' then
    skipBlanks
    hexEscape c
  else if c = 'p' ∨ c = 'P' then
    skipBlanks
    propertyEscape (c == 'P')
  else if let some s := flags.shortClass? c then return .set s
  else if c.toNat < 0x80 && !c.isAlpha && c != '<' && c != '>' then return .literal c false
  else
    match c with
    | 'a' => return .literal '\x07' false
    | 'f' => return .literal '\x0C' false
    | 't' => return .literal '\t' false
    | 'n' => return .literal '\n' false
    | 'r' => return .literal '\r' false
    | 'v' => return .literal '\x0B' false
    | 'A' => return .assertion .textStart
    | 'z' => return .assertion .textEnd
    | 'b' => return .assertion (← boundaryKind)
    | 'B' => return .assertion (.noWordBoundary flags.word)
    | '<' => return .assertion (.wordStart flags.word)
    | '>' => return .assertion (.wordEnd flags.word)
    | _ => failure

/-! ### Classes -/

/-- The operations between two parts of a class: `&&`, `--` and `~~`. -/
inductive SetOperation
  | inter
  | diff
  | symmDiff

/-- Applies the pending operation, if there is one, to what was read after it. -/
def combine (flags : Flags) : Option (SetOperation × CharSet) → CharSet → CharSet
  | none, s => s
  | some (.inter, t), s => .inter (flags.fold t) (flags.fold s)
  | some (.diff, t), s => .diff (flags.fold t) (flags.fold s)
  | some (.symmDiff, t), s => .symmDiff (flags.fold t) (flags.fold s)

/-- A single character or an `escape` within a class. -/
def classPiece : Reader Piece := do
  match ← take with
  | '\\' => escape
  | c => return .literal c false

/-- The character of a piece that can end a range; classes and anchors cannot. -/
def pieceChar (flags : Flags) : Piece → Reader Char
  | .literal c byte =>
    if flags.unicode || c.toNat < 0x80 || byte then return c else failure
  | _ => failure

/-- A character, a range of characters or a short class, as an item of a class. -/
def classItem : Reader CharSet := do
  let flags := (← get).flags
  let first ← classPiece
  skipBlanks
  let rest := (← get).rest
  let after := if flags.spaced then afterBlanks false (rest.drop 1) else rest.drop 1
  if rest.head? != some '-' || after.head? == some ']' || after.head? == some '-' then
    match first with
    | .set s => return s
    | piece => return .one (← pieceChar flags piece).toNat
  else
    discard takeSpaced
    let last ← classPiece
    let first ← pieceChar flags first
    let last ← pieceChar flags last
    if last < first then failure
    return .range first.toNat last.toNat

/-- An ASCII class such as `[:alpha:]`; a text that is none leaves the reader where it was. -/
def asciiClass : Reader (Option CharSet) := do
  let state ← get
  let (negated, text) :=
    match state.rest.drop 2 with
    | '^' :: text => (true, text)
    | text => (false, text)
  let name := text.takeWhile (· != ':')
  match state.rest.take 2, (text.drop name.length).take 2, asciiClass? name with
  | ['[', ':'], [':', ']'], some s =>
    set { state with rest := text.drop (name.length + 2) }
    let s := state.flags.fold s
    return some (if negated then .compl s else s)
  | _, _, _ => return none

mutual

/-- A class in brackets, with how deeply its classes are nested; the fuel bounds the steps. -/
def bracketClass : Nat → Reader (CharSet × Nat)
  | 0 => failure
  | fuel + 1 => do
    expect '['
    skipBlanks
    let negated := (← peek) == some '^'
    if negated then discard takeSpaced
    let hyphens ← takeAll (· == '-')
    let bracket := hyphens.isEmpty && (← peek) == some ']'
    if bracket then discard takeSpaced
    if (← peek).isNone then failure
    let start : List CharSet :=
      if bracket then [.one ']'.toNat] else hyphens.map fun c ↦ .one c.toNat
    let (s, depth) ← classItems fuel none start 0
    let s := (← get).flags.fold s
    return (if negated then .compl s else s, depth + 1)

/-- The items of a class up to its closing bracket, after a pending operation and the `items` that
were read since. -/
def classItems : Nat → Option (SetOperation × CharSet) → List CharSet → Nat →
    Reader (CharSet × Nat)
  | 0, _, _, _ => failure
  | fuel + 1, pending, items, depth => do
    skipBlanks
    let flags := (← get).flags
    let operation (op : SetOperation) : Reader (CharSet × Nat) := do
      discard take
      discard take
      classItems fuel (some (op, combine flags pending (.unions items))) [] (depth + 1)
    match (← get).rest with
    | [] => failure
    | ']' :: _ =>
      discard take
      return (combine flags pending (.unions items), depth)
    | '&' :: '&' :: _ => operation .inter
    | '-' :: '-' :: _ => operation .diff
    | '~' :: '~' :: _ => operation .symmDiff
    | '[' :: _ =>
      match ← asciiClass with
      | some s => classItems fuel pending (items ++ [s]) depth
      | none =>
        let (s, inner) ← bracketClass fuel
        classItems fuel pending (items ++ [s]) (max depth inner)
    | _ =>
      let s ← classItem
      classItems fuel pending (items ++ [s]) depth

end

/-! ### Repetition -/

/-- The least and the greatest number of repetitions that stand in braces, as in `{2,5}`. -/
def bounds : Reader (Nat × Option Nat) := do
  expect '{'
  skipBlanks
  let least ← count
  let most ←
    match ← peek with
    | some ',' => do
      discard takeSpaced
      if (← peek) == some '}' then pure none else pure (some (← count))
    | _ => pure (some least)
  expect '}'
  match most with
  | some n => if n < least then failure
  | none => pure ()
  skipBlanks
  return (least, most)

/-! ### Groups -/

/-- What an opening parenthesis begins: `flags` alone, or a `group`. -/
inductive GroupHead
  /-- Flags for the rest of the enclosing group. -/
  | flags (flags : Flags)
  /-- A group, with the flags at its beginning. -/
  | group (flags : Flags)

/-- Whether `c` may stand in the name of a group; the first character has to be a letter. -/
def isNameChar (first : Bool) (c : Char) : Bool :=
  let n := c.toNat
  let letter := c == '_' || Span.anyHas Unicode.alphabeticSpans n
  if first then letter
  else letter || c == '.' || c == '[' || c == ']' || Span.anyHas Unicode.decimalNumberSpans n ||
    Span.anyHas Unicode.letterNumberSpans n || Span.anyHas Unicode.otherNumberSpans n

/-- The name of a group, up to the closing angle bracket, which has to be a new one. -/
def groupName : Reader Unit := do
  let state ← get
  let name := state.rest.takeWhile (· != '>')
  let wellFormed :=
    match name with
    | [] => false
    | c :: cs => isNameChar true c && cs.all (isNameChar false)
  if !wellFormed || state.names.contains name then failure
  set { state with rest := state.rest.drop name.length, names := name :: state.names }
  expect '>'

/-- Flag letters up to a colon or a closing parenthesis, which is returned.  `off` says whether a
hyphen stood before, `seen` are the letters so far and `dangling` that the hyphen came last. -/
def flagLetters : List Char → Bool → Bool → List Char → Flags →
    Option (Char × Bool × Flags × List Char)
  | [], _, _, _, _ => none
  | c :: cs, off, dangling, seen, flags =>
    if c = ':' ∨ c = ')' then
      if dangling then none else some (c, seen.isEmpty && !off, flags, cs)
    else if c = '-' then
      if off then none else flagLetters cs true true seen flags
    else if seen.contains c then none
    else
      match flags.set? (!off) c with
      | some flags => flagLetters cs off false (c :: seen) flags
      | none => none

/-- What an opening parenthesis begins; it is taken up to where the body begins.  Lookaround such as
`(?=` is refused. -/
def groupHead : Reader GroupHead := do
  expect '('
  skipBlanks
  let state ← get
  let lookaround := [['?', '='], ['?', '!'], ['?', '<', '='], ['?', '<', '!']]
  if lookaround.any fun mark ↦ mark.isPrefixOf state.rest then failure
  else if ← takeText? ['?', 'P', '<'] then
    groupName
    return .group state.flags
  else if ← takeText? ['?', '<'] then
    groupName
    return .group state.flags
  else if ← takeText? ['?'] then
    match flagLetters (← get).rest false false [] state.flags with
    | some (last, noFlags, flags, rest) =>
      modify fun state ↦ { state with rest := rest }
      if last = ':' then return .group flags
      else if noFlags then failure
      else return .flags flags
    | none => failure
  else return .group state.flags

/-! ### Alternatives -/

/-- A pattern and how deeply its pieces are nested. -/
structure Sized where
  pattern : Pattern
  depth : Nat

/-- An item of a sequence; flags alone are `none`: they match the empty text and cannot be
repeated. -/
abbrev Item := Option Sized

/-- The sequence of the `items`, as deep as its deepest one and one level more if there are
several. -/
def sequence (items : List Item) : Sized :=
  let pieces := items.filterMap id
  let depth := pieces.foldl (fun d p ↦ max d p.depth) 0
  ⟨concats (pieces.map (·.pattern)), if 2 ≤ items.length then depth + 1 else depth⟩

/-- The choice between the `branches`, as deep as the deepest one and one level more if there are
several. -/
def choice (branches : List Sized) : Sized :=
  let depth := branches.foldl (fun d p ↦ max d p.depth) 0
  ⟨alternates (branches.map (·.pattern)), if 2 ≤ branches.length then depth + 1 else depth⟩

/-- The pattern of a piece under `flags`; the reader fails where they do not allow it. -/
def ofPiece (flags : Flags) : Piece → Reader Pattern
  | .literal c byte =>
    if !flags.unicode && byte && 0x80 ≤ c.toNat then failure else return flags.literal c
  | .set s => (flags.class? s : Option Pattern)
  | .assertion a => return .assertion a
  | .dot => (flags.dot? : Option Pattern)

/-- Repeats the last item `least` to `most` times; a question mark after the repetition does not
change what matches. -/
def repeatLast (items : List Item) (least : Nat) (most : Option Nat) : Reader (List Item) := do
  match items with
  | some item :: items =>
    discard (takeText? ['?'])
    return some ⟨.repeated item.pattern least most, item.depth + 1⟩ :: items
  | _ => failure

/-- Alternatives up to a closing parenthesis or the end; `branches` and `items` are those read so
far, the last one first. -/
def body : Nat → List Sized → List Item → Reader Sized
  | 0, _, _ => failure
  | fuel + 1, branches, items => do
    skipBlanks
    let flags := (← get).flags
    match ← peek with
    | none | some ')' => return choice (sequence items.reverse :: branches).reverse
    | some '|' =>
      discard take
      body fuel (sequence items.reverse :: branches) []
    | some '(' =>
      match ← groupHead with
      | .flags inner =>
        modify fun state ↦ { state with flags := inner }
        body fuel branches (none :: items)
      | .group inner =>
        modify fun state ↦ { state with flags := inner }
        let group ← body fuel [] []
        expect ')'
        modify fun state ↦ { state with flags := flags }
        body fuel branches (some ⟨group.pattern, group.depth + 1⟩ :: items)
    | some '[' =>
      let (s, depth) ← bracketClass fuel
      let pattern ← (flags.class? s : Option Pattern)
      body fuel branches (some ⟨pattern, depth⟩ :: items)
    | some '?' =>
      discard take
      body fuel branches (← repeatLast items 0 (some 1))
    | some '*' =>
      discard take
      body fuel branches (← repeatLast items 0 none)
    | some '+' =>
      discard take
      body fuel branches (← repeatLast items 1 none)
    | some '{' =>
      let (least, most) ← bounds
      body fuel branches (← repeatLast items least most)
    | some _ =>
      let piece ←
        match ← take with
        | '\\' => escape
        | '.' => pure .dot
        | '^' => pure (.assertion (flags.anchor true))
        | '$' => pure (.assertion (flags.anchor false))
        | c => pure (.literal c false)
      body fuel branches (some ⟨← ofPiece flags piece, 0⟩ :: items)

end AssessmentItem.Pattern
