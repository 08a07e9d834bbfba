import AssessmentItem.Unicode.Category.Letters
import AssessmentItem.Unicode.Category.Marks
import AssessmentItem.Unicode.Category.Punctuation
import AssessmentItem.Unicode.Category.Symbols
import AssessmentItem.Unicode.Property
import AssessmentItem.Unicode.Script

/-!
# Named sets of characters

The general categories, their groups, the scripts and a few properties, under the names and
abbreviations by which a pattern refers to them.  Names are compared without regard to case,
spaces, hyphens and underscores.

## Main definitions

* `CharSet` : sets of characters given by spans and set operations.
* `CharSet.has` : membership.
* `CharSet.named?` : the set of a name.
* `CharSet.word`, `CharSet.digit`, `CharSet.blank` : the sets behind the three short classes.
-/

namespace AssessmentItem.Unicode

/-- A set of characters, given by spans of code points and the operations on sets. -/
inductive CharSet
  /-- The code points of the spans. -/
  | spans (list : List Span)
  /-- All other characters. -/
  | compl (s : CharSet)
  | union (s t : CharSet)
  | inter (s t : CharSet)
  /-- Every character that differs from a member in case alone, by `variants`. -/
  | folded (variants : Nat → List Nat) (s : CharSet)

namespace CharSet

/-- Whether the code point `n` is in the set. -/
def has : CharSet → Nat → Bool
  | spans list, n => Span.anyHas list n
  | compl s, n => !s.has n
  | union s t, n => s.has n || t.has n
  | inter s t, n => s.has n && t.has n
  | folded variants s, n => s.has n || (variants n).any s.has

/-- The set without members. -/
def none : CharSet := spans []

/-- The set of the code point `n`. -/
def one (n : Nat) : CharSet := spans [⟨n, n, 1⟩]

/-- The code points from `first` to `last`. -/
def range (first last : Nat) : CharSet := spans [⟨first, last, 1⟩]

/-- The members of `s` that are not in `t`. -/
def diff (s t : CharSet) : CharSet := inter s (compl t)

/-- The members of exactly one of `s` and `t`. -/
def symmDiff (s t : CharSet) : CharSet := union (diff s t) (diff t s)

/-- The members of all sets of `l`. -/
def unions (l : List CharSet) : CharSet := l.foldl union none

/-! ### Named sets -/

/-- The decimal digits, `\d` in patterns. -/
def digit : CharSet := spans decimalNumberSpans

/-- The blank characters, `\s` in patterns. -/
def blank : CharSet :=
  spans [⟨0x09, 0x0D, 1⟩, ⟨0x20, 0x20, 1⟩, ⟨0x85, 0x85, 1⟩, ⟨0xA0, 0xA0, 1⟩, ⟨0x1680, 0x1680, 1⟩,
    ⟨0x2000, 0x200A, 1⟩, ⟨0x2028, 0x2029, 1⟩, ⟨0x202F, 0x202F, 1⟩, ⟨0x205F, 0x205F, 1⟩,
    ⟨0x3000, 0x3000, 1⟩]

/-- Letters, marks, decimal digits, connecting punctuation and the two joiners: `\w` in patterns. -/
def word : CharSet :=
  unions [spans alphabeticSpans, spans nonspacingMarkSpans, spans spacingMarkSpans,
    spans enclosingMarkSpans, digit, spans connectorPunctuationSpans, range 0x200C 0x200D]

/-- The general categories with their abbreviation and their full names. -/
def categories : List (List String × List Span) := [
  (["lu", "uppercaseletter"], uppercaseLetterSpans),
  (["ll", "lowercaseletter"], lowercaseLetterSpans),
  (["lt", "titlecaseletter"], titlecaseLetterSpans),
  (["lm", "modifierletter"], modifierLetterSpans),
  (["lo", "otherletter"], otherLetterSpans),
  (["mn", "nonspacingmark"], nonspacingMarkSpans),
  (["mc", "spacingmark"], spacingMarkSpans),
  (["me", "enclosingmark"], enclosingMarkSpans),
  (["nd", "decimalnumber", "digit"], decimalNumberSpans),
  (["nl", "letternumber"], letterNumberSpans),
  (["no", "othernumber"], otherNumberSpans),
  (["pc", "connectorpunctuation"], connectorPunctuationSpans),
  (["pd", "dashpunctuation"], dashPunctuationSpans),
  (["ps", "openpunctuation"], openPunctuationSpans),
  (["pe", "closepunctuation"], closePunctuationSpans),
  (["pi", "initialpunctuation"], initialPunctuationSpans),
  (["pf", "finalpunctuation"], finalPunctuationSpans),
  (["po", "otherpunctuation"], otherPunctuationSpans),
  (["sm", "mathsymbol"], mathSymbolSpans),
  (["sc", "currencysymbol"], currencySymbolSpans),
  (["sk", "modifiersymbol"], modifierSymbolSpans),
  (["so", "othersymbol"], otherSymbolSpans),
  (["zs", "spaceseparator"], spaceSeparatorSpans),
  (["zl", "lineseparator"], lineSeparatorSpans),
  (["zp", "paragraphseparator"], paragraphSeparatorSpans),
  (["cc", "control", "cntrl"], controlSpans),
  (["cf", "format"], formatSpans),
  (["co", "privateuse"], privateUseSpans)]

/-- All code points that one of the `categories` lists. -/
def assigned : CharSet := unions (categories.map fun c ↦ spans c.2)

/-- The union of the `categories` whose abbreviation begins with `letter`. -/
def group (letter : Char) : CharSet :=
  unions ((categories.filter fun c ↦ c.1.any fun name ↦
    name.length == 2 && name.toList.head? == some letter).map fun c ↦ spans c.2)

/-- The groups of categories and the sets that are not given by a category. -/
def groups : List (List String × CharSet) := [
  (["any"], compl none),
  (["ascii"], range 0 0x7F),
  (["assigned"], assigned),
  (["cn", "unassigned"], compl assigned),
  (["cs", "surrogate"], none),
  (["l", "letter"], group 'l'),
  (["lc", "casedletter"],
    unions [spans uppercaseLetterSpans, spans lowercaseLetterSpans, spans titlecaseLetterSpans]),
  (["m", "mark", "combiningmark"], group 'm'),
  (["n", "number"], group 'n'),
  (["p", "punctuation", "punct"], group 'p'),
  (["s", "symbol"], group 's'),
  (["z", "separator"], group 'z'),
  (["c", "other"], union (group 'c') (compl assigned))]

/-- The Boolean properties that are known, with their names. -/
def properties : List (List String × CharSet) := [
  (["alphabetic", "alpha"], spans alphabeticSpans),
  (["lowercase", "lower"], spans lowercaseSpans),
  (["uppercase", "upper"], spans uppercaseSpans),
  (["cased"],
    unions [spans lowercaseSpans, spans uppercaseSpans, spans titlecaseLetterSpans]),
  (["caseignorable", "ci"], spans caseIgnorableSpans),
  (["whitespace", "wspace", "space"], blank),
  (["joincontrol", "joinc"], range 0x200C 0x200D)]

/-- A name in small letters, without what separates its words and without a leading `is`. -/
def normalName (cs : List Char) : String :=
  let kept := (cs.filter fun c ↦
    c.toNat < 0x80 && c != ' ' && c != '_' && c != '-').map Char.toLower
  match kept with
  | 'i' :: 's' :: rest => if rest == ['c'] then "isc" else String.ofList rest
  | _ => String.ofList kept

/-- The entry of `list` among whose names is `name`. -/
def lookup? {α : Type} (list : List (List String × α)) (name : String) : Option α :=
  (list.find? fun e ↦ e.1.contains name).map (·.2)

/-- The set of a general category or of one of the `groups` of them. -/
def category? (name : String) : Option CharSet :=
  lookup? groups name <|> (lookup? categories name).map spans

/-- The set of one of the `scripts`. -/
def script? (name : String) : Option CharSet := (lookup? scripts name).map spans

/-- The set of a name: one of the `properties`, a category, a group of categories or a script. -/
def named? (cs : List Char) : Option CharSet :=
  let name := normalName cs
  lookup? properties name <|> category? name <|> script? name

/-- The set of a property with a value, as in `gc=Lu`. -/
def valued? (property value : List Char) : Option CharSet :=
  let property := normalName property
  if ["gc", "generalcategory"].contains property then category? (normalName value)
  else if ["sc", "script"].contains property then script? (normalName value)
  else Option.none

end CharSet

end AssessmentItem.Unicode
