/-!
# Libraries of regular expressions

The patterns of an item are read and matched by a library.  The item hands over a text and is told
whether it is a pattern, and of a pattern whether it occurs in another text.

A pattern of an item has to match the whole of a text.  Its text is put into a group between an
anchor at the beginning and one at the end before it is read, so a closing parenthesis in the
pattern can end that group.

## Main definitions

* `PatternLibrary` : what the patterns of an item are read and matched by.
* `PatternLibrary.read?` : the pattern of a text, if it is one and keeps to the limits.
* `PatternLibrary.anchored` : the text of a pattern with anchors around it.
* `PatternLibrary.whole?` : the pattern between the anchors.
* `PatternLibrary.matchesWhole?` : whether the pattern of a text matches a whole text.
-/

namespace AssessmentItem

/-- What is read of a text from its beginning: all of it, or what stands before a closing
parenthesis that nothing opens. -/
structure PatternReading (Regex : Type) where
  regex : Regex
  /-- What is left of the text, empty or with that parenthesis in front. -/
  rest : List Char
  /-- Whether blanks and comments are passed over where the reading ends. -/
  spaced : Bool

/-- A library of regular expressions: how it reads a text, which limits it sets, and what it
matches. -/
class PatternLibrary where
  /-- What a text is read as. -/
  Regex : Type
  reading? : List Char → Option (PatternReading Regex)
  /-- Whether a regular expression keeps to the limits on depth and size. -/
  fits : Regex → Bool
  /-- Whether some part of a text matches the regular expression. -/
  occursIn : Regex → String → Bool

namespace PatternLibrary

variable [PatternLibrary]

/-- What was read is a pattern if nothing is left and it `fits`. -/
def admit? (r : PatternReading Regex) : Option Regex :=
  if r.rest.isEmpty && fits r.regex then some r.regex else none

/-- The pattern of `text`, if it is one. -/
def read? (text : String) : Option Regex := (reading? text.toList).bind admit?

/-- The text of a pattern, pasted between `^(?:` and `)$`. -/
def anchored (text : String) : String := "^(?:" ++ text ++ ")$"

/-- The pattern of `anchored text`, if that is one. -/
def whole? (text : String) : Option Regex := read? (anchored text)

/-- Whether the pattern of `anchored pattern` matches some part of `text`; there is no answer where
it is no pattern. -/
def matchesWhole? (pattern text : String) : Option Bool :=
  (whole? pattern).map fun regex ↦ occursIn regex text

end PatternLibrary

end AssessmentItem
