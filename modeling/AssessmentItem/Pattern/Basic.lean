import AssessmentItem.Unicode.Category

/-!
# Patterns

A pattern is a regular expression over sets of characters and assertions about the place between
two characters.  It is matched by moving sets of places through the text: from the places where
a match may begin, a pattern leads to the places where it may end.

## Main definitions

* `Pattern` : patterns.
* `Pattern.advance` : the places where a match ends, from those where it begins.
* `Pattern.occursIn` : whether some part of a text matches.
-/

namespace AssessmentItem

/-- A condition on the place between two characters. -/
inductive Assertion
  | textStart
  | textEnd
  /-- The beginning of a line; lines end with a line feed. -/
  | lineStart
  | lineEnd
  /-- The beginning of a line; lines end with a line feed, a carriage return or both. -/
  | crlfStart
  | crlfEnd
  /-- Exactly one of the two characters belongs to `word`. -/
  | wordBoundary (word : Unicode.CharSet)
  | noWordBoundary (word : Unicode.CharSet)
  | wordStart (word : Unicode.CharSet)
  | wordEnd (word : Unicode.CharSet)
  | noWordBefore (word : Unicode.CharSet)
  | noWordAfter (word : Unicode.CharSet)

/-- A regular expression, after its flags have been worked into it. -/
inductive Pattern
  /-- The empty text. -/
  | empty
  /-- One character of `set`. -/
  | one (set : Unicode.CharSet)
  | assertion (a : Assertion)
  | concat (p q : Pattern)
  | alternate (p q : Pattern)
  /-- At least `least` times, and at most `most` times if that is given. -/
  | repeated (p : Pattern) (least : Nat) (most : Option Nat)

/-- Whether an assertion holds between the characters `before` and `after`; at an end of the text
there is `none`. -/
def Assertion.holds (a : Assertion) (before after : Option Char) : Bool :=
  let inWord (word : Unicode.CharSet) (c : Option Char) : Bool :=
    match c with
    | some c => word.has c.toNat
    | none => false
  match a with
  | textStart => before.isNone
  | textEnd => after.isNone
  | lineStart => before.isNone || before == some '\n'
  | lineEnd => after.isNone || after == some '\n'
  | crlfStart => before.isNone || before == some '\n' || (before == some '\r' && after != some '\n')
  | crlfEnd => after.isNone || after == some '\r' || (after == some '\n' && before != some '\r')
  | wordBoundary word => inWord word before != inWord word after
  | noWordBoundary word => inWord word before == inWord word after
  | wordStart word => !inWord word before && inWord word after
  | wordEnd word => inWord word before && !inWord word after
  | noWordBefore word => !inWord word before
  | noWordAfter word => !inWord word after

namespace Pattern

/-! ### Sets of places -/

/-- The union of two increasing lists of places, itself increasing. -/
def mergePlaces : List Nat → List Nat → List Nat
  | [], js => js
  | is, [] => is
  | i :: is, j :: js =>
    if i < j then i :: mergePlaces is (j :: js)
    else if j < i then j :: mergePlaces (i :: is) js
    else i :: mergePlaces is js
  termination_by is js => is.length + js.length

/-- Applies `step` a given number of times, and no more once it changes nothing. -/
def stepTimes (step : List Nat → List Nat) : Nat → List Nat → List Nat
  | 0, places => places
  | n + 1, places =>
    let next := step places
    if next = places then places else stepTimes step n next

/-- Adds what up to `n` steps reach, and stops when nothing new is reached. -/
def stepUpTo (step : List Nat → List Nat) : Nat → List Nat → List Nat
  | 0, places => places
  | n + 1, places =>
    let more := mergePlaces places (step places)
    if more = places then places else stepUpTo step n more

/-! ### Matching -/

/-- The places where a match ends, from the increasing list of those where it begins. -/
def advance (text : Array Char) : Pattern → List Nat → List Nat
  | empty, places => places
  | one set, places =>
    places.filterMap fun i ↦
      match text[i]? with
      | some c => if set.has c.toNat then some (i + 1) else none
      | none => none
  | assertion a, places =>
    places.filter fun i ↦ a.holds (if i = 0 then none else text[i - 1]?) text[i]?
  | concat p q, places => q.advance text (p.advance text places)
  | alternate p q, places => mergePlaces (p.advance text places) (q.advance text places)
  | repeated p least most, places =>
    let reached := stepTimes (p.advance text) least places
    match most with
    | some n => stepUpTo (p.advance text) (n - least) reached
    | none => stepUpTo (p.advance text) (text.size + 1) reached

/-- Whether some part of `text` matches `p`. -/
def occursIn (p : Pattern) (text : String) : Bool :=
  let chars := text.toList.toArray
  !(p.advance chars (List.range (chars.size + 1))).isEmpty

/-- The patterns of a list, one after the other, by `concat`. -/
def concats : List Pattern → Pattern
  | [] => empty
  | [p] => p
  | p :: ps => concat p (concats ps)

/-- One of the patterns of a list, by `alternate`. -/
def alternates : List Pattern → Pattern
  | [] => empty
  | [p] => p
  | p :: ps => alternate p (alternates ps)

end Pattern

end AssessmentItem
