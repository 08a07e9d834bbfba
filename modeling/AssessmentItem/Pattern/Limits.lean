import AssessmentItem.Pattern.Library
import AssessmentItem.Pattern.Reader

/-!
# Limits of patterns

A text is a pattern if it is read to its end and what is read is neither too deep nor too large.
The reader with these limits is the library of the patterns of items.

It covers a part of what a library of this syntax accepts.  Of the Unicode properties it knows the
general categories, the scripts and the Boolean ones of `Unicode.CharSet.properties`, so a class
such as `\p{Hex_Digit}`, `\p{Emoji}`, `\p{Age=6.0}` or `\p{scx=Greek}` is refused, and the size of
an automaton is an estimate.  What is to hold of every text is therefore said of any
`PatternLibrary`.

## Main definitions

* `Pattern.maxDepth`, `Pattern.maxSize` : the limits.
* `Pattern.size` : the estimated size of the automaton of a pattern.
* `Pattern.library` : the reader as a `PatternLibrary`.
-/

namespace AssessmentItem.Pattern

open Unicode (CharSet)

/-- How deeply the pieces of a pattern may be nested, by `Sized.depth`. -/
def maxDepth : Nat := 250

/-- The bound on the `size` of a pattern, in bytes. -/
def maxSize : Nat := 10485760

/-- The number of spans by which a `CharSet` is given. -/
def spanCount : CharSet → Nat
  | .spans list => list.length
  | .compl s => spanCount s + 1
  | .union s t => spanCount s + spanCount t
  | .inter s t => spanCount s + spanCount t
  | .folded _ s => 2 * spanCount s

/-- The estimated size of the automaton of a pattern, in bytes. -/
def size : Pattern → Nat
  | empty => 0
  | one set => 60 * spanCount set
  | assertion _ => 30
  | concat p q => size p + size q
  | alternate p q => size p + size q + 60
  | repeated p least most => size p * (max least (most.getD (least + 1))) + 60

/-- The reader `body` with its limits, as the library that runs. -/
instance library : PatternLibrary where
  Regex := Sized
  reading? cs := ((body (cs.length + 1) [] []).run ⟨cs, {}, []⟩).map fun (sized, state) ↦
    ⟨sized, state.rest, state.flags.spaced⟩
  fits sized := sized.depth ≤ maxDepth && size sized.pattern ≤ maxSize
  occursIn sized text := sized.pattern.occursIn text

end AssessmentItem.Pattern
