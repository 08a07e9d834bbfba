import AssessmentItem.Random.Stream
import AssessmentItem.Binary64.Parts

/-!
# Random choices

A generator is a key and the number of words drawn so far.  A choice among `n` is made from the
high half of the product of a word with `n`; words whose low half falls into the incomplete last
zone are drawn again, so that every choice is equally likely.

## Main definitions

* `Generator` : the state of the draws, started by `Generator.ofSeed`.
* `Generator.below` : a natural number below a bound.
* `Generator.between` : a floating-point number in a closed interval, if its width is finite.

## Implementation notes

Two loops of the sampling method have no bound: words are drawn until `Generator.zone` accepts one,
and a scale is corrected until it fits.  Here each gets `rounds` rounds.  As every word is refused
with a chance below one half, a choice that would take more of them does not come up in practice,
but it is not excluded, and `Generator.belowWith` then takes the last word as it is.
-/

namespace AssessmentItem

/-- The state of the random draws: a `key` and the number of words already `drawn`. -/
structure Generator where
  key : Random.Key
  drawn : Nat
  deriving DecidableEq

namespace Generator

/-- The generator of `seed`, before the first draw. -/
def ofSeed (seed : UInt64) : Generator := ⟨Random.Key.ofSeed seed, 0⟩

/-- The next word of 64 bits, by `Random.Key.draw`. -/
def next (g : Generator) : UInt64 × Generator := (g.key.draw g.drawn, ⟨g.key, g.drawn + 1⟩)

/-- The largest low half that is accepted for a choice among `n`. -/
def zone (n : Nat) : Nat := n * Nat.pow 2 (63 - Nat.log2 n) - 1

/-- The bound on the rounds of a loop that has none in the method. -/
def rounds : Nat := 1000

/-- Draws until a word is accepted.  `fuel` bounds the draws; the word after them is taken as it is,
although the method would go on. -/
def belowWith (n : Nat) (g : Generator) : Nat → Nat × Generator
  | 0 =>
    let (word, g) := g.next
    (word.toNat * n / 18446744073709551616, g)
  | fuel + 1 =>
    let (word, g) := g.next
    let product := word.toNat * n
    if product % 18446744073709551616 ≤ zone n then (product / 18446744073709551616, g)
    else belowWith n g fuel

/-- A natural number below `n`, for `n` from 1 to `2 ^ 63`. -/
def below (n : Nat) (g : Generator) : Nat × Generator := belowWith n g rounds

/-- The next smaller floating-point number of a positive `x`. -/
def smaller (x : Float) : Float := Float.ofBits (x.toBits - 1)

/-- The greatest fraction that a draw gives, `1 - 2 ^ -52`. -/
def greatestFraction : Float := 1 - 1 / 4503599627370496

/-- The scale by which fractions are spread over the interval: the largest at which the greatest
fraction does not pass the upper end.  `fuel` bounds the corrections. -/
def scaleFor (low high scale : Float) : Nat → Float
  | 0 => scale
  | fuel + 1 =>
    if scale * greatestFraction + low > high then scaleFor low high (smaller scale) fuel
    else scale

/-- A floating-point number from `low` to `high`: a fraction of 52 bits, scaled and moved.  There is
none, and nothing is drawn, where the width overflows. -/
def between (low high : Float) (g : Generator) : Option (Float × Generator) :=
  let scale := (high - low) / greatestFraction
  if scale.isFinite then
    let (word, g) := g.next
    let fraction := Float.ofNat (word >>> 12).toNat / 4503599627370496
    some (fraction * scaleFor low high scale rounds + low, g)
  else none

end Generator

end AssessmentItem
