/-!
# The stream of random words

The random words are those of the ChaCha stream cipher with twelve rounds and the nonce zero.
The key is expanded from a seed of 64 bits by a permuted congruential generator.

## Main definitions

* `Random.Key` : the eight words of a key.
* `Random.Key.ofSeed` : the key of a seed.
* `Random.Key.block` : the sixteen words of a block.
* `Random.Key.draw` : the words of 64 bits that the stream gives, by their number.
-/

namespace AssessmentItem.Random

/-- The eight words of a key. -/
abbrev Key := Vector UInt32 8

/-- The sixteen words of a block. -/
abbrev Block := Vector UInt32 16

/-! ### Keys -/

/-- The next state of the generator that expands seeds: a linear congruence modulo `2 ^ 64`. -/
def nextState (state : UInt64) : UInt64 := state * 6364136223846793005 + 11634580027462260723

/-- The word that `state` gives, by shifts and a turn. -/
def outputWord (state : UInt64) : UInt32 :=
  let x := (((state >>> 18) ^^^ state) >>> 27).toUInt32
  let turn := (state >>> 59).toUInt32
  (x >>> turn) ||| (x <<< ((32 - turn) % 32))

/-- The state after `n + 1` steps from a seed. -/
def stateAfter (seed : UInt64) : Nat → UInt64
  | 0 => nextState seed
  | n + 1 => nextState (stateAfter seed n)

/-- The key of `seed`: the words of its first eight states. -/
def Key.ofSeed (seed : UInt64) : Key := Vector.ofFn fun i ↦ outputWord (stateAfter seed i)

/-! ### Blocks -/

/-- The word `x` turned to the left by `n` bits. -/
def rotateLeft (x : UInt32) (n : UInt32) : UInt32 := (x <<< n) ||| (x >>> (32 - n))

/-- Mixes the words `a`, `b`, `c` and `d` of a block. -/
def quarterRound (v : Block) (a b c d : Fin 16) : Block :=
  let v := v.set a (v[a] + v[b])
  let v := v.set d (rotateLeft (v[d] ^^^ v[a]) 16)
  let v := v.set c (v[c] + v[d])
  let v := v.set b (rotateLeft (v[b] ^^^ v[c]) 12)
  let v := v.set a (v[a] + v[b])
  let v := v.set d (rotateLeft (v[d] ^^^ v[a]) 8)
  let v := v.set c (v[c] + v[d])
  v.set b (rotateLeft (v[b] ^^^ v[c]) 7)

/-- Mixes the columns and then the diagonals, each by `quarterRound`. -/
def doubleRound (v : Block) : Block :=
  let v := quarterRound v 0 4 8 12
  let v := quarterRound v 1 5 9 13
  let v := quarterRound v 2 6 10 14
  let v := quarterRound v 3 7 11 15
  let v := quarterRound v 0 5 10 15
  let v := quarterRound v 1 6 11 12
  let v := quarterRound v 2 7 8 13
  quarterRound v 3 4 9 14

/-- The block that is mixed: four constant words, the `key`, the number of the block and a nonce of
zeros. -/
def Key.start (key : Key) (counter : UInt64) : Block :=
  (#v[0x61707865, 0x3320646e, 0x79622d32, 0x6b206574] : Vector UInt32 4) ++ key ++
    (#v[counter.toUInt32, (counter >>> 32).toUInt32, 0, 0] : Vector UInt32 4)

/-- The block with the number `counter`: six times `doubleRound`, added to `start`. -/
def Key.block (key : Key) (counter : UInt64) : Block :=
  let start := key.start counter
  let mixed := Nat.repeat doubleRound 6 start
  mixed.zipWith (· + ·) start

/-- The `n`-th word of 64 bits: two words of the stream, the low one first. -/
def Key.draw (key : Key) (n : Nat) : UInt64 :=
  let block := key.block (UInt64.ofNat (n / 8))
  let i := n % 8
  have hi : i < 8 := Nat.mod_lt _ (by decide)
  block[2 * i].toUInt64 ||| (block[2 * i + 1].toUInt64 <<< 32)

end AssessmentItem.Random
