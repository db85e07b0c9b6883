import GrammaticalEvolution.Random.Source

/-!
# Seeded key stream

A seed is expanded to a key, and the key gives a stream of words, block by
block: a block is twelve rounds of the quarter-round permutation on constants,
key and block counter, added to its own start.  Equal seeds give equal streams
everywhere.
-/

namespace GrammaticalEvolution

namespace KeyStream

abbrev Block := Vector UInt32 16

def rotateLeft (word : UInt32) (count : UInt32) : UInt32 :=
  (word <<< count) ||| (word >>> (32 - count))

def rotateRight (word : UInt32) (count : UInt32) : UInt32 :=
  (word >>> count) ||| (word <<< (32 - count))

/-- Add one word to a second and rotate a third, mixed with the sum. -/
def mix (block : Block) (target addend mixed : Fin 16) (count : UInt32) :
    Block :=
  let sum := block[target] + block[addend]
  let block := block.set target sum
  block.set mixed (rotateLeft (block[mixed] ^^^ sum) count)

def quarterRound (block : Block) (first second third fourth : Fin 16) :
    Block :=
  let block := mix block first second fourth 16
  let block := mix block third fourth second 12
  let block := mix block first second fourth 8
  mix block third fourth second 7

/-- One round on the columns and one on the diagonals. -/
def doubleRound (block : Block) : Block :=
  let block := quarterRound block 0 4 8 12
  let block := quarterRound block 1 5 9 13
  let block := quarterRound block 2 6 10 14
  let block := quarterRound block 3 7 11 15
  let block := quarterRound block 0 5 10 15
  let block := quarterRound block 1 6 11 12
  let block := quarterRound block 2 7 8 13
  quarterRound block 3 4 9 14

def iterate {α : Type} (step : α → α) : Nat → α → α
  | 0, value => value
  | count + 1, value => iterate step count (step value)

def doubleRounds : Nat := 6

/-- The start of a block: constants, key, block counter and zeros. -/
def start (key : Vector UInt32 8) (counter : UInt64) : Block :=
  #v[0x61707865, 0x3320646e, 0x79622d32, 0x6b206574,
    key[0], key[1], key[2], key[3], key[4], key[5], key[6], key[7],
    counter.toUInt32, (counter >>> 32).toUInt32, 0, 0]

def block (key : Vector UInt32 8) (counter : UInt64) : Block :=
  let first := start key counter
  Vector.zipWith (· + ·) (iterate doubleRound doubleRounds first) first

/-- The next state of the generator that expands a seed. -/
def advanceSeed (state : UInt64) : UInt64 :=
  state * 6364136223846793005 + 11634580027462260723

/-- The word that a state of the seed generator gives. -/
def seedWord (state : UInt64) : UInt32 :=
  let mixed := (((state >>> 18) ^^^ state) >>> 27).toUInt32
  rotateRight mixed (state >>> 59).toUInt32

def keyOfSeed (seed : UInt64) : Vector UInt32 8 :=
  Vector.ofFn fun position =>
    seedWord (iterate advanceSeed (position.val + 1) seed)

end KeyStream

/-- A position in the stream of a key: the words left of the current block and
the counter of the next one. -/
structure SeededWords where
  key : Vector UInt32 8
  counter : UInt64
  pending : List UInt32
deriving DecidableEq, Repr

namespace SeededWords

def ofSeed (seed : UInt64) : SeededWords :=
  ⟨KeyStream.keyOfSeed seed, 0, []⟩

def next (source : SeededWords) : UInt32 × SeededWords :=
  match source.pending with
  | word :: rest => (word, { source with pending := rest })
  | [] =>
      match (KeyStream.block source.key source.counter).toList with
      | word :: rest => (word, ⟨source.key, source.counter + 1, rest⟩)
      | [] => (0, source)

instance : WordSource SeededWords where
  word32 := next
  word64 source :=
    let (low, source) := source.next
    let (high, source) := source.next
    (low.toUInt64 ||| (high.toUInt64 <<< 32), source)

end SeededWords

end GrammaticalEvolution
