/-!
# A seeded stream of words

A 64-bit seed is expanded to a key of eight words, and the key drives a stream cipher with twelve
rounds.  Blocks of sixteen words are produced for the counters zero, one, two and so on, and their
words are used in order.
-/

namespace LowRank.Random

/-- The words of one cipher block. -/
abbrev Words : Type :=
  Vector UInt32 16

/-- One step of the congruential sequence that expands a seed. -/
def advanceSeed (state : UInt64) : UInt64 :=
  state * 6364136223846793005 + 11634580027462260723

/-- A word rotated to the right by less than its width. -/
def rotateRight (word amount : UInt32) : UInt32 :=
  (word >>> amount) ||| (word <<< ((32 - amount) % 32))

/-- A word rotated to the left by less than its width. -/
def rotateLeft (word amount : UInt32) : UInt32 :=
  rotateRight word ((32 - amount) % 32)

/-- The output word of a state of the congruential sequence. -/
def seedWord (state : UInt64) : UInt32 :=
  rotateRight (((state >>> 18) ^^^ state) >>> 27).toUInt32 (state >>> 59).toUInt32

/-- The first words of the sequence that follows a state. -/
def seedWords : Nat → UInt64 → List UInt32
  | 0, _ => []
  | count + 1, state =>
      let next := advanceSeed state
      seedWord next :: seedWords count next

def key (seed : UInt64) : List UInt32 :=
  seedWords 8 seed

/-- The four words that every cipher block starts from. -/
def constants : List UInt32 :=
  [0x61707865, 0x3320646e, 0x79622d32, 0x6b206574]

/-- The words that are mixed for a key and a counter. -/
def initialWords (key : List UInt32) (counter : UInt64) : Words :=
  let words := constants ++ key ++ [counter.toUInt32, (counter >>> 32).toUInt32, 0, 0]
  Vector.ofFn fun index => words.getD index 0

def quarterRound (words : Words) (a b c d : Fin 16) : Words :=
  let words := words.set a (words[a] + words[b])
  let words := words.set d (rotateLeft (words[d] ^^^ words[a]) 16)
  let words := words.set c (words[c] + words[d])
  let words := words.set b (rotateLeft (words[b] ^^^ words[c]) 12)
  let words := words.set a (words[a] + words[b])
  let words := words.set d (rotateLeft (words[d] ^^^ words[a]) 8)
  let words := words.set c (words[c] + words[d])
  words.set b (rotateLeft (words[b] ^^^ words[c]) 7)

/-- Mixes the columns of a block and then its diagonals. -/
def doubleRound (words : Words) : Words :=
  let words := quarterRound words 0 4 8 12
  let words := quarterRound words 1 5 9 13
  let words := quarterRound words 2 6 10 14
  let words := quarterRound words 3 7 11 15
  let words := quarterRound words 0 5 10 15
  let words := quarterRound words 1 6 11 12
  let words := quarterRound words 2 7 8 13
  quarterRound words 3 4 9 14

/-- The words of the block with the given counter. -/
def cipherBlock (key : List UInt32) (counter : UInt64) : Words :=
  let start := initialWords key counter
  let mixed := Nat.repeat doubleRound 6 start
  Vector.zipWith (· + ·) mixed start

/-- A place in the stream of words of a key. -/
structure Generator where
  key : List UInt32
  counter : UInt64
  block : Words
  /-- Which word of the present block comes next. -/
  index : Fin 16

namespace Generator

/-- The beginning of a block. -/
def atBlock (key : List UInt32) (counter : UInt64) : Generator :=
  { key, counter, block := cipherBlock key counter, index := 0 }

/-- The beginning of the stream of a seed. -/
def ofSeed (seed : UInt64) : Generator :=
  atBlock (Random.key seed) 0

def word (generator : Generator) : UInt32 × Generator :=
  let following :=
    if generator.index = 15 then atBlock generator.key (generator.counter + 1)
    else { generator with index := generator.index + 1 }
  (generator.block[generator.index], following)

/-- The next two words as one number, the lower half first. -/
def doubleWord (generator : Generator) : UInt64 × Generator :=
  let (low, generator) := generator.word
  let (high, generator) := generator.word
  (low.toUInt64 + (high.toUInt64 <<< 32), generator)

end Generator

end LowRank.Random
