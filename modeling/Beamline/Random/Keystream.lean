/-!
The ChaCha keystream with 12 rounds: an endless sequence of words that is determined by a key of
eight words. A block of sixteen words follows from the key and the block's number.
-/

namespace Beamline.Random

/-- The eight words of a key. -/
structure Key where
  k0 : UInt32
  k1 : UInt32
  k2 : UInt32
  k3 : UInt32
  k4 : UInt32
  k5 : UInt32
  k6 : UInt32
  k7 : UInt32
  deriving DecidableEq, Repr, Inhabited

namespace Key

/-- One step of the generator that turns a seed into a key: the next state and a word. -/
def expansion (state : UInt64) : UInt64 × UInt32 :=
  let state := state * 6364136223846793005 + 11634580027462260723
  let word := (((state >>> 18) ^^^ state) >>> 27).toUInt32
  let turn := (state >>> 59).toUInt32
  (state, (word >>> turn) ||| (word <<< (32 - turn)))

def ofSeed (seed : UInt64) : Key :=
  let (state, k0) := expansion seed
  let (state, k1) := expansion state
  let (state, k2) := expansion state
  let (state, k3) := expansion state
  let (state, k4) := expansion state
  let (state, k5) := expansion state
  let (state, k6) := expansion state
  let (_, k7) := expansion state
  { k0, k1, k2, k3, k4, k5, k6, k7 }

end Key

def rotateLeft (word turn : UInt32) : UInt32 :=
  (word <<< turn) ||| (word >>> (32 - turn))

/-- Sixteen words in four rows of four. -/
structure Block where
  a0 : UInt32
  a1 : UInt32
  a2 : UInt32
  a3 : UInt32
  b0 : UInt32
  b1 : UInt32
  b2 : UInt32
  b3 : UInt32
  c0 : UInt32
  c1 : UInt32
  c2 : UInt32
  c3 : UInt32
  d0 : UInt32
  d1 : UInt32
  d2 : UInt32
  d3 : UInt32
  deriving DecidableEq, Repr, Inhabited

def quarterRound (a b c d : UInt32) : UInt32 × UInt32 × UInt32 × UInt32 :=
  let a := a + b
  let d := rotateLeft (d ^^^ a) 16
  let c := c + d
  let b := rotateLeft (b ^^^ c) 12
  let a := a + b
  let d := rotateLeft (d ^^^ a) 8
  let c := c + d
  let b := rotateLeft (b ^^^ c) 7
  (a, b, c, d)

namespace Block

/-- Mixes the columns and then the diagonals. -/
def doubleRound (block : Block) : Block :=
  let (a0, b0, c0, d0) := quarterRound block.a0 block.b0 block.c0 block.d0
  let (a1, b1, c1, d1) := quarterRound block.a1 block.b1 block.c1 block.d1
  let (a2, b2, c2, d2) := quarterRound block.a2 block.b2 block.c2 block.d2
  let (a3, b3, c3, d3) := quarterRound block.a3 block.b3 block.c3 block.d3
  let (a0, b1, c2, d3) := quarterRound a0 b1 c2 d3
  let (a1, b2, c3, d0) := quarterRound a1 b2 c3 d0
  let (a2, b3, c0, d1) := quarterRound a2 b3 c0 d1
  let (a3, b0, c1, d2) := quarterRound a3 b0 c1 d2
  { a0, a1, a2, a3, b0, b1, b2, b3, c0, c1, c2, c3, d0, d1, d2, d3 }

/-- The sum of two blocks, word by word. -/
def add (first second : Block) : Block where
  a0 := first.a0 + second.a0
  a1 := first.a1 + second.a1
  a2 := first.a2 + second.a2
  a3 := first.a3 + second.a3
  b0 := first.b0 + second.b0
  b1 := first.b1 + second.b1
  b2 := first.b2 + second.b2
  b3 := first.b3 + second.b3
  c0 := first.c0 + second.c0
  c1 := first.c1 + second.c1
  c2 := first.c2 + second.c2
  c3 := first.c3 + second.c3
  d0 := first.d0 + second.d0
  d1 := first.d1 + second.d1
  d2 := first.d2 + second.d2
  d3 := first.d3 + second.d3

def words (block : Block) : List UInt32 :=
  [block.a0, block.a1, block.a2, block.a3, block.b0, block.b1, block.b2, block.b3,
    block.c0, block.c1, block.c2, block.c3, block.d0, block.d1, block.d2, block.d3]

/-- The block that is mixed for a key and a number: the text "expand 32-byte k", the key, the
number, and two zeros. -/
def initial (key : Key) (number : UInt64) : Block where
  a0 := 0x61707865
  a1 := 0x3320646e
  a2 := 0x79622d32
  a3 := 0x6b206574
  b0 := key.k0
  b1 := key.k1
  b2 := key.k2
  b3 := key.k3
  c0 := key.k4
  c1 := key.k5
  c2 := key.k6
  c3 := key.k7
  d0 := number.toUInt32
  d1 := (number >>> 32).toUInt32
  d2 := 0
  d3 := 0

end Block

/-- The words of the keystream's block with the given number: twelve rounds, and what was mixed
added again. -/
def blockWords (key : Key) (number : UInt64) : List UInt32 :=
  let start := Block.initial key number
  let mixed := start.doubleRound.doubleRound.doubleRound.doubleRound.doubleRound.doubleRound
  (mixed.add start).words

end Beamline.Random
