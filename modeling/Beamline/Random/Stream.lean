import Beamline.Fault
import Beamline.Random.Keystream

/-!
Random numbers drawn from a keystream: words, double words, and floating-point numbers from a
range. The stream of an event depends on the run's seed and on the number of the event, and on
nothing else.
-/

namespace Beamline.Random

/-- What is left of a keystream: the rest of the current block and all blocks from a number on. -/
structure Stream where
  key : Key
  nextBlock : UInt64 := 0
  pending : List UInt32 := []
  deriving DecidableEq, Repr, Inhabited

/-- The seed of an event's stream: the run's seed, with the bits of a multiple of the event's
number inverted. -/
def eventSeed (seed event : UInt64) : UInt64 :=
  seed ^^^ ((event + 1) * 0x9E3779B97F4A7C15)

namespace Stream

def ofSeed (seed : UInt64) : Stream :=
  { key := .ofSeed seed }

/-- The stream of an event, at its start. -/
def ofEvent (seed event : UInt64) : Stream :=
  ofSeed (eventSeed seed event)

def word (stream : Stream) : UInt32 × Stream :=
  match stream.pending with
  | first :: rest => (first, { stream with pending := rest })
  | [] =>
    match blockWords stream.key stream.nextBlock with
    | first :: rest =>
      (first, { stream with nextBlock := stream.nextBlock + 1, pending := rest })
    | [] => (0, stream)

/-- The next two words as one, the first being the lower half. -/
def doubleWord (stream : Stream) : UInt64 × Stream :=
  let (low, stream) := stream.word
  let (high, stream) := stream.word
  (low.toUInt64 ||| (high.toUInt64 <<< 32), stream)

/-- A number from 0 up to and without 1, in steps of `2 ^ -52`. -/
def fraction (stream : Stream) : Float × Stream :=
  let (bits, stream) := stream.doubleWord
  (Float.ofBits ((bits >>> 12) ||| 0x3FF0000000000000) - 1, stream)

/-- Draws until a number below `high` comes. Rounding can produce `high` itself, but in a range of
finite width no more often than in one case of two, so the attempts suffice. -/
def below (attempts : Nat) (low high width : Float) (stream : Stream) : Float × Stream :=
  let (part, stream) := stream.fraction
  let drawn := part * width + low
  match attempts with
  | 0 => (drawn, stream)
  | attempts + 1 => if drawn < high then (drawn, stream) else below attempts low high width stream

/-- A number from `low` up to and without `high`. -/
def within (low high : Float) (stream : Stream) : Except Fault Float × Stream :=
  if low < high then
    let (drawn, stream) := stream.below 4096 low high (high - low)
    (.ok drawn, stream)
  else (.error .emptyRange, stream)

/-- The greatest number that `fraction` draws. -/
def greatestFraction : Float :=
  Float.ofBits 0x3FEFFFFFFFFFFFFE

/-- Lowers a width, bit pattern by bit pattern, until the greatest fraction of it stays in the
range. -/
def fittingWidth (low high : Float) (width : UInt64) : Float :=
  if Float.ofBits width * greatestFraction + low > high then
    if positive : 0 < width then fittingWidth low high (width - 1) else Float.ofBits width
  else Float.ofBits width
  termination_by width.toNat
  decreasing_by
    rw [UInt64.lt_iff_toNat_lt] at positive
    have isOne : (1 : UInt64).toNat = 1 := rfl
    have atLeast : (1 : UInt64) ≤ width := by
      rw [UInt64.le_iff_toNat_le, isOne]
      exact positive
    rw [UInt64.toNat_sub_of_le _ _ atLeast, isOne]
    exact Nat.sub_lt positive Nat.one_pos

/-- A number from `low` up to and including `high`. -/
def upTo (low high : Float) (stream : Stream) : Except Fault Float × Stream :=
  if low ≤ high then
    let width := fittingWidth low high ((high - low) / greatestFraction).toBits
    let (part, stream) := stream.fraction
    (.ok (part * width + low), stream)
  else (.error .emptyRange, stream)

end Stream

/-- What can be drawn from a stream. -/
inductive Draw
  | word
  | doubleWord
  /-- A number from a range, whose upper end may be included. -/
  | range (low high : Float) (inclusive : Bool)
  deriving Inhabited

/-- What was drawn. -/
inductive Drawn
  | word (value : UInt32)
  | doubleWord (value : UInt64)
  | number (value : Float)
  deriving Inhabited

def Draw.perform (draw : Draw) (stream : Stream) : Except Fault Drawn × Stream :=
  match draw with
  | .word =>
    let (value, stream) := stream.word
    (.ok (.word value), stream)
  | .doubleWord =>
    let (value, stream) := stream.doubleWord
    (.ok (.doubleWord value), stream)
  | .range low high inclusive =>
    let (value, stream) := if inclusive then stream.upTo low high else stream.within low high
    (value.map .number, stream)

end Beamline.Random
