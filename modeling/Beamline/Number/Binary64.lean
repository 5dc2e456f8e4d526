/-!
Binary64 numbers taken apart: the exact value as a natural number times a power of two, the natural
numbers among them, decimal text with a fixed number of places, and conversion to clamped 32-bit
words.
-/

namespace Beamline.Number

/-- The sign bit, which is also set for negative zero. -/
def signBit (x : Float) : Bool :=
  x.toBits >>> 63 == 1

def exponentField (x : Float) : Nat :=
  ((x.toBits >>> 52) &&& 0x7FF).toNat

/-- The natural number `m` for which a finite `x` is `± m * 2 ^ binaryExponent x`. -/
def significand (x : Float) : Nat :=
  let fraction := (x.toBits &&& 0xFFFFFFFFFFFFF).toNat
  if exponentField x = 0 then fraction else Nat.pow 2 52 + fraction

/-- The power of two that scales `significand`. -/
def binaryExponent (x : Float) : Int :=
  if exponentField x = 0 then -1074 else (exponentField x : Int) - 1075

/-- The quotient rounded to the nearest natural number, a tie to the even neighbour. -/
def roundDiv (numerator denominator : Nat) : Nat :=
  let quotient := numerator / denominator
  let remainder := numerator % denominator
  if 2 * remainder > denominator || (2 * remainder == denominator && quotient % 2 == 1) then
    quotient + 1
  else quotient

/-- The nearest natural number that is a binary64 number, a tie to the even significand. Of the
binary digits of a number the first 53 are kept. -/
def nearestNatural (value : Nat) : Nat :=
  let unit := Nat.pow 2 (value.log2 + 1 - 53)
  roundDiv value unit * unit

/-- The magnitude of a finite number in units of `10 ^ -places`, rounded to nearest. -/
def scaledMagnitude (places : Nat) (x : Float) : Nat :=
  let scaled := significand x * Nat.pow 10 places
  if 0 ≤ binaryExponent x then scaled * Nat.pow 2 (binaryExponent x).toNat
  else roundDiv scaled (Nat.pow 2 (-binaryExponent x).toNat)

/-- A number of units of `10 ^ -places` with its decimal point. -/
def pointed (places units : Nat) : String :=
  let fraction := toString (units % Nat.pow 10 places)
  toString (units / Nat.pow 10 places) ++ "." ++
    String.ofList (List.replicate (places - fraction.length) '0') ++ fraction

/-- Decimal text with exactly `places` digits after the point. The exact value is rounded, a tie
goes to the even digit, and a negative sign is kept even where only zeros remain. -/
def fixed (places : Nat) (x : Float) : String :=
  if x.isNaN then "NaN"
  else (if signBit x then "-" else "") ++
    if x.isInf then "inf" else pointed places (scaledMagnitude places x)

/-- The floor as a 32-bit word, clamped to the words; not-a-number gives 0. Cutting off the
fraction suffices, since below zero the clamp decides. -/
def floorWord (x : Float) : UInt32 :=
  x.toUInt32

/-- The nearest 32-bit word, a tie going up, clamped to the words; not-a-number gives 0. The
difference to the floor is exact, so no rounding of `x + 0.5` interferes. -/
def roundWord (x : Float) : UInt32 :=
  let floor := floorWord x
  if x - floor.toFloat ≥ 0.5 && floor < 0xFFFFFFFF then floor + 1 else floor

end Beamline.Number
