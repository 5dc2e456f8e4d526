namespace Beamline.Number

/-- The value of a sequence of decimal digits; the empty sequence is 0. -/
def ofDigits (digits : List Char) : Nat :=
  digits.foldl (fun value digit => 10 * value + (digit.toNat - '0'.toNat)) 0

/-- The number a non-empty sequence of ASCII digits denotes. -/
def natural? (text : List Char) : Option Nat :=
  if text.isEmpty || !text.all Char.isDigit then none else some (ofDigits text)

/-- A 64-bit word in decimal, with an optional plus sign and any number of leading zeros. -/
def word? (text : String) : Option UInt64 := do
  let digits := match text.toList with
    | '+' :: rest => rest
    | all => all
  let value ← natural? digits
  if value < UInt64.size then some (UInt64.ofNat value) else none

end Beamline.Number
